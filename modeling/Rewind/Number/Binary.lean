namespace Rewind.Number

/-- A nonnegative number `mantissa · 2 ^ exponent`. -/
structure Binary where
  mantissa : Nat
  exponent : Int

/-- The numerator of the number as a fraction over `Binary.den`. -/
def Binary.num (b : Binary) : Nat := b.mantissa * Nat.pow 2 b.exponent.toNat

/-- The denominator of the number, a power of two. -/
def Binary.den (b : Binary) : Nat := Nat.pow 2 (-b.exponent).toNat

/-- The magnitude of a double. -/
inductive Magnitude where
  | nan
  | infinite
  | finite (value : Binary)

/-- The place of the sign in the bits of a double, `2 ^ 63`. -/
def signUnit : Nat := 0x8000000000000000

/-- The place of the exponent field in the bits of a double, `2 ^ 52`: also the
    least mantissa of a normal double. -/
def fieldUnit : Nat := 0x10000000000000

/-- The sign bit of `x`, which zeros and NaNs have too. -/
def isNegative (x : Float) : Bool := signUnit ≤ x.toBits.toNat

/-- The exponent of the smallest positive double. -/
def leastExponent : Int := -1074

/-- Takes a double apart. A finite magnitude has a mantissa below `2 ^ 53`, and
    one of at least `2 ^ 52` unless its exponent is the least one. -/
def magnitude (x : Float) : Magnitude :=
  let bits := x.toBits.toNat % signUnit
  let field := bits / fieldUnit
  let fraction := bits % fieldUnit
  if field == 2047 then
    if fraction == 0 then .infinite else .nan
  else if field == 0 then .finite ⟨fraction, leastExponent⟩
  else .finite ⟨fieldUnit + fraction, leastExponent + (field - 1 : Nat)⟩

/-- Whether `x` is a NaN. -/
def isNaN (x : Float) : Bool :=
  match magnitude x with
  | .nan => true
  | _ => false

/-- Whether `x` is a zero of either sign. -/
def isZero (x : Float) : Bool :=
  match magnitude x with
  | .finite value => value.mantissa == 0
  | _ => false

/-- The NaN that stands for a missing number. -/
def nan : Float := Float.ofBits 0x7ff8000000000000

/-- The quotient `n / d` rounded to the nearest integer, a half to the even one. -/
def roundDiv (n d : Nat) : Nat :=
  let q := n / d
  let r := n % d
  if d < 2 * r || (2 * r == d && q % 2 == 1) then q + 1 else q

/-- The bits of the double nearest to `num / den`, a half going to the even
    mantissa. The mantissa is added to the exponent field, so one that rounds up
    to the next power of two carries into the exponent, and past the largest
    double into infinity. -/
def nearestBits (num den : Nat) : Nat :=
  if num == 0 then 0
  else
    let guess : Int := (num.log2 : Int) - den.log2
    let top := if den * Nat.pow 2 guess.toNat ≤ num * Nat.pow 2 (-guess).toNat then guess else guess - 1
    let exponent := max (top - 52) leastExponent
    let mantissa := roundDiv (num * Nat.pow 2 (-exponent).toNat) (den * Nat.pow 2 exponent.toNat)
    min ((exponent - leastExponent).toNat * fieldUnit + mantissa) (2047 * fieldUnit)

/-- The double nearest to `num / den`, with the given sign. -/
def nearest (negative : Bool) (num den : Nat) : Float :=
  Float.ofBits (UInt64.ofNat ((if negative then signUnit else 0) + nearestBits num den))

end Rewind.Number
