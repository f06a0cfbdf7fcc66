import Rewind.Number.Binary

namespace Rewind.Number

/-- A nonnegative number `digits · 10 ^ exponent`. -/
structure Decimal where
  digits : Nat
  exponent : Int

/-- Which of two equally near decimals is taken. -/
inductive Tie where
  | toEven
  | up

/-- The number of decimal digits of `n`. -/
def digitCount (n : Nat) : Nat := (Nat.toDigits 10 n).length

/-- The exponent of the leading decimal digit of `num / den`. -/
def leadingExponent (num den : Nat) : Int :=
  if den ≤ num then (digitCount (num / den) : Int) - 1
  else -(digitCount ((den - 1) / num) : Int)

/-- The reals that round to a double, in quarters of the unit of its last bit:
    the number itself and the ends halfway to its neighbours. The neighbour below
    a power of two is only half as far. A half rounds to an even mantissa, so the
    ends belong to the interval exactly when the mantissa is even. -/
structure Interval where
  value : Nat
  low : Nat
  high : Nat
  closed : Bool

/-- The interval of the double with magnitude `x`. -/
def Binary.interval (x : Binary) : Interval where
  value := 4 * x.mantissa
  low := 4 * x.mantissa - (if x.mantissa == fieldUnit && leastExponent < x.exponent then 1 else 2)
  high := 4 * x.mantissa + 2
  closed := x.mantissa % 2 == 0

/-- The multiple of `10 ^ exponent` that reads back as `x` and is nearest to it,
    if there is one. If any multiple lies in the interval, so does one of the two
    around the value. -/
def onGrid? (tie : Tie) (x : Binary) (exponent : Int) : Option Decimal :=
  let interval := x.interval
  let quarter : Binary := ⟨1, x.exponent - 2⟩
  let scale := quarter.num * Nat.pow 10 (-exponent).toNat
  let step := quarter.den * Nat.pow 10 exponent.toNat
  let inside (digits : Nat) : Bool :=
    let point := digits * step
    let low := interval.low * scale
    let high := interval.high * scale
    (low < point || (interval.closed && low == point)) && (point < high || (interval.closed && point == high))
  let below := interval.value * scale / step
  let take (digits : Nat) : Option Decimal := some ⟨digits, exponent⟩
  match inside below, inside (below + 1) with
  | false, false => none
  | true, false => take below
  | false, true => take (below + 1)
  | true, true =>
    let twice := 2 * (interval.value * scale)
    let middle := (2 * below + 1) * step
    if twice < middle then take below
    else if middle < twice then take (below + 1)
    else match tie with
      | .up => take (below + 1)
      | .toEven => take (if below % 2 == 0 then below else below + 1)

/-- The first grid with a hit among the next `grids` ones, coarse to fine. -/
def firstOnGrid? (tie : Tie) (x : Binary) : (grids : Nat) → (exponent : Int) → Option Decimal
  | 0, _ => none
  | grids + 1, exponent => (onGrid? tie x exponent).or (firstOnGrid? tie x grids (exponent - 1))

/-- The fewest decimal digits that read back as `x`, and of those the nearest to
    it. Seventeen digits are always enough. -/
def Binary.shortest (tie : Tie) (x : Binary) : Decimal :=
  if x.mantissa == 0 then ⟨0, 0⟩
  else (firstOnGrid? tie x 17 (leadingExponent x.num x.den)).getD ⟨0, 0⟩

end Rewind.Number
