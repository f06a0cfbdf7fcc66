import Rewind.Number.Binary

namespace Rewind.Number

/-- What is left of `x` after taking out `y` as often as it fits, without any
    rounding: both are whole multiples of a common power of two. -/
def Binary.rem (x y : Binary) : Binary :=
  let exponent := min x.exponent y.exponent
  let unit (b : Binary) : Nat := b.mantissa * Nat.pow 2 (b.exponent - exponent).toNat
  ⟨unit x % unit y, exponent⟩

/-- The remainder of `x` divided by `y`, with the sign of `x`. There is none
    for an infinite `x` or a zero `y`, and an infinite `y` never fits. -/
def remainder (x y : Float) : Float :=
  match magnitude x, magnitude y with
  | .finite a, .finite b =>
    if b.mantissa == 0 then nan
    else
      let rest := a.rem b
      nearest (isNegative x) rest.num rest.den
  | .finite _, .infinite => x
  | _, _ => nan

end Rewind.Number
