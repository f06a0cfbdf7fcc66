import Rewind.Number.Shortest

namespace Rewind.Number

/-- How a number is written down. -/
structure Layout where
  /-- Which of two equally near shortest decimals is written. -/
  tie : Tie
  /-- The least exponent of the leading digit that is written without a power of ten. -/
  least : Int
  /-- The greatest such exponent. -/
  greatest : Int
  /-- Whether a whole number without a power of ten ends in `.0`. -/
  wholePoint : Bool
  /-- Whether the sign of zero is written. -/
  signedZero : Bool

/-- The digits of a decimal, without trailing zeros, and the exponent of the
    leading one. -/
def Decimal.leading (d : Decimal) : List Char × Int :=
  let digits := Nat.toDigits 10 d.digits
  let significant := (digits.reverse.dropWhile (· == '0')).reverse
  if significant.isEmpty then (['0'], 0)
  else (significant, d.exponent + digits.length - 1)

/-- Digits with the point where the exponent of the leading one puts it. -/
def Layout.positional (layout : Layout) (digits : List Char) (exponent : Int) : List Char :=
  if exponent < 0 then
    '0' :: '.' :: List.replicate ((-exponent).toNat - 1) '0' ++ digits
  else
    let whole := exponent.toNat + 1
    if digits.length ≤ whole then
      digits ++ List.replicate (whole - digits.length) '0' ++ (if layout.wholePoint then ['.', '0'] else [])
    else digits.take whole ++ '.' :: digits.drop whole

/-- Digits with the point after the first one, and a power of ten. -/
def scientific (digits : List Char) (exponent : Int) : List Char :=
  let mantissa := match digits with
    | first :: second :: rest => first :: '.' :: second :: rest
    | digits => digits
  mantissa ++ 'e' :: (toString exponent).toList

/-- The text of a nonnegative decimal. -/
def Layout.decimal (layout : Layout) (d : Decimal) : List Char :=
  let (digits, exponent) := d.leading
  if layout.least ≤ exponent && exponent ≤ layout.greatest then layout.positional digits exponent
  else scientific digits exponent

/-- The text of `x`. -/
def Layout.write (layout : Layout) (x : Float) : String :=
  let signed (text : List Char) : String :=
    String.ofList (if isNegative x then '-' :: text else text)
  match magnitude x with
  | .nan => "NaN"
  | .infinite => signed "inf".toList
  | .finite value =>
    let text := layout.decimal (value.shortest layout.tie)
    if value.mantissa == 0 && !layout.signedZero then String.ofList text else signed text

end Rewind.Number
