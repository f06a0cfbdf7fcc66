import Rewind.Number.Shortest

namespace Rewind.Number

/-- A number as it is spelled: decimal digits around a point, and a power of
    ten. -/
structure Literal where
  negative : Bool
  whole : List Char
  fraction : List Char
  exponent : Int

/-- The number that a list of decimal digits spells. -/
def digitsValue (digits : List Char) : Nat :=
  digits.foldl (fun n c => 10 * n + (c.toNat - '0'.toNat)) 0

/-- The exponent of the leading digit from which on every number is infinite, and
    the one below which every number is zero, with room to spare. The powers
    between them are small enough to be computed. -/
def exponentBounds : Int × Int := (-400, 400)

/-- The double nearest to the number. -/
def Literal.value (l : Literal) : Float :=
  let digits := digitsValue (l.whole ++ l.fraction)
  let exponent := l.exponent - l.fraction.length
  let leading := exponent + digitCount digits
  if digits == 0 || leading < exponentBounds.1 then nearest l.negative 0 1
  else if exponentBounds.2 < leading then nearest l.negative (Nat.pow 2 1024) 1
  else nearest l.negative (digits * Nat.pow 10 exponent.toNat) (Nat.pow 10 (-exponent).toNat)

/-- Reads digits after an optional sign, to the end of the text. -/
def signedDigits? (text : List Char) : Option Int :=
  let (negative, digits) := match text with
    | '-' :: rest => (true, rest)
    | '+' :: rest => (false, rest)
    | rest => (false, rest)
  if digits.isEmpty || !digits.all Char.isDigit then none
  else some (if negative then -(digitsValue digits : Int) else digitsValue digits)

/-- Reads the power of ten at the end of a number, which may be missing. -/
def exponent? : List Char → Option Int
  | [] => some 0
  | mark :: rest => if mark == 'e' || mark == 'E' then signedDigits? rest else none

namespace Literal

/-- Reads the digits after a point, if there is a point. -/
def fraction? : List Char → List Char × List Char
  | '.' :: rest => (rest.takeWhile Char.isDigit, rest.dropWhile Char.isDigit)
  | rest => ([], rest)

/-- Reads a number whose sign has been read: digits with at most one point among
    or around them, and an optional power of ten. -/
def ofUnsigned? (negative : Bool) (body : List Char) : Option Literal :=
  let whole := body.takeWhile Char.isDigit
  let (fraction, rest) := fraction? (body.dropWhile Char.isDigit)
  if whole.isEmpty && fraction.isEmpty then none
  else (exponent? rest).map fun exponent => { negative, whole, fraction, exponent }

/-- Reads a number after an optional minus sign. -/
def parse? : List Char → Option Literal
  | '-' :: rest => ofUnsigned? true rest
  | rest => ofUnsigned? false rest

end Literal

/-- The double that a word stands for, in letters of either case. -/
def named? (negative : Bool) (word : List Char) : Option Float :=
  let word := word.map Char.toLower
  if word == ['i', 'n', 'f'] || word == ['i', 'n', 'f', 'i', 'n', 'i', 't', 'y'] then
    some (nearest negative (Nat.pow 2 1024) 1)
  else if word == ['n', 'a', 'n'] then some nan
  else none

/-- Whether a number without its sign can begin with `c`. -/
def startsNumber (c : Char) : Bool := c.isDigit || c == '.'

/-- Reads a double after an optional sign: a word for an infinity or for a NaN, or
    a number. -/
def double? (text : List Char) : Option Float :=
  let (negative, unsigned) := match text with
    | '-' :: rest => (true, rest)
    | '+' :: rest => (false, rest)
    | rest => (false, rest)
  (named? negative unsigned).or ((Literal.ofUnsigned? negative unsigned).map Literal.value)

end Rewind.Number
