import Rewind.Number.Literal

namespace Rewind.Number

/-- The part of a run of digits and dots that counts: all before its second
    dot. -/
def beforeSecondDot (text : List Char) : List Char :=
  match text.dropWhile (· != '.') with
  | [] => text
  | dot :: rest => text.takeWhile (· != '.') ++ dot :: rest.takeWhile (· != '.')

/-- The number that a run of digits and dots spells. A second dot ends it, and
    without any digit it is a NaN. -/
def ofNumeral (lexeme : String) : Float :=
  match Literal.parse? (beforeSecondDot lexeme.toList) with
  | some literal => literal.value
  | none => nan

end Rewind.Number
