import Rewind.Number.Remainder
import Rewind.Value

namespace Rewind

/-- The two tiers of binary operators. Additive ones bind tighter. -/
inductive Tier where
  | additive
  | multiplicative
deriving DecidableEq, Repr

/-- The operators of a tier. -/
def Tier.lexemes : Tier → List String
  | additive => ["+", "-"]
  | multiplicative => ["*", "/", "%"]

/-- Whether the token is an operator of the tier. -/
def Token.isOperator (token : Token) (tier : Tier) : Bool :=
  token.kind == .operator && tier.lexemes.contains token.lexeme

namespace Value

/-- The result of an operator on two numbers. -/
def arithmetic? (operator : String) (x y : Float) : Option Float :=
  match operator with
  | "+" => some (x + y)
  | "-" => some (x - y)
  | "*" => some (x * y)
  | "/" => some (x / y)
  | "%" => some (Number.remainder x y)
  | _ => none

/-- The result of a binary operator, if it is defined on these operands: numbers
    take every operator, and `+` joins texts when either side is a string. -/
def operate? (operator : String) : Value → Value → Option Value
  | number x, number y => (arithmetic? operator x y).map number
  | string a, right => if operator == "+" then some (string (a ++ right.text)) else none
  | left, string b => if operator == "+" then some (string (left.text ++ b)) else none
  | _, _ => none

end Value

end Rewind
