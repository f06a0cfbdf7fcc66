import Rewind.Machine
import Rewind.Value.Operator

namespace Rewind.Eval

/-- The current token, if it is an operator of the tier. -/
@[inline]
def operator? (tier : Tier) : Eval (Option Located) := do
  match ← current? with
  | some located => return if located.token.isOperator tier then some located else none
  | none => return none

/-- Goes on with a chain of which `left` has been read, for as long as an operator
    of the tier follows. -/
@[specialize]
def chainFrom {α : Type} (tier : Tier) (item : Eval α)
    (combine : Located → α → α → Except Error α) : (rounds : Nat) → (left : α) → Eval α
  | 0, left => pure left
  | rounds + 1, left => do
    match ← operator? tier with
    | none => pure left
    | some operator =>
      advance
      let right ← item
      match combine operator left right with
      | .ok value => chainFrom tier item combine rounds value
      | .error error => fail error

/-- Reads items with operators of the tier between them. Each operator is applied
    as soon as its right side has been read, so chains group to the left. -/
@[inline]
def chain {α : Type} (tier : Tier) (item : Eval α)
    (combine : Located → α → α → Except Error α) : Eval α := do
  let first ← item
  chainFrom tier item combine (← rounds) first

/-- Reads an expression made of operands. The additive tier is the inner one. -/
@[inline]
def expression {α : Type} (operand : Eval α) (combine : Located → α → α → Except Error α) : Eval α :=
  chain .multiplicative (chain .additive operand combine) combine

/-- Goes on inside a parenthesised region, `depth` levels deep, to its end. -/
def closeFrom (tokens : Array Located) (pos depth : Nat) : Option Nat :=
  if h : pos < tokens.size then
    let token := tokens[pos].token
    if token.isPunct "(" then closeFrom tokens (pos + 1) (depth + 1)
    else if token.isPunct ")" then
      match depth with
      | 0 => some (pos + 1)
      | depth + 1 => closeFrom tokens (pos + 1) depth
    else closeFrom tokens (pos + 1) depth
  else none
termination_by tokens.size - pos

/-- Moves past a list by counting parentheses, whatever is inside. -/
def skipList : Eval Unit := do
  expectPunct "("
  let here ← cursor
  match closeFrom here.tokens here.pos 0 with
  | some pos => rewind pos
  | none =>
    rewind here.tokens.size
    unexpected (.punct ")")

/-- Moves past a keyword, if it is the current token, and returns whether it was. -/
@[inline]
def tryKeyword (keyword : Keyword) : Eval Bool := do
  if (← cursor).keyword? == some keyword then
    advance
    return true
  else return false

end Rewind.Eval
