import Rewind.Eval.Walk

namespace Rewind.Eval

/-- Moves past the rest of a form that begins with `located`. `inner` moves past
    an expression one level further in. -/
def skipForm (inner : Eval Unit) (located : Located) : Eval Unit :=
  match located.token.kind with
  | .number | .string => advance
  | .name =>
    match located.token.keyword? with
    | some .call => do
      advance
      let _ ← expectName
      skipList
    | some .cond => do
      advance
      inner
      skipList
      if ← tryKeyword .otherwise then skipList
    | some .forLoop => do
      advance
      inner
      expectPunct ";"
      inner
      expectPunct ";"
      inner
      skipList
    | some .whileLoop => do
      advance
      inner
      skipList
    | some .define => do
      advance
      let _ ← expectName
      skipList
      if (← cursor).isPunct "(" then skipList
    | some .assign => do
      advance
      let _ ← expectName
      expectPunct "="
      inner
    | some .otherwise | none => advance
  | .punct => if located.token.lexeme == "(" then skipList else unexpected .expression
  | .operator => unexpected .expression

/-- Skipped operands have no values to combine. -/
def skipCombine (_ : Located) (_ _ : Unit) : Except Error Unit := .ok ()

/-- Moves past an operand by its grammar. Nothing is evaluated and nothing is
    bound. `budget` levels of nesting are left. -/
def skipOperand : (budget : Nat) → Eval Unit
  | 0 => do tooNested (← firstToken)
  | budget + 1 => do
    let located ← firstToken
    noteNesting budget
    skipForm (expression (skipOperand budget) skipCombine) located

/-- Moves past an expression by its grammar. -/
def skipExpression (budget : Nat) : Eval Unit := expression (skipOperand budget) skipCombine

end Rewind.Eval
