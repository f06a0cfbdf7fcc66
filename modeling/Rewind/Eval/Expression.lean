import Rewind.Eval.Skip
import Rewind.Number.Numeral

namespace Rewind.Eval

/-- The value of a name, which must be bound. -/
def lookup (name : String) (span : Span) : Eval Value := fun _ machine =>
  match machine.env.get? name with
  | some value => .done value machine
  | none => .failed (.atSpan span (.unbound name)) machine

/-- Goes on with the elements of a list up to its end. A comma after an element
    is optional. -/
def elementsFrom (inner : Eval Value) : (rounds : Nat) → (values : Array Value) → Eval (Array Value)
  | 0, values => pure values
  | rounds + 1, values => do
    let here ← cursor
    if here.atEnd || here.isPunct ")" then pure values
    else
      let value ← inner
      if (← cursor).isPunct "," then advance
      elementsFrom inner rounds (values.push value)

/-- Evaluates a parenthesised list of expressions, in order. -/
def list (inner : Eval Value) : Eval (Array Value) := do
  expectPunct "("
  let values ← elementsFrom inner (← rounds) #[]
  expectPunct ")"
  pure values

/-- Runs `body` at a position of another buffer, with one more call active, and
    comes back to the current position however it ends. -/
@[inline]
def inBuffer {α : Type} (target : Cursor) (body : Eval α) : Eval α := fun frame machine =>
  let depth := frame.depth + 1
  match body { frame with tokens := target.tokens, depth }
      { machine with pos := target.pos, deepestCall := max machine.deepestCall depth } with
  | .done value after => .done value { after with pos := machine.pos }
  | .failed error after => .failed error { after with pos := machine.pos }
  | .unfinished => .unfinished

/-- Calls a function: binds its parameters, evaluates its body as a list, and
    yields the last value. -/
def invoke (inner : Eval Value) (f : Function) (arguments : Array Value) (span : Span) : Eval Value := do
  let fr ← frame
  if fr.limits.calls ≤ fr.depth then failAt span (.callDepth fr.limits.calls)
  else
    update fun machine => (machine.record (.called f arguments.size)).bindAll f.params arguments.toList
    let values ← inBuffer f.body (list inner)
    pure (values.back?.getD .nil)

/-- Hands code to the host behind a native. `name` is what the native was called
    by. -/
def consult (name : String) (native : Native) (arguments : Array Value) (span : Span) : Eval Value :=
  match arguments.toList with
  | .string code :: _ => fun frame machine =>
    let host := frame.hosts native
    let answer := host.answer (machine.earlier native) code
    let machine := if host.logged then machine.record (.shellRun code) else machine
    let machine := { machine with calls := machine.calls.push ⟨native, code⟩ }
    match answer with
    | .ok value => .done value machine
    | .error text => .failed (.atSpan span (.other text)) machine
  | _ => failAt span (.hostCode name native.name)

/-- `call NAME LIST`. The name is looked up before the arguments are evaluated. -/
def call (inner : Eval Value) : Eval Value := do
  advance
  let (name, span) ← expectName
  match ← lookup name span with
  | .function f => invoke inner f (← list inner) span
  | .native native => consult name native (← list inner) span
  | value => failAt span (.notCallable name value)

/-- `if EXPR LIST else LIST`. One branch is evaluated and the other one skipped.
    A branch without a value, or that is not there, counts as zero. -/
def conditional (inner : Eval Value) : Eval Value := do
  advance
  let condition ← inner
  if condition.truthy then
    let values ← list inner
    if ← tryKeyword .otherwise then skipList
    pure (values.back?.getD (.number 0))
  else
    skipList
    if ← tryKeyword .otherwise then
      let values ← list inner
      pure (values.back?.getD (.number 0))
    else pure (.number 0)

/-- The rounds of a `for` loop whose condition begins at `start`: condition,
    increment, body. `last` is the value so far. When the condition fails, the
    increment and the body are skipped. -/
def forRounds (inner : Eval Value) (skip : Eval Unit) (start : Nat) :
    (patience iterations : Nat) → (last : Value) → Eval Value
  | 0, _, _ => giveUp
  | patience + 1, iterations, last => do
    let condition ← inner
    expectPunct ";"
    if condition.truthy then
      let _ ← inner
      let values ← list inner
      rewind start
      forRounds inner skip start patience (iterations + 1) (values.back?.getD .nil)
    else
      skip
      skipList
      update (·.record (.forFinished iterations))
      pure last

/-- `for EXPR ; EXPR ; EXPR LIST`. -/
def forLoop (inner : Eval Value) (skip : Eval Unit) : Eval Value := do
  advance
  let _ ← inner
  expectPunct ";"
  forRounds inner skip (← machine).pos (← frame).patience 0 .nil

/-- The rounds of a `while` loop whose condition begins at `start`. -/
def whileRounds (inner : Eval Value) (start : Nat) :
    (patience iterations : Nat) → (last : Value) → Eval Value
  | 0, _, _ => giveUp
  | patience + 1, iterations, last => do
    let condition ← inner
    if condition.truthy then
      let values ← list inner
      rewind start
      whileRounds inner start patience (iterations + 1) (values.back?.getD .nil)
    else
      skipList
      update (·.record (.whileFinished iterations))
      pure last

/-- `while EXPR LIST`. -/
def whileLoop (inner : Eval Value) : Eval Value := do
  advance
  whileRounds inner (← machine).pos (← frame).patience 0 .nil

/-- Reads parameters with commas between them. -/
def paramsFrom : (rounds : Nat) → (params : Array String) → Eval (Array String)
  | 0, params => pure params
  | rounds + 1, params => do
    let here ← cursor
    if here.atEnd || here.isPunct ")" then pure params
    else
      let (param, _) ← expectName
      let params := params.push param
      if (← cursor).isPunct "," then
        advance
        paramsFrom rounds params
      else pure params

/-- `fn NAME ( PARAM, ... ) LIST`. The body is skipped, and checked only when the
    function is called. -/
def define : Eval Value := do
  advance
  let (name, _) ← expectName
  expectPunct "("
  let params ← paramsFrom (← rounds) #[]
  expectPunct ")"
  let body ← cursor
  if body.isPunct "(" then skipList
  update (·.define name params.toList body)
  pure .nil

/-- `set NAME = EXPR`. -/
def assign (inner : Eval Value) : Eval Value := do
  advance
  let (name, _) ← expectName
  expectPunct "="
  let value ← inner
  update (·.bind name value)
  pure .nil

/-- Evaluates the form that begins with `located`. `inner` evaluates an expression
    one level further in, and `skip` moves past one. -/
def form (inner : Eval Value) (skip : Eval Unit) (located : Located) : Eval Value :=
  match located.token.kind with
  | .number => do
    advance
    pure (.number (Number.ofNumeral located.token.lexeme))
  | .string => do
    advance
    pure (.string located.token.lexeme)
  | .name =>
    match located.token.keyword? with
    | some .call => call inner
    | some .cond => conditional inner
    | some .forLoop => forLoop inner skip
    | some .whileLoop => whileLoop inner
    | some .define => define
    | some .assign => assign inner
    | some .otherwise | none => do
      advance
      lookup located.token.lexeme located.span
  | .punct =>
    if located.token.lexeme == "(" then do
      match (← list inner).back? with
      | some value => pure value
      | none => failAt located.span .emptyList
    else unexpected .expression
  | .operator => unexpected .expression

/-- Applies a binary operator, or fails at it. -/
def combine (operator : Located) (left right : Value) : Except Error Value :=
  match Value.operate? operator.token.lexeme left right with
  | some value => .ok value
  | none => .error (.operands operator left right)

/-- Evaluates an operand as it is read. `budget` levels of nesting are left. -/
def operand : (budget : Nat) → Eval Value
  | 0 => do tooNested (← firstToken)
  | budget + 1 => do
    let located ← firstToken
    noteNesting budget
    form (expression (operand budget) combine) (skipExpression budget) located

/-- Evaluates an expression as it is read. -/
def evaluate (budget : Nat) : Eval Value := expression (operand budget) combine

/-- Evaluates expressions to the end of the buffer. The result is the value of the
    last one, or `last` when there is none. -/
def programFrom (inner : Eval Value) : (rounds : Nat) → (last : Value) → Eval Value
  | 0, last => pure last
  | rounds + 1, last => do
    if (← cursor).atEnd then pure last else programFrom inner rounds (← inner)

/-- Evaluates the rest of the buffer. -/
def program : Eval Value := do
  programFrom (evaluate (← frame).limits.nesting) (← rounds) .nil

end Rewind.Eval
