import Rewind.Eval.Expression

namespace Rewind.Eval

/-- The evaluator takes its own steps as they are. -/
@[simp]
theorem liftM_eval {α : Type} (x : Eval α) : (liftM x : Eval α) = x := rfl

/-- Takes what comes next for the body of a function. -/
def takeBody (name : String) (params : List String) : Eval Unit := do
  let body ← cursor
  if body.isPunct "(" then skipList
  update (·.define name params body)

section Lifted

variable {m : Type → Type} [Monad m] [MonadLiftT Eval m]

/-- A computation between two parentheses. -/
def between {α : Type} (x : m α) : m α := do
  expectPunct "("
  let a ← x
  expectPunct ")"
  pure a

/-- Calls a function of which `body` evaluates the body. -/
def invokeBy (body : Cursor → m (Array Value)) (f : Function) (arguments : Array Value) (span : Span) : m Value := do
  let fr ← frame
  if fr.limits.calls ≤ fr.depth then failAt span (.callDepth fr.limits.calls)
  else
    update fun machine => (machine.record (.called f arguments.size)).bindAll f.params arguments.toList
    let values ← body f.body
    pure (values.back?.getD .nil)

/-- Moves past the rest of a form that begins with `located`, in another monad. -/
def skipFormBy (inner : m Unit) (located : Located) : m Unit :=
  match located.token.kind with
  | .number | .string => advance
  | .name =>
    match located.token.keyword? with
    | some .call => do
      advance
      let _ ← expectName
      skipList
    | some .cond => do
      advance
      inner
      skipList
      if ← tryKeyword .otherwise then skipList
    | some .forLoop => do
      advance
      inner
      expectPunct ";"
      inner
      expectPunct ";"
      inner
      skipList
    | some .whileLoop => do
      advance
      inner
      skipList
    | some .define => do
      advance
      let _ ← expectName
      skipList
      if (← cursor).isPunct "(" then skipList
    | some .assign => do
      advance
      let _ ← expectName
      expectPunct "="
      inner
    | some .otherwise | none => advance
  | .punct => if located.token.lexeme == "(" then skipList else (unexpected .expression : Eval Unit)
  | .operator => (unexpected .expression : Eval Unit)

theorem skipFormBy_eval (inner : Eval Unit) (located : Located) :
    skipFormBy inner located = skipForm inner located := rfl

end Lifted

theorem list_eq_between (inner : Eval Value) : list inner = between (do elementsFrom inner (← rounds) #[]) := by
  unfold list between
  simp only [bind_assoc]
  rfl

private theorem takeBody_bind {α : Type} (name : String) (params : List String) (f : Unit → Eval α) :
    takeBody name params >>= f = cursor >>= fun body =>
      if body.isPunct "(" then skipList >>= fun _ => update (·.define name params body) >>= f
      else update (·.define name params body) >>= f := by
  unfold takeBody
  rw [bind_assoc]
  refine congrArg _ (funext fun body => ?_)
  split
  · rw [bind_assoc]
  · rfl

/-- What the forms of the language are put together from, in the evaluator itself or in
    one that does more than evaluate: it takes the steps of the evaluator in a monad of its
    own, and has parts of its own. -/
structure Parts (m : Type → Type) where
  /-- Evaluates an expression one level further in. -/
  inner : m Value
  /-- Moves past one. -/
  skip : m Unit
  /-- Evaluates a parenthesised list of expressions. -/
  list : m (Array Value)
  /-- Reads the parameters of a definition and the parentheses around them. -/
  params : m (Array String)
  /-- Calls a function. -/
  invoke : Function → Array Value → Span → m Value

namespace Parts

/-- The parts of the evaluator itself. -/
def of (inner : Eval Value) (skip : Eval Unit) : Parts Eval where
  inner
  skip
  list := Eval.list inner
  params := between do paramsFrom (← rounds) #[]
  invoke := Eval.invoke inner

section Forms

variable {m : Type → Type} [Monad m] [MonadLiftT Eval m] (parts : Parts m)

def call : m Value := do
  advance
  let (name, span) ← expectName
  match ← lookup name span with
  | .function f => parts.invoke f (← parts.list) span
  | .native native => consult name native (← parts.list) span
  | value => (failAt span (.notCallable name value) : Eval Value)

def conditional : m Value := do
  advance
  let condition ← parts.inner
  if condition.truthy then
    let values ← parts.list
    if ← tryKeyword .otherwise then skipList
    pure (values.back?.getD (.number 0))
  else
    skipList
    if ← tryKeyword .otherwise then
      let values ← parts.list
      pure (values.back?.getD (.number 0))
    else pure (.number 0)

def forRounds (start : Nat) : (patience iterations : Nat) → (last : Value) → m Value
  | 0, _, _ => (giveUp : Eval Value)
  | patience + 1, iterations, last => do
    let condition ← parts.inner
    expectPunct ";"
    if condition.truthy then
      let _ ← parts.inner
      let values ← parts.list
      rewind start
      forRounds start patience (iterations + 1) (values.back?.getD .nil)
    else
      parts.skip
      skipList
      update (·.record (.forFinished iterations))
      pure last

def forLoop : m Value := do
  advance
  let _ ← parts.inner
  expectPunct ";"
  parts.forRounds (← machine).pos (← frame).patience 0 .nil

def whileRounds (start : Nat) : (patience iterations : Nat) → (last : Value) → m Value
  | 0, _, _ => (giveUp : Eval Value)
  | patience + 1, iterations, last => do
    let condition ← parts.inner
    if condition.truthy then
      let values ← parts.list
      rewind start
      whileRounds start patience (iterations + 1) (values.back?.getD .nil)
    else
      skipList
      update (·.record (.whileFinished iterations))
      pure last

def whileLoop : m Value := do
  advance
  parts.whileRounds (← machine).pos (← frame).patience 0 .nil

def define : m Value := do
  advance
  let (name, _) ← expectName
  let params ← parts.params
  takeBody name params.toList
  pure .nil

def assign : m Value := do
  advance
  let (name, _) ← expectName
  expectPunct "="
  let value ← parts.inner
  update (·.bind name value)
  pure .nil

/-- The form that begins with `located`, out of the parts. -/
def form (located : Located) : m Value :=
  match located.token.kind with
  | .number => do
    advance
    pure (.number (Number.ofNumeral located.token.lexeme))
  | .string => do
    advance
    pure (.string located.token.lexeme)
  | .name =>
    match located.token.keyword? with
    | some .call => parts.call
    | some .cond => parts.conditional
    | some .forLoop => parts.forLoop
    | some .whileLoop => parts.whileLoop
    | some .define => parts.define
    | some .assign => parts.assign
    | some .otherwise | none => do
      advance
      lookup located.token.lexeme located.span
  | .punct =>
    if located.token.lexeme == "(" then do
      match (← parts.list).back? with
      | some value => pure value
      | none => (failAt located.span .emptyList : Eval Value)
    else (unexpected .expression : Eval Value)
  | .operator => (unexpected .expression : Eval Value)

/-- The same parts but for calls. -/
def calling (invoke : Function → Array Value → Span → m Value) : Parts m := { parts with invoke }

section Calling

variable (invoke : Function → Array Value → Span → m Value)

private theorem forRounds_calling (start patience iterations : Nat) (last : Value) :
    (parts.calling invoke).forRounds start patience iterations last =
      parts.forRounds start patience iterations last := by
  induction patience generalizing iterations last with
  | zero => rfl
  | succ patience ih =>
    simp only [forRounds, ih]
    rfl

private theorem whileRounds_calling (start patience iterations : Nat) (last : Value) :
    (parts.calling invoke).whileRounds start patience iterations last =
      parts.whileRounds start patience iterations last := by
  induction patience generalizing iterations last with
  | zero => rfl
  | succ patience ih =>
    simp only [whileRounds, ih]
    rfl

/-- How a function is called is nothing to a loop, but for the expressions in it. -/
theorem forLoop_calling : (parts.calling invoke).forLoop = parts.forLoop := by
  simp only [forLoop, forRounds_calling]
  rfl

theorem whileLoop_calling : (parts.calling invoke).whileLoop = parts.whileLoop := by
  simp only [whileLoop, whileRounds_calling]

theorem define_calling : (parts.calling invoke).define = parts.define := rfl

end Calling

end Forms

section Plain

variable (inner : Eval Value) (skip : Eval Unit)

private theorem forRounds_of (start patience iterations : Nat) (last : Value) :
    (of inner skip).forRounds start patience iterations last =
      Eval.forRounds inner skip start patience iterations last := by
  induction patience generalizing iterations last with
  | zero => rfl
  | succ patience ih =>
    simp only [forRounds, Eval.forRounds, ih]
    rfl

private theorem whileRounds_of (start patience iterations : Nat) (last : Value) :
    (of inner skip).whileRounds start patience iterations last =
      Eval.whileRounds inner start patience iterations last := by
  induction patience generalizing iterations last with
  | zero => rfl
  | succ patience ih =>
    simp only [whileRounds, Eval.whileRounds, ih]
    rfl

private theorem call_of : (of inner skip).call = Eval.call inner := rfl

private theorem conditional_of : (of inner skip).conditional = Eval.conditional inner := rfl

theorem forLoop_of : (of inner skip).forLoop = Eval.forLoop inner skip := by
  unfold forLoop Eval.forLoop
  simp only [forRounds_of]
  rfl

theorem whileLoop_of : (of inner skip).whileLoop = Eval.whileLoop inner := by
  unfold whileLoop Eval.whileLoop
  simp only [whileRounds_of]
  rfl

theorem define_of : (of inner skip).define = Eval.define := by
  unfold define Eval.define of between
  simp only [liftM_eval, takeBody_bind, bind_assoc, pure_bind]

private theorem assign_of : (of inner skip).assign = Eval.assign inner := rfl

/-- Out of the parts of the evaluator, every form is that of the evaluator. -/
theorem form_of (located : Located) : (of inner skip).form located = Eval.form inner skip located := by
  unfold form Eval.form
  rw [call_of, conditional_of, forLoop_of, whileLoop_of, define_of, assign_of]
  rfl

end Plain

end Parts

end Rewind.Eval
