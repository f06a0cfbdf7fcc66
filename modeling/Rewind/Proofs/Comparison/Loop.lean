import Rewind.Proofs.Comparison
import Rewind.Proofs.Comparison.Parts

namespace Rewind.Eval

section Lifted

variable {m : Type → Type} [Monad m] [MonadLiftT Eval m]

/-- One more operator of the tier with the item after it, if one follows. -/
def chainRound {α : Type} (tier : Tier) (item : m α) (combine : Located → α → α → Except Error α) (left : α) :
    m (α ⊕ α) := do
  match ← operator? tier with
  | none => pure (.inr left)
  | some operator =>
    advance
    let right ← item
    let value ← Eval.ofExcept (combine operator left right)
    pure (.inl value)

/-- One more element of a list, unless the list ends. -/
def elementRound (inner : m Value) (values : Array Value) : m (Array Value ⊕ Array Value) := do
  let here ← cursor
  if here.atEnd || here.isPunct ")" then pure (.inr values)
  else
    let value ← inner
    if (← cursor).isPunct "," then advance
    pure (.inl (values.push value))

/-- One more parameter, unless they end. -/
def paramRound (params : Array String) : m (Array String ⊕ Array String) := do
  let here ← cursor
  if here.atEnd || here.isPunct ")" then pure (.inr params)
  else
    let (param, _) ← expectName
    if (← cursor).isPunct "," then
      advance
      pure (.inl (params.push param))
    else pure (.inr (params.push param))

/-- One more expression of a program, unless it ends. -/
def programRound (inner : m Value) (last : Value) : m (Value ⊕ Value) := do
  if (← cursor).atEnd then pure (.inr last)
  else
    let value ← inner
    pure (.inl value)

/-- Takes at most so many rounds. -/
def within {α : Type} (round : α → m (α ⊕ α)) : (rounds : Nat) → α → m α
  | 0, a => pure a
  | rounds + 1, a => round a >>= Sum.elim (within round rounds) pure

/-- How a loop over tokens is taken: one round after another, until one of them has a
    result. -/
structure Loop (m : Type → Type) where
  take : {α : Type} → (α → m (α ⊕ α)) → α → m α

namespace Loop

/-- The loops of the evaluator have a bound on their rounds. -/
def bounded : Loop m where
  take round a := do within round (← rounds) a

variable (loop : Loop m)

def chain {α : Type} (tier : Tier) (item : m α) (combine : Located → α → α → Except Error α) : m α := do
  let first ← item
  loop.take (chainRound tier item combine) first

def expression {α : Type} (operand : m α) (combine : Located → α → α → Except Error α) : m α :=
  loop.chain .multiplicative (loop.chain .additive operand combine) combine

def list (inner : m Value) : m (Array Value) := between (loop.take (elementRound inner) #[])

def params : m (Array String) := between (loop.take paramRound #[])

def program (inner : m Value) : m Value := loop.take (programRound inner) .nil

def skipOperand : (budget : Nat) → m Unit
  | 0 => do (tooNested (← firstToken) : Eval Unit)
  | budget + 1 => do
    let located ← firstToken
    noteNesting budget
    skipFormBy (loop.expression (skipOperand budget) skipCombine) located

def skipExpression (budget : Nat) : m Unit := loop.expression (loop.skipOperand budget) skipCombine

end Loop

end Lifted

section Plain

variable {α : Type} {tier : Tier} {item : Eval α} {combine : Located → α → α → Except Error α} {inner : Eval Value}

theorem chainFrom_eq_within (rounds : Nat) (left : α) :
    chainFrom tier item combine rounds left = within (chainRound tier item combine) rounds left := by
  induction rounds generalizing left with
  | zero => rfl
  | succ rounds ih =>
    rw [chainFrom, within, chainRound, bind_assoc]
    refine congrArg _ (funext fun found => ?_)
    cases found with
    | none => rfl
    | some operator =>
      simp only [liftM_eval, bind_assoc, pure_bind, ih]
      refine congrArg _ (funext fun _ => congrArg _ (funext fun right => ?_))
      cases combine operator left right <;> rfl

theorem elementsFrom_eq_within (rounds : Nat) (values : Array Value) :
    elementsFrom inner rounds values = within (elementRound inner) rounds values := by
  induction rounds generalizing values with
  | zero => rfl
  | succ rounds ih =>
    rw [elementsFrom, within, elementRound, bind_assoc]
    refine congrArg _ (funext fun here => ?_)
    split
    · rfl
    · simp only [liftM_eval, bind_assoc, ih]
      refine congrArg _ (funext fun value => congrArg _ (funext fun next => ?_))
      split
      · rw [bind_assoc]
        rfl
      · rfl

theorem paramsFrom_eq_within (rounds : Nat) (params : Array String) :
    paramsFrom rounds params = within paramRound rounds params := by
  induction rounds generalizing params with
  | zero => rfl
  | succ rounds ih =>
    rw [paramsFrom, within, paramRound, bind_assoc]
    refine congrArg _ (funext fun here => ?_)
    split
    · rfl
    · simp only [liftM_eval, bind_assoc, ih]
      refine congrArg _ (funext fun param => congrArg _ (funext fun next => ?_))
      split
      · rw [bind_assoc]
        rfl
      · rfl

theorem programFrom_eq_within (rounds : Nat) (last : Value) :
    programFrom inner rounds last = within (programRound inner) rounds last := by
  induction rounds generalizing last with
  | zero => rfl
  | succ rounds ih =>
    rw [programFrom, within, programRound, bind_assoc]
    refine congrArg _ (funext fun here => ?_)
    split
    · rfl
    · simp only [bind_assoc, ih]
      rfl

namespace Loop

theorem chain_bounded : bounded.chain tier item combine = Eval.chain tier item combine := by
  unfold chain bounded Eval.chain
  simp only [chainFrom_eq_within, liftM_eval]

theorem expression_bounded : bounded.expression item combine = Eval.expression item combine := by
  unfold expression Eval.expression
  rw [chain_bounded, chain_bounded]

theorem list_bounded : bounded.list inner = Eval.list inner := by
  unfold list bounded
  rw [list_eq_between]
  simp only [elementsFrom_eq_within, liftM_eval]

theorem params_bounded : bounded.params = between (do paramsFrom (← rounds) #[]) := by
  unfold params bounded
  simp only [paramsFrom_eq_within, liftM_eval]

theorem program_bounded : bounded.program inner = (do programFrom inner (← rounds) .nil) := by
  unfold program bounded
  simp only [programFrom_eq_within, liftM_eval]

end Loop

end Plain

end Rewind.Eval
