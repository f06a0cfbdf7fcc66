import Rewind.Proofs.Comparison.Loop
import Rewind.Proofs.Rest.Program

namespace Rewind

/-- What stays fixed for an evaluator with registers. Limits and counters are words
    of 64 bits. -/
structure Settings where
  calls : UInt64
  nesting : UInt64
  hosts : Hosts
  patience : Nat
  landings : Landings

/-- The limits as numbers. -/
def Settings.limits (settings : Settings) : Limits := ⟨settings.calls.toNat, settings.nesting.toNat⟩

/-- The state of an evaluator that saves and restores its control state by hand:
    the current buffer, how deep in expressions and in calls it is, and the rest. -/
structure Registers where
  tokens : Array Located
  nesting : UInt64
  depth : UInt64
  machine : Machine

/-- The counters are in order, and the cursor stands where one may stand. -/
def Registers.InOrder (registers : Registers) (settings : Settings) : Prop :=
  registers.depth ≤ registers.nesting ∧ registers.nesting ≤ settings.nesting ∧
    registers.depth ≤ settings.calls ∧
    settings.landings.allowed ⟨registers.tokens, registers.machine.pos⟩ = true

instance (registers : Registers) (settings : Settings) : Decidable (registers.InOrder settings) :=
  inferInstanceAs (Decidable (_ ∧ _ ∧ _ ∧ _))

/-- The frame that the registers make up. -/
def Registers.frame (registers : Registers) (settings : Settings) : Frame where
  tokens := registers.tokens
  limits := settings.limits
  hosts := settings.hosts
  depth := registers.depth.toNat
  patience := settings.patience

/-- How a computation on registers ends. -/
inductive Ending (α : Type) where
  | done (result : α) (registers : Registers)
  | failed (error : Error) (registers : Registers)
  | unfinished
  /-- The registers got out of order, or the evaluator itself recursed too deep. -/
  | broken

/-- A computation on registers. Counters wrap around. -/
def Control (α : Type) : Type := Settings → Registers → Ending α

namespace Control

open Eval

protected def pure {α : Type} (a : α) : Control α := fun _ registers => .done a registers

protected def bind {α β : Type} (x : Control α) (f : α → Control β) : Control β := fun settings registers =>
  match x settings registers with
  | .done a registers => f a settings registers
  | .failed error registers => .failed error registers
  | .unfinished => .unfinished
  | .broken => .broken

instance : Monad Control where
  pure := Control.pure
  bind := Control.bind

theorem bind_apply {α β : Type} (x : Control α) (f : α → Control β) (settings : Settings)
    (registers : Registers) : (x >>= f) settings registers = match x settings registers with
      | .done a registers => f a settings registers
      | .failed error registers => .failed error registers
      | .unfinished => .unfinished
      | .broken => .broken := rfl

/-- A step that has no part in the control state. -/
def quietly {α : Type} (x : Eval α) : Control α := fun settings registers =>
  match x (registers.frame settings) registers.machine with
  | .done a machine => .done a { registers with machine }
  | .failed error machine => .failed error { registers with machine }
  | .unfinished => .unfinished

instance : MonadLift Eval Control := ⟨quietly⟩

@[simp]
theorem liftM_quietly {α : Type} (x : Eval α) : (liftM x : Control α) = quietly x := rfl

/-- Goes on after a failure as after a success. -/
def attempt {α : Type} (x : Control α) : Control (Except Error α) := fun settings registers =>
  match x settings registers with
  | .done a registers => .done (.ok a) registers
  | .failed error registers => .done (.error error) registers
  | .unfinished => .unfinished
  | .broken => .broken

/-- Ends as an attempt has ended. -/
def conclude {α : Type} (result : Except Error α) : Control α := liftM (Eval.ofExcept result)

/-- Changes the control state. The evaluator breaks down if it is then out of
    order. -/
def change (f : Registers → Registers) : Control Unit := fun settings registers =>
  if (f registers).InOrder settings then .done () (f registers) else .broken

/-- One level further in. -/
def enter : Control Unit := change fun registers =>
  { registers with
    nesting := registers.nesting + 1
    machine := { registers.machine with
      deepestNesting := max registers.machine.deepestNesting (registers.nesting + 1).toNat } }

/-- One level further out. -/
def leave : Control Unit := change fun registers => { registers with nesting := registers.nesting - 1 }

/-- The current buffer becomes another one. -/
def jump (target : Cursor) : Control Unit := fun _ registers =>
  .done () { registers with tokens := target.tokens, machine := { registers.machine with pos := target.pos } }

/-- One more call. -/
def descend : Control Unit := change fun registers =>
  { registers with
    depth := registers.depth + 1
    machine := { registers.machine with
      deepestCall := max registers.machine.deepestCall (registers.depth + 1).toNat } }

/-- One call less. -/
def ascend : Control Unit := change fun registers => { registers with depth := registers.depth - 1 }

/-- Whether one more level is allowed. -/
def mayEnter : Control Bool := fun settings registers =>
  .done (decide (registers.nesting < settings.nesting)) registers

/-- Whether one more call is allowed. -/
def mayDescend : Control Bool := fun settings registers =>
  .done (decide (registers.depth < settings.calls)) registers

/-- How many levels are left. -/
def levels : Control Nat := fun settings registers =>
  .done (settings.nesting.toNat - registers.nesting.toNat) registers

/-- The limit on calls. -/
def callLimit : Control Nat := fun settings registers => .done settings.calls.toNat registers

/-- Calls a function. The cursor and the depth are put back by hand, whether the
    body succeeds or not. -/
def invoke (inner : Control Value) (f : Function) (arguments : Array Value) (span : Span) : Control Value := do
  if ← mayDescend then
    update fun machine => (machine.record (.called f arguments.size)).bindAll f.params arguments.toList
    let returnTo ← cursor
    jump f.body
    descend
    let result ← attempt (Loop.bounded.list inner)
    ascend
    jump returnTo
    let values ← conclude result
    pure (values.back?.getD .nil)
  else failAt span (.callDepth (← callLimit))

/-- Moves past an expression. What is left of the limit on nesting is handed
    over. -/
def skip : Control Unit := do skipExpression (← levels)

/-- The parts of an evaluator on registers. -/
def parts (inner : Control Value) : Parts Control where
  inner
  skip
  list := Loop.bounded.list inner
  params := Loop.bounded.params
  invoke := invoke inner

/-- An operand. The level is left again whether the form succeeds or not. `stack`
    bounds the recursion of the evaluator itself. -/
def operand : (stack : Nat) → Control Value
  | 0 => fun _ _ => .broken
  | stack + 1 => do
    let located ← firstToken
    if ← mayEnter then
      enter
      let result ← attempt ((parts (Loop.bounded.expression (operand stack) combine)).form located)
      leave
      conclude result
    else (tooNested located : Eval Value)

/-- An expression. -/
def evaluate (stack : Nat) : Control Value := Loop.bounded.expression (operand stack) combine

end Control

end Rewind
