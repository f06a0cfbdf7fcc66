import Rewind.Interpreter
import Rewind.Proofs.Control.Restoring

namespace Rewind

/-- The routines of an evaluator. -/
inductive Routine where
  | expression
  | additive
  | operand
  | form (located : Located)
  | list
  | call
  | invoke (f : Function) (arguments : Array Value) (span : Span)
  | conditional
  | forLoop
  | whileLoop
  | define
  | assign
  | program

namespace Routine

/-- What a routine yields. -/
def Result : Routine → Type
  | list => Array Value
  | _ => Value

/-- The routine on registers. -/
def onRegisters (stack : Nat) : (routine : Routine) → Control routine.Result
  | expression => Control.evaluate stack
  | additive => Eval.Loop.bounded.chain .additive (Control.operand stack) Eval.combine
  | operand => Control.operand stack
  | form located => (Control.parts (Control.evaluate stack)).form located
  | list => (Control.parts (Control.evaluate stack)).list
  | call => (Control.parts (Control.evaluate stack)).call
  | invoke f arguments span => (Control.parts (Control.evaluate stack)).invoke f arguments span
  | conditional => (Control.parts (Control.evaluate stack)).conditional
  | forLoop => (Control.parts (Control.evaluate stack)).forLoop
  | whileLoop => (Control.parts (Control.evaluate stack)).whileLoop
  | define => (Control.parts (Control.evaluate stack)).define
  | assign => (Control.parts (Control.evaluate stack)).assign
  | program => Eval.Loop.bounded.program (Control.evaluate stack)

/-- The routine of the evaluator, with so many levels of nesting left. -/
def eval (budget : Nat) : (routine : Routine) → Eval routine.Result
  | expression => Eval.evaluate budget
  | additive => Eval.chain .additive (Eval.operand budget) Eval.combine
  | operand => Eval.operand budget
  | form located => Eval.form (Eval.evaluate budget) (Eval.skipExpression budget) located
  | list => Eval.list (Eval.evaluate budget)
  | call => Eval.call (Eval.evaluate budget)
  | invoke f arguments span => Eval.invoke (Eval.evaluate budget) f arguments span
  | conditional => Eval.conditional (Eval.evaluate budget)
  | forLoop => Eval.forLoop (Eval.evaluate budget) (Eval.skipExpression budget)
  | whileLoop => Eval.whileLoop (Eval.evaluate budget)
  | define => Eval.define
  | assign => Eval.assign (Eval.evaluate budget)
  | program => do Eval.programFrom (Eval.evaluate budget) (← Eval.rounds) .nil

/-- Results that stand for each other. -/
def Alike (landings : Landings) : (routine : Routine) → routine.Result → routine.Result → Prop
  | list => fun left right => List.Forall₂ (Value.Rest landings) left.toList right.toList
  | expression | additive | operand | form _ | call | invoke _ _ _ | conditional | forLoop | whileLoop
  | define | assign | program => Value.Rest landings

/-- What a routine may count on when it is begun. Those that can lead to a call
    without one more level of nesting are only begun inside of an operand. -/
def Begins (settings : Settings) (registers : Registers) : Routine → Prop
  | form _ | call => registers.depth < registers.nesting
  | invoke f arguments _ =>
    registers.depth < registers.nesting ∧ Landed settings.landings (.function f) ∧
      LandedAll settings.landings arguments
  | _ => True

/-- No routine looks at the tokens behind the part of the buffer that is left. -/
theorem resumes (landings : Landings) (budget : Nat) (routine : Routine) (stretch : Stretch)
    (hinvoke : ∀ f arguments span, routine = .invoke f arguments span →
      Landed landings (.function f) ∧ LandedAll landings arguments) :
    Eval.Resumes stretch landings (routine.Alike landings) (routine.eval budget) (routine.eval budget) := by
  have hforms := @Eval.Resumes.inside landings budget stretch
  cases routine with
  | expression => exact .evaluate budget stretch
  | additive => exact .additive budget stretch
  | operand => exact .operand budget stretch
  | form located => exact hforms.form ⟨rfl, rfl⟩
  | list => exact hforms.list
  | call => exact hforms.call
  | invoke f arguments span =>
    obtain ⟨hf, harguments⟩ := hinvoke f arguments span rfl
    exact hforms.invoke hf harguments rfl
  | conditional => exact hforms.conditional
  | forLoop => exact hforms.forLoop
  | whileLoop => exact hforms.whileLoop
  | define => exact hforms.define
  | assign => exact hforms.assign
  | program =>
    exact .loop (.programFrom (.evaluate budget) .nil) fun rounds => hforms.programFrom rounds .nil

open Control in
private theorem follows {settings : Settings} {registers : Registers} {stack : Nat}
    (hstack : settings.nesting.toNat < stack) (horder : registers.InOrder settings) {routine : Routine}
    (hbegins : routine.Begins settings registers) :
    Follows settings registers.tokens registers.nesting registers.depth
      (fun a b => a = b ∧ routine.Alike settings.landings b b) (routine.onRegisters stack)
      (routine.eval (Follows.budgetAt settings registers.nesting)) := by
  obtain ⟨hdepth, hnesting, hcalls, _⟩ := horder
  have hbudget : Follows.budgetAt settings registers.nesting < stack :=
    Nat.lt_of_le_of_lt (Nat.sub_le _ _) hstack
  have hinner : Follows.Everywhere settings registers.nesting (Control.evaluate stack)
      (Eval.evaluate (Follows.budgetAt settings registers.nesting)) :=
    fun _ _ hdepth hcalls => .evaluate stack hbudget hdepth hnesting hcalls
  have hhere := hinner registers.tokens registers.depth hdepth hcalls
  have hadvances := Eval.Advances.evaluate (Follows.budgetAt settings registers.nesting)
  -- a routine that leads to no call of its own needs none that is allowed
  have hplain := Follows.binds hadvances hhere (fun _ _ _ => liftM (Eval.unexpected .expression : Eval Value))
    (fun _ _ _ => Eval.unexpected .expression) fun _ _ _ _ => .unexpected _
  cases routine with
  | expression => exact hhere
  | additive =>
    exact Follows.loops.chain (.operand stack hbudget hdepth hnesting hcalls) (.operand _) Follows.combine
  | operand => exact .operand stack hbudget hdepth hnesting hcalls
  | form located => exact hinner.form hadvances hbegins hcalls hnesting located
  | list => exact hplain.list.mono fun _ _ => Settings.arrays_iff.1
  | call => exact (hinner.binds hadvances hbegins hcalls hnesting).call Follows.leads
  | invoke f arguments span =>
    obtain ⟨hlt, hf, harguments⟩ := hbegins
    exact (hinner.binds hadvances hlt hcalls hnesting).invoke ⟨rfl, hf⟩ (Settings.arrays_iff.2 ⟨rfl, harguments⟩) rfl
  | conditional => exact hplain.conditional Follows.leads
  | forLoop =>
    have hforLoop := hplain.forLoop Follows.leads
    rw [Eval.Parts.forLoop_calling, Eval.Parts.forLoop_calling, Eval.Parts.forLoop_of] at hforLoop
    exact hforLoop
  | whileLoop =>
    have hwhileLoop := hplain.whileLoop Follows.leads
    rw [Eval.Parts.whileLoop_calling, Eval.Parts.whileLoop_calling, Eval.Parts.whileLoop_of] at hwhileLoop
    exact hwhileLoop
  | define =>
    have hdefine := hplain.define Follows.leads hplain.params hplain.body
    rw [Eval.Parts.define_calling, Eval.Parts.define_calling, Eval.Parts.define_of] at hdefine
    exact hdefine
  | assign => exact hplain.assign Follows.leads hplain.bound
  | program => exact Follows.loops.program hhere hadvances ⟨rfl, .nil⟩

end Routine

/-- The control state is as it was, and the cursor has not gone back or past the end
    of its buffer. -/
structure Registers.Restored (before after : Registers) : Prop where
  tokens : after.tokens = before.tokens
  nesting : after.nesting = before.nesting
  depth : after.depth = before.depth
  forward : before.machine.pos ≤ after.machine.pos
  inside : after.machine.pos ≤ after.tokens.size

/-- The registers of an evaluator that begins with a buffer, over the bindings that
    another one has left. -/
def Registers.fresh (tokens : Array Located) (machine : Machine) : Registers where
  tokens
  nesting := 0
  depth := 0
  machine := { machine with pos := 0, deepestCall := 0, deepestNesting := 0 }

/-- The registers of an interpreter between two runs. -/
def Interpreter.registers (interpreter : Interpreter) : Registers where
  tokens := interpreter.tokens
  nesting := 0
  depth := 0
  machine := interpreter.machine

namespace Ending

/-- However a computation ends, the control state is restored and ready for the next
    one. It does not break down, and where calls are not limited before nesting is, it
    does not fail for calls. -/
def Restores {α : Type} (settings : Settings) (before : Registers) (moves : Prop) : Ending α → Prop
  | done _ after =>
    before.Restored after ∧ after.Ready settings ∧ (moves → before.machine.pos < after.machine.pos)
  | failed error after =>
    before.Restored after ∧ after.Ready settings ∧ (settings.nesting ≤ settings.calls → ¬ error.Deep)
  | unfinished => True
  | broken => False

/-- Endings in a buffer, and in the part of it from `offset` on, that stand for each
    other: by the result, the bindings, the host calls, the log and the place. -/
inductive Alike {α : Type} (landings : Landings) (offset : Nat) (V : α → α → Prop) : Ending α → Ending α → Prop
  | done {a b : α} {left right : Registers} (hresults : V a b)
    (hmachines : left.machine.Rest landings right.machine)
    (hplace : left.machine.pos = offset + right.machine.pos) :
    Alike landings offset V (.done a left) (.done b right)
  | failed {error error' : Error} {left right : Registers} (herrors : error.Alike error')
    (hmachines : left.machine.Rest landings right.machine)
    (hplace : left.machine.pos = offset + right.machine.pos) :
    Alike landings offset V (.failed error left) (.failed error' right)
  | unfinished : Alike landings offset V .unfinished .unfinished

/-- What is reported of the ending of a run. -/
def report (interpreter : Interpreter) : Ending Value → Option (Except Error Value × Interpreter)
  | done value after => some (.ok value, { interpreter with machine := after.machine })
  | failed error after => some (.error error, { interpreter with machine := after.machine })
  | unfinished => none
  | broken => none

end Ending

namespace Routine

variable {settings : Settings} {registers : Registers} {stack : Nat} {routine : Routine}

/-- Keeping count by hand makes no difference to what a routine does. -/
theorem onRegisters_eq (hstack : settings.nesting.toNat < stack) (horder : registers.InOrder settings)
    (hready : registers.Ready settings) (hbegins : routine.Begins settings registers) :
    routine.onRegisters stack settings registers =
      Control.quietly (routine.eval (Control.Follows.budgetAt settings registers.nesting)) settings registers := by
  have hfollowed := follows hstack horder hbegins registers rfl rfl rfl hready
  unfold Control.quietly
  generalize routine.eval _ _ _ = outcome at hfollowed ⊢
  generalize routine.onRegisters stack settings registers = ending at hfollowed ⊢
  cases hfollowed with
  | done hresults _ =>
    obtain ⟨rfl, _⟩ := hresults
    rfl
  | failed _ _ => rfl
  | unfinished => rfl

/-- One routine, from any state that is in order. -/
theorem restores (hstack : settings.nesting.toNat < stack) (horder : registers.InOrder settings)
    (hready : registers.Ready settings) (hbegins : routine.Begins settings registers) :
    (routine.onRegisters stack settings registers).Restores settings registers (routine = .expression) := by
  have hfollowed := follows hstack horder hbegins registers rfl rfl rfl hready
  have hresumes := routine.resumes settings.landings (Control.Follows.budgetAt settings registers.nesting)
    ⟨registers.tokens, 0, registers.machine.pos, Nat.zero_le _⟩
    (by rintro f arguments span rfl; exact hbegins.2) (registers.frame settings) registers.machine
    registers.machine rfl hready.hosts
    ⟨hready.machine, (Nat.zero_add _).symm, Nat.le_refl _, hready.inside⟩
  have hmoves (hroutine : routine = .expression) {a : routine.Result} {after : Machine}
      (hdone : routine.eval (Control.Follows.budgetAt settings registers.nesting) (registers.frame settings)
        registers.machine = .done a after) : registers.machine.pos < after.pos := by
    subst hroutine
    exact Eval.Advances.evaluate _ hdone
  generalize houtcome : routine.eval _ (registers.frame settings) registers.machine = outcome at *
  generalize routine.eval _ _ registers.machine = outcome' at hresumes
  generalize routine.onRegisters stack settings registers = ending at hfollowed ⊢
  cases hfollowed with
  | done hresult hready =>
    cases hresumes with
    | done _ hmachines =>
      exact ⟨⟨rfl, rfl, rfl, hmachines.positions.above, hready.inside⟩, hready,
        fun hroutine => hmoves hroutine rfl⟩
  | failed hready hdeep =>
    cases hresumes with
    | failed _ hmachines => exact ⟨⟨rfl, rfl, rfl, hmachines.positions.above, hready.inside⟩, hready, hdeep⟩
  | unfinished => trivial

end Routine

end Rewind
