import Rewind.Config
import Rewind.Error
import Rewind.Event
import Rewind.Host

namespace Rewind

/-- What a run changes. -/
structure Machine where
  /-- The position in the current token buffer. -/
  pos : Nat := 0
  env : Env := {}
  /-- How many functions have been defined so far. The next one gets this
      number. -/
  made : Nat := 0
  /-- The host calls so far, in order. -/
  calls : Array HostCall := #[]
  log : Array Event := #[]
  /-- The most calls that were active at once. -/
  deepestCall : Nat := 0
  /-- The deepest nesting of expressions that was entered. -/
  deepestNesting : Nat := 0

namespace Machine

/-- Adds an event to the log. -/
@[inline]
def record (machine : Machine) (event : Event) : Machine :=
  { machine with log := machine.log.push event }

/-- Binds a name, and records it. -/
def bind (machine : Machine) (name : String) (value : Value) : Machine :=
  { machine with env := machine.env.set name value, log := machine.log.push (.bound name value) }

/-- Binds parameters to arguments in order. A parameter without an argument is
    nil, and an argument without a parameter is ignored. -/
def bindAll (machine : Machine) : (params : List String) → (arguments : List Value) → Machine
  | [], _ => machine
  | param :: params, [] => (machine.bind param .nil).bindAll params []
  | param :: params, value :: arguments => (machine.bind param value).bindAll params arguments

/-- Defines a function, and records it. The new function differs from every
    earlier one. -/
def define (machine : Machine) (name : String) (params : List String) (body : Cursor) : Machine :=
  let f : Function := { id := .made machine.made, name, params, body }
  ({ machine with made := machine.made + 1 }.record (.defined f)).bind name (.function f)

/-- The code that a native was given so far, in order. -/
def earlier (machine : Machine) (native : Native) : List String :=
  (machine.calls.toList.filter (·.native == native)).map (·.code)

/-- A machine over the bindings that a configuration starts with. -/
def ofConfig (config : Config) : Machine :=
  match config.host with
  | some host => ({} : Machine).bind config.hostBinding (.native host)
  | none => {}

end Machine

/-- What stays fixed while the tokens of one buffer are read. -/
structure Frame where
  tokens : Array Located
  limits : Limits
  hosts : Hosts
  /-- How many calls are active. -/
  depth : Nat
  /-- How many rounds each loop of the program may take before the run is given
      up as unfinished. -/
  patience : Nat

/-- How a computation ends. -/
inductive Outcome (α : Type) where
  | done (result : α) (machine : Machine)
  | failed (error : Error) (machine : Machine)
  /-- A loop ran out of patience. With more of it the computation may end. -/
  | unfinished

/-- A computation over the tokens of a frame. -/
def Eval (α : Type) : Type := Frame → Machine → Outcome α

namespace Eval

@[always_inline, inline]
protected def pure {α : Type} (a : α) : Eval α := fun _ machine => .done a machine

@[always_inline, inline]
protected def bind {α β : Type} (x : Eval α) (f : α → Eval β) : Eval β := fun frame machine =>
  match x frame machine with
  | .done a machine => f a frame machine
  | .failed error machine => .failed error machine
  | .unfinished => .unfinished

@[always_inline]
instance : Monad Eval where
  pure := Eval.pure
  bind := Eval.bind

theorem pure_apply {α : Type} (a : α) (frame : Frame) (machine : Machine) :
    (pure a : Eval α) frame machine = .done a machine := rfl

theorem bind_apply {α β : Type} (x : Eval α) (f : α → Eval β) (frame : Frame) (machine : Machine) :
    (x >>= f) frame machine = match x frame machine with
      | .done a machine => f a frame machine
      | .failed error machine => .failed error machine
      | .unfinished => .unfinished := rfl

instance : LawfulMonad Eval :=
  LawfulMonad.mk' Eval
    (fun x => by
      funext frame machine
      show Eval.bind x _ frame machine = _
      unfold Eval.bind
      cases x frame machine <;> rfl)
    (fun _ _ => rfl)
    (fun x f g => by
      funext frame machine
      show Eval.bind (Eval.bind x f) g frame machine = Eval.bind x (fun a => Eval.bind (f a) g) frame machine
      unfold Eval.bind
      cases x frame machine <;> rfl)

/-- Stops with a failure. -/
@[inline]
def fail {α : Type} (error : Error) : Eval α := fun _ machine => .failed error machine

/-- Stops with a failure at a place. -/
@[inline]
def failAt {α : Type} (span : Span) (cause : Cause) : Eval α := fail (.atSpan span cause)

/-- Gives the run up. -/
@[inline]
def giveUp {α : Type} : Eval α := fun _ _ => .unfinished

/-- Reads the frame. -/
@[inline]
def frame : Eval Frame := fun frame machine => .done frame machine

/-- Reads the machine. -/
@[inline]
def machine : Eval Machine := fun _ machine => .done machine machine

/-- Changes the machine. -/
@[inline]
def update (change : Machine → Machine) : Eval Unit := fun _ machine => .done () (change machine)

/-- The place of the computation. -/
@[inline]
def cursor : Eval Cursor := fun frame machine => .done ⟨frame.tokens, machine.pos⟩ machine

/-- The current token, if one is left. -/
@[inline]
def current? : Eval (Option Located) := fun frame machine =>
  .done (Cursor.current? ⟨frame.tokens, machine.pos⟩) machine

/-- Moves past the current token. -/
@[inline]
def advance : Eval Unit := fun frame machine =>
  .done () { machine with pos := (Cursor.advance ⟨frame.tokens, machine.pos⟩).pos }

/-- Moves back to an earlier position of the same buffer. -/
@[inline]
def rewind (pos : Nat) : Eval Unit := fun _ machine => .done () { machine with pos }

/-- A bound on the rounds of any loop that moves past a token in each round. -/
@[inline]
def rounds : Eval Nat := fun frame machine => .done (frame.tokens.size + 1) machine

/-- Fails because the current token is not what the grammar requires. -/
@[inline]
def unexpected {α : Type} (wanted : Wanted) : Eval α := fun frame machine =>
  .failed (.expected wanted (Cursor.current? ⟨frame.tokens, machine.pos⟩)) machine

/-- Moves past the punctuation `lexeme`, which must be there. -/
def expectPunct (lexeme : String) : Eval Unit := do
  if (← cursor).isPunct lexeme then advance else unexpected (.punct lexeme)

/-- Moves past an identifier, which must be there, and returns its name and
    place. -/
def expectName : Eval (String × Span) := do
  match ← current? with
  | some located =>
    if located.token.kind == .name then
      advance
      return (located.token.lexeme, located.span)
    else unexpected (.kind .name)
  | none => unexpected (.kind .name)

/-- The token that an expression begins with, which must be there. -/
@[inline]
def firstToken : Eval Located := do
  match ← current? with
  | some located => pure located
  | none => unexpected .expression

/-- Fails because no level of nesting is left for the expression that begins
    here. -/
@[inline]
def tooNested {α : Type} (located : Located) : Eval α := fun frame machine =>
  .failed (.atSpan located.span (.nestingDepth frame.limits.nesting)) machine

/-- Notes that one more level of nesting is entered, below which `budget` are
    left. -/
@[inline]
def noteNesting (budget : Nat) : Eval Unit := fun frame machine =>
  .done () { machine with deepestNesting := max machine.deepestNesting (frame.limits.nesting - budget) }

end Eval

end Rewind
