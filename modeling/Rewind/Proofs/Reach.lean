import Rewind.Interpreter
import Rewind.Proofs.Comparison
import Rewind.Proofs.Step

namespace Rewind

/-- The buffers and natives that a run may use, and the host calls that it may have made. -/
structure Reach where
  /-- The buffers that it may read. -/
  buffer : Array Located → Prop
  /-- The natives that it may call. -/
  native : Native → Prop
  /-- The sequences of host calls that it may have made. -/
  calls : Array HostCall → Prop

/-- The buffers that a run can read: its own, and those of the functions that are bound
    when it begins. -/
def Interpreter.Sees (interpreter : Interpreter) (tokens : Array Located) : Prop :=
  tokens = interpreter.tokens ∨
    ∃ name f, interpreter.machine.env.get? name = some (.function f) ∧ f.body.tokens = tokens

/-- A function is in reach if its buffer is, a native if it may be called, and any other
    value always. -/
def Value.InReach (reach : Reach) : Value → Prop
  | function f => reach.buffer f.body.tokens
  | native host => reach.native host
  | _ => True

structure Machine.InReach (reach : Reach) (machine : Machine) : Prop where
  env : ∀ {name value}, machine.env.get? name = some value → value.InReach reach
  calls : reach.calls machine.calls

/-- The answers of the natives in reach are in reach, and so are the calls of them. -/
structure Reach.Closed (reach : Reach) (hosts : Hosts) : Prop where
  answer : ∀ {host earlier code value}, reach.native host →
    (hosts host).answer earlier code = .ok value → value.InReach reach
  push : ∀ {calls host} code, reach.native host → reach.calls calls → reach.calls (calls.push ⟨host, code⟩)

/-- The place of some token in reach. -/
def Reach.Places (reach : Reach) (span : Span) : Prop :=
  ∃ tokens, reach.buffer tokens ∧ ∃ located ∈ tokens, located.span = span

/-- Data that is the same on both sides, and in reach. -/
def Reach.likeness (reach : Reach) : Likeness where
  spans left right := left = right ∧ reach.Places left
  cursors left right := left = right ∧ reach.buffer left.tokens
  positions := Eq
  patience := Eq
  values v w := v = w ∧ v.InReach reach

namespace Machine.InReach

variable {reach : Reach} {machine : Machine}

theorem moved (hmachine : machine.InReach reach) (pos : Nat) : ({ machine with pos } : Machine).InReach reach :=
  ⟨hmachine.env, hmachine.calls⟩

theorem record (hmachine : machine.InReach reach) (event : Event) : (machine.record event).InReach reach :=
  ⟨hmachine.env, hmachine.calls⟩

theorem bind (hmachine : machine.InReach reach) (name : String) {value : Value} (hvalue : value.InReach reach) :
    (machine.bind name value).InReach reach := by
  refine ⟨fun {other found} hfound => ?_, hmachine.calls⟩
  change (machine.env.set name value).get? other = some found at hfound
  rw [Env.get?_set] at hfound
  split at hfound
  · cases hfound
    exact hvalue
  · exact hmachine.env hfound

theorem bindAll (hmachine : machine.InReach reach) (params : List String) {arguments : List Value}
    (harguments : ∀ value ∈ arguments, value.InReach reach) : (machine.bindAll params arguments).InReach reach := by
  induction params generalizing machine arguments with
  | nil => exact hmachine
  | cons param params ih =>
    cases arguments with
    | nil => exact ih (hmachine.bind param (show Value.nil.InReach reach from trivial)) harguments
    | cons value arguments =>
      obtain ⟨hvalue, hrest⟩ := List.forall_mem_cons.1 harguments
      exact ih (hmachine.bind param hvalue) hrest

theorem define (hmachine : machine.InReach reach) (name : String) (params : List String) {body : Cursor}
    (hbody : reach.buffer body.tokens) : (machine.define name params body).InReach reach := by
  have hcounted : ({ machine with made := machine.made + 1 } : Machine).InReach reach :=
    ⟨hmachine.env, hmachine.calls⟩
  exact (hcounted.record _).bind name hbody

theorem entering (hmachine : machine.InReach reach) (target : Cursor) (depth : Nat) :
    (machine.entering target depth).InReach reach :=
  ⟨hmachine.env, hmachine.calls⟩

theorem consulted {frame : Frame} (hmachine : machine.InReach reach) (hclosed : reach.Closed frame.hosts)
    {host : Native} (hhost : reach.native host) (code : String) :
    (Eval.consulted host code frame machine).InReach reach := by
  unfold Eval.consulted
  dsimp only
  split
  · exact ⟨hmachine.env, hclosed.push code hhost hmachine.calls⟩
  · exact ⟨hmachine.env, hclosed.push code hhost hmachine.calls⟩

end Machine.InReach

/-- The result of an operator is always in reach. -/
theorem Value.operate?_inReach {reach : Reach} {operator : String} {left right value : Value}
    (hvalue : Value.operate? operator left right = some value) : value.InReach reach := by
  unfold Value.operate? at hvalue
  split at hvalue
  · obtain ⟨_, _, rfl⟩ := Option.map_eq_some_iff.1 hvalue
    trivial
  · split at hvalue <;> cases hvalue
    trivial
  · split at hvalue <;> cases hvalue
    trivial
  · cases hvalue

end Rewind
