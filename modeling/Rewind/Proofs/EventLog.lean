import Rewind.Proofs.Comparison.Guarded
import Rewind.Proofs.Step

namespace Rewind

/-- The bindings after the `bound` events of a log. -/
def Env.replay (env : Env) : List Event → Env
  | [] => env
  | .bound name value :: rest => (env.set name value).replay rest
  | _ :: rest => env.replay rest

/-- A name that is bound in a log has a last binding there. -/
theorem Event.exists_last_bound {name : String} {events : List Event} (hbound : ∃ value, .bound name value ∈ events) :
    ∃ earlier value rest, events = earlier ++ .bound name value :: rest ∧ ∀ other, .bound name other ∉ rest := by
  induction events with
  | nil => simp at hbound
  | cons event events ih =>
    by_cases hlater : ∃ value, .bound name value ∈ events
    · obtain ⟨earlier, value, rest, rfl, hlast⟩ := ih hlater
      exact ⟨event :: earlier, value, rest, rfl, hlast⟩
    · obtain ⟨value, hmem⟩ := hbound
      rcases List.mem_cons.1 hmem with rfl | hmem
      · exact ⟨[], value, events, rfl, fun other hmem => hlater ⟨other, hmem⟩⟩
      · exact absurd ⟨value, hmem⟩ hlater

namespace Env

theorem replay_append (env : Env) (events later : List Event) :
    env.replay (events ++ later) = (env.replay events).replay later := by
  induction events generalizing env with
  | nil => rfl
  | cons event events ih => cases event <;> exact ih _

/-- A name that is not bound in the log keeps its binding. -/
theorem get?_replay_of_not_bound {name : String} {events : List Event} (hbound : ∀ value, .bound name value ∉ events)
    (env : Env) : (env.replay events).get? name = env.get? name := by
  induction events generalizing env with
  | nil => rfl
  | cons event events ih =>
    have hrest : ∀ value, .bound name value ∉ events := fun value hmem => hbound value (List.mem_cons_of_mem _ hmem)
    cases event with
    | bound other value =>
      have hne : name ≠ other := by
        rintro rfl
        exact hbound value List.mem_cons_self
      rw [replay, ih hrest, get?_set, if_neg hne]
    | _ => exact ih hrest env

/-- A name has the last value that it is bound to in the log. -/
theorem get?_replay_of_last {name : String} {value : Value} {earlier rest : List Event}
    (hlast : ∀ other, .bound name other ∉ rest) (env : Env) :
    (env.replay (earlier ++ .bound name value :: rest)).get? name = some value := by
  rw [replay_append, replay, get?_replay_of_not_bound hlast, get?_set, if_pos rfl]

end Env

/-- An event that is no binding, and is not followed by one. -/
def Event.Standalone : Event → Prop
  | bound _ _ | called _ _ | defined _ => False
  | forFinished _ | whileFinished _ | shellRun _ => True

/-- Events that one step records: a binding, a call or a definition with the bindings that
    follow it, or a single event. -/
inductive EventGroup : List Event → Prop where
  | bound (name : String) (value : Value) : EventGroup [.bound name value]
  | called (f : Function) (n : Nat) {values : List Value} (hvalues : values.length = f.params.length) :
    EventGroup (.called f n :: List.zipWith .bound f.params values)
  | defined (f : Function) : EventGroup [.defined f, .bound f.name (.function f)]
  | standalone {event : Event} (hstandalone : event.Standalone) : EventGroup [event]

/-- All events of a group but the first are bindings. -/
private theorem EventGroup.bound_of_mem_tail {first event : Event} {rest : List Event}
    (hgroup : EventGroup (first :: rest)) (hmem : event ∈ rest) : ∃ name value, event = .bound name value := by
  cases hgroup with
  | bound => simp at hmem
  | called f n hvalues =>
    rw [← List.map_uncurry_zip_eq_zipWith] at hmem
    obtain ⟨⟨name, value⟩, _, rfl⟩ := List.mem_map.1 hmem
    exact ⟨name, value, rfl⟩
  | defined f =>
    obtain rfl := List.mem_singleton.1 hmem
    exact ⟨_, _, rfl⟩
  | standalone => simp at hmem

/-- A log that consists of event groups. -/
inductive EventGroups : List Event → Prop where
  | nil : EventGroups []
  | cons {group events : List Event} (hgroup : EventGroup group) (hgroups : EventGroups events) :
    EventGroups (group ++ events)

namespace EventGroups

private theorem append {events later : List Event} (hevents : EventGroups events) (hlater : EventGroups later) :
    EventGroups (events ++ later) := by
  induction hevents with
  | nil => exact hlater
  | cons hgroup _ ih =>
    rw [List.append_assoc]
    exact .cons hgroup ih

private theorem of_group {group : List Event} (hgroup : EventGroup group) : EventGroups group := by
  have hgroups := EventGroups.cons hgroup .nil
  rwa [List.append_nil] at hgroups

/-- An event of the log belongs to a group. It is followed by the rest of the group and the
    groups after it. -/
private theorem exists_group {events earlier rest : List Event} {event : Event} (hgroups : EventGroups events)
    (hevents : events = earlier ++ event :: rest) :
    ∃ before after later, EventGroup (before ++ event :: after) ∧ rest = after ++ later := by
  induction hgroups generalizing earlier with
  | nil => simp at hevents
  | @cons group events hgroup hgroups ih =>
    rcases List.append_eq_append_iff.1 hevents with ⟨between, rfl, hrest⟩ | ⟨inside, rfl, hinside⟩
    · exact ih hrest
    · cases inside with
      | nil => exact @ih [] hinside.symm
      | cons first after =>
        obtain ⟨rfl, hrest⟩ := List.cons.inj hinside
        exact ⟨earlier, after, events, hgroup, hrest⟩

/-- An event that is no binding begins a group. -/
private theorem exists_group_from {events earlier rest : List Event} {event : Event} (hgroups : EventGroups events)
    (hevents : events = earlier ++ event :: rest) (hevent : ∀ name value, event ≠ .bound name value) :
    ∃ after later, EventGroup (event :: after) ∧ rest = after ++ later := by
  obtain ⟨before, after, later, hgroup, hrest⟩ := hgroups.exists_group hevents
  cases before with
  | nil => exact ⟨after, later, hgroup, hrest⟩
  | cons first before =>
    have hmem : event ∈ before ++ event :: after := by simp
    obtain ⟨name, value, heq⟩ := hgroup.bound_of_mem_tail hmem
    exact absurd heq (hevent name value)

/-- A call is followed by the bindings of its parameters, in their order. -/
theorem called {events earlier rest : List Event} {f : Function} {n : Nat} (hgroups : EventGroups events)
    (hevents : events = earlier ++ .called f n :: rest) :
    ∃ values later, values.length = f.params.length ∧ rest = List.zipWith .bound f.params values ++ later := by
  obtain ⟨after, later, hgroup, rfl⟩ := hgroups.exists_group_from hevents (by simp)
  cases hgroup with
  | called _ _ hvalues => exact ⟨_, later, hvalues, rfl⟩
  | standalone hstandalone => exact absurd hstandalone id

/-- A definition is followed by the binding of the function. -/
theorem defined {events earlier rest : List Event} {f : Function} (hgroups : EventGroups events)
    (hevents : events = earlier ++ .defined f :: rest) : ∃ later, rest = .bound f.name (.function f) :: later := by
  obtain ⟨after, later, hgroup, rfl⟩ := hgroups.exists_group_from hevents (by simp)
  cases hgroup with
  | defined => exact ⟨later, rfl⟩
  | standalone hstandalone => exact absurd hstandalone id

end EventGroups

/-- Binding parameters records a binding of each of them. -/
private theorem Machine.exists_bindAll (params : List String) (arguments : List Value) :
    ∃ values, values.length = params.length ∧ ∀ machine : Machine, machine.bindAll params arguments =
      { machine with
        env := machine.env.replay (List.zipWith .bound params values)
        log := machine.log ++ (List.zipWith Event.bound params values).toArray } := by
  induction params generalizing arguments with
  | nil => exact ⟨[], rfl, fun machine => by simp [bindAll, Env.replay]⟩
  | cons param params ih =>
    cases arguments with
    | nil =>
      obtain ⟨values, hvalues, hbound⟩ := ih []
      refine ⟨.nil :: values, by simp [hvalues], fun machine => ?_⟩
      simp [bindAll, hbound, bind, Env.replay]
    | cons value arguments =>
      obtain ⟨values, hvalues, hbound⟩ := ih arguments
      refine ⟨value :: values, by simp [hvalues], fun machine => ?_⟩
      simp [bindAll, hbound, bind, Env.replay]

/-- The events that stand for a loop that ends, as functions of what the evaluations of its
    body yielded. -/
structure LoopEvents where
  forFinished : List (Array Value) → Event
  whileFinished : List (Array Value) → Event

/-- The two events are the same, or that of a loop with its number of rounds and the one that
    stands for as many evaluations of its body. -/
inductive Event.RecordedBy (loops : LoopEvents) : Event → Event → Prop where
  | forFinished (bodies : List (Array Value)) :
    RecordedBy loops (.forFinished bodies.length) (loops.forFinished bodies)
  | whileFinished (bodies : List (Array Value)) :
    RecordedBy loops (.whileFinished bodies.length) (loops.whileFinished bodies)
  | bound (name : String) (value : Value) : RecordedBy loops (.bound name value) (.bound name value)
  | called (f : Function) (n : Nat) : RecordedBy loops (.called f n) (.called f n)
  | defined (f : Function) : RecordedBy loops (.defined f) (.defined f)
  | shellRun (code : String) : RecordedBy loops (.shellRun code) (.shellRun code)

namespace LoopEvents

open Eval

/-- The value of a loop, from what each evaluation of its body yielded. -/
def last (bodies : List (Array Value)) : Value := (bodies.getLast?.bind Array.back?).getD .nil

theorem last_append (bodies : List (Array Value)) (values : Array Value) :
    last (bodies ++ [values]) = values.back?.getD .nil := by
  simp [last]

section Loops

variable (loops : LoopEvents) (parts : Parts Eval)

/-- The rounds of a `for` loop that keeps what each evaluation of its body yields, and records
    the event that stands for that. -/
def forRounds (start : Nat) : (patience : Nat) → (bodies : List (Array Value)) → Eval Value
  | 0, _ => giveUp
  | patience + 1, bodies => do
    let condition ← parts.inner
    expectPunct ";"
    if condition.truthy then
      let _ ← parts.inner
      let values ← parts.list
      rewind start
      forRounds start patience (bodies ++ [values])
    else
      parts.skip
      skipList
      update (·.record (loops.forFinished bodies))
      pure (last bodies)

def forLoop : Eval Value := do
  advance
  let _ ← parts.inner
  expectPunct ";"
  loops.forRounds parts (← machine).pos (← frame).patience []

def whileRounds (start : Nat) : (patience : Nat) → (bodies : List (Array Value)) → Eval Value
  | 0, _ => giveUp
  | patience + 1, bodies => do
    let condition ← parts.inner
    if condition.truthy then
      let values ← parts.list
      rewind start
      whileRounds start patience (bodies ++ [values])
    else
      skipList
      update (·.record (loops.whileFinished bodies))
      pure (last bodies)

def whileLoop : Eval Value := do
  advance
  loops.whileRounds parts (← machine).pos (← frame).patience []

def form (located : Located) : Eval Value :=
  match located.token.keyword? with
  | some .forLoop => loops.forLoop parts
  | some .whileLoop => loops.whileLoop parts
  | _ => parts.form located

end Loops

variable (loops : LoopEvents)

def operand : (budget : Nat) → Eval Value
  | 0 => do tooNested (← firstToken)
  | budget + 1 => do
    let located ← firstToken
    noteNesting budget
    loops.form (.of (expression (operand budget) combine) (skipExpression budget)) located

def evaluate (budget : Nat) : Eval Value := expression (loops.operand budget) combine

def program : Eval Value := do
  programFrom (loops.evaluate (← Eval.frame).limits.nesting) (← rounds) .nil

end LoopEvents

/-- The log of the machine has grown since `origin` by event groups that replay to its bindings,
    and `recorded` is the same log with the given events for loops. -/
def Machine.Logs (machine : Machine) (loops : LoopEvents) (origin : Machine) (recorded : Array Event) : Prop :=
  ∃ later later', machine.log.toList = origin.log.toList ++ later ∧ recorded.toList = origin.log.toList ++ later' ∧
    List.Forall₂ (Event.RecordedBy loops) later later' ∧ EventGroups later ∧ machine.env = origin.env.replay later

namespace Machine.Logs

variable {loops : LoopEvents} {origin machine : Machine} {recorded : Array Event}

private theorem refl (loops : LoopEvents) (origin : Machine) : origin.Logs loops origin origin.log :=
  ⟨[], [], by simp, by simp, .nil, .nil, rfl⟩

/-- A step that records and binds nothing. -/
theorem of_same {machine' : Machine} (hlogs : machine.Logs loops origin recorded) (hlog : machine'.log = machine.log)
    (henv : machine'.env = machine.env) : machine'.Logs loops origin recorded := by
  unfold Logs
  rw [hlog, henv]
  exact hlogs

/-- A step that records one group. -/
private theorem append_group {machine' : Machine} {group group' : List Event}
    (hlogs : machine.Logs loops origin recorded)
    (hgroup : EventGroup group) (hrecorded : List.Forall₂ (Event.RecordedBy loops) group group')
    (hlog : machine'.log = machine.log ++ group.toArray) (henv : machine'.env = machine.env.replay group) :
    machine'.Logs loops origin (recorded ++ group'.toArray) := by
  obtain ⟨later, later', hlater, hlater', hevents, hgroups, hreplay⟩ := hlogs
  refine ⟨later ++ group, later' ++ group', ?_, ?_, List.rel_append hevents hrecorded,
    hgroups.append (.of_group hgroup), ?_⟩
  · rw [hlog, Array.toList_append, hlater, List.append_assoc]
  · rw [Array.toList_append, hlater', List.append_assoc]
  · rw [henv, hreplay, Env.replay_append]

end Machine.Logs

/-- Two machines that are the same but for the events that stand for loops in their logs. -/
def Machine.SameButLog (machine : Machine) (loops : LoopEvents) (origin recorded : Machine) : Prop :=
  ∃ log, machine.Logs loops origin log ∧ recorded = { machine with log }

namespace Machine.SameButLog

variable {loops : LoopEvents} {origin machine recorded : Machine}

theorem refl (loops : LoopEvents) (origin : Machine) : origin.SameButLog loops origin origin :=
  ⟨origin.log, .refl loops origin, rfl⟩

theorem moved (hsame : machine.SameButLog loops origin recorded) (pos : Nat) :
    { machine with pos }.SameButLog loops origin { recorded with pos } := by
  obtain ⟨log, hlogs, rfl⟩ := hsame
  exact ⟨log, hlogs.of_same rfl rfl, rfl⟩

theorem entering (hsame : machine.SameButLog loops origin recorded) (target : Cursor) (depth : Nat) :
    (machine.entering target depth).SameButLog loops origin (recorded.entering target depth) := by
  obtain ⟨log, hlogs, rfl⟩ := hsame
  exact ⟨log, hlogs.of_same rfl rfl, rfl⟩

theorem record {event event' : Event} (hsame : machine.SameButLog loops origin recorded)
    (hstandalone : event.Standalone)
    (hrecorded : Event.RecordedBy loops event event') :
    (machine.record event).SameButLog loops origin (recorded.record event') := by
  obtain ⟨log, hlogs, rfl⟩ := hsame
  have henv : machine.env = machine.env.replay [event] := by cases event <;> first | rfl | exact absurd hstandalone id
  exact ⟨_, hlogs.append_group (.standalone hstandalone) (.cons hrecorded .nil) rfl henv, rfl⟩

theorem bind (hsame : machine.SameButLog loops origin recorded) (name : String) (value : Value) :
    (machine.bind name value).SameButLog loops origin (recorded.bind name value) := by
  obtain ⟨log, hlogs, rfl⟩ := hsame
  exact ⟨_, hlogs.append_group (.bound name value) (.cons (.bound name value) .nil) rfl rfl, rfl⟩

theorem called (hsame : machine.SameButLog loops origin recorded) (f : Function) (n : Nat) (arguments : List Value) :
    ((machine.record (.called f n)).bindAll f.params arguments).SameButLog loops origin
      ((recorded.record (.called f n)).bindAll f.params arguments) := by
  obtain ⟨log, hlogs, rfl⟩ := hsame
  obtain ⟨values, hvalues, hbound⟩ := exists_bindAll f.params arguments
  have hgroup := EventGroup.called f n hvalues
  have hbounds : ∀ event ∈ List.zipWith Event.bound f.params values, Event.RecordedBy loops event event := by
    intro event hmem
    obtain ⟨name, value, rfl⟩ := hgroup.bound_of_mem_tail hmem
    exact .bound name value
  rw [hbound, hbound]
  refine ⟨_, hlogs.append_group hgroup (.cons (.called f n) (List.forall₂_same.2 hbounds)) ?_ rfl, ?_⟩
  · simp [Machine.record]
  · simp [Machine.record]

theorem define (hsame : machine.SameButLog loops origin recorded) (name : String) (params : List String)
    (body : Cursor) :
    (machine.define name params body).SameButLog loops origin (recorded.define name params body) := by
  obtain ⟨log, hlogs, rfl⟩ := hsame
  exact ⟨_, hlogs.append_group (.defined _) (.cons (.defined _) (.cons (.bound _ _) .nil)) rfl rfl, rfl⟩

theorem consulted (hsame : machine.SameButLog loops origin recorded) (frame : Frame) (host : Native) (code : String) :
    (Eval.consulted host code frame machine).SameButLog loops origin (Eval.consulted host code frame recorded) := by
  unfold Eval.consulted
  dsimp only
  split
  · have hevent : (Event.shellRun code).Standalone := trivial
    obtain ⟨log, hlogs, hrecorded⟩ := hsame.record hevent (.shellRun code)
    exact ⟨log, hlogs.of_same rfl rfl, by rw [hrecorded]⟩
  · obtain ⟨log, hlogs, rfl⟩ := hsame
    exact ⟨log, hlogs.of_same rfl rfl, rfl⟩

end Machine.SameButLog

end Rewind
