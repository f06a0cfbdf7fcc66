import Rewind.Proofs.Comparison.Guarded
import Rewind.Proofs.Header
import Rewind.Proofs.Step

namespace Rewind

/-- A definition is executed, from one machine to another: its keyword is there, it succeeds,
    and `f` is the function that comes of it. -/
def Machine.Makes (start : Machine) (f : Function) (after : Machine) : Prop :=
  ∃ frame, KeywordAt frame.tokens start.pos .define ∧ Eval.define frame start = .done .nil after ∧
    after.log.toList = start.log.toList ++ [.defined f, .bound f.name (.function f)] ∧
    after.env.get? f.name = some (.function f)

/-- A definition that succeeds makes a function, with the next number. -/
private theorem Machine.Makes.of_done {frame : Frame} {start after : Machine} {value : Value}
    (hkeyword : KeywordAt frame.tokens start.pos .define) (hdone : Eval.define frame start = .done value after) :
    value = .nil ∧ ∃ name params body pos,
      start.Makes ⟨.made start.made, name, params, frame.tokens, body⟩ after ∧
        after = ({ start with pos } : Machine).define name params ⟨frame.tokens, body⟩ := by
  obtain ⟨rfl, name, params, body, pos, _, _, rfl⟩ := (Eval.define_meets hkeyword).of_done hdone
  refine ⟨rfl, name, params, body, pos, ⟨frame, hkeyword, hdone, ?_, ?_⟩, rfl⟩
  · simp [define, record, bind]
  · exact (Env.get?_set _ _ _ _).trans (if_pos rfl)

/-- Where a function comes from. -/
inductive Origin where
  /-- From a definition that was executed. It is in the log at this place. -/
  | executed (place : Nat)
  /-- From outside, where it is the object with this number. -/
  | handed (number : Nat)
deriving DecidableEq

def Function.StemsFrom (f : Function) (log : List Event) : Origin → Prop
  | .executed place => log[place]? = some (.defined f)
  | .handed number => f.id = .given number

def Function.KnownTo (f : Function) (log : List Event) : Prop := ∃ origin, f.StemsFrom log origin

/-- A value that is no function but one with an origin. -/
def Value.KnownTo (value : Value) (log : List Event) : Prop := ∀ f, value = .function f → f.KnownTo log

/-- Hosts that hand out no functions but those with an origin. -/
def Hosts.KnownTo (hosts : Hosts) (log : List Event) : Prop :=
  ∀ ⦃native earlier code value⦄, (hosts native).answer earlier code = .ok value → value.KnownTo log

/-- The number of definitions in a log. -/
def definitions (log : List Event) : Nat :=
  log.countP fun event => match event with
    | .defined _ => true
    | _ => false

/-- A log whose definitions are those that were executed, numbered in their order, and whose
    functions have an origin in the events up to them. -/
structure OrderedLog (log : List Event) : Prop where
  executed : ∀ {place : Nat} {f : Function}, log[place]? = some (.defined f) →
    ∃ start after : Machine, start.Makes f after ∧ start.log.toList = log.take place
  numbered : ∀ {place : Nat} {f : Function}, log[place]? = some (.defined f) →
    f.id = .made (definitions (log.take place))
  logged : ∀ {place : Nat} {event : Event} {f : Function}, log[place]? = some event → event.function? = some f →
    f.KnownTo (log.take (place + 1))

section Mono

variable {log later : List Event} {f : Function} {origin : Origin}

theorem Function.StemsFrom.mono (hstems : f.StemsFrom log origin) (hlater : log <+: later) :
    f.StemsFrom later origin := by
  cases origin with
  | executed place =>
    obtain ⟨rest, rfl⟩ := hlater
    exact (List.getElem?_append_left (List.getElem?_eq_some_iff.1 hstems).1).trans hstems
  | handed number => exact hstems

theorem Function.KnownTo.mono (hknown : f.KnownTo log) (hlater : log <+: later) : f.KnownTo later := by
  obtain ⟨origin, hstems⟩ := hknown
  exact ⟨origin, hstems.mono hlater⟩

theorem Value.KnownTo.mono {value : Value} (hknown : value.KnownTo log) (hlater : log <+: later) :
    value.KnownTo later :=
  fun f hfunction => (hknown f hfunction).mono hlater

theorem Value.knownTo_of_ne_function {value : Value} (hplain : ∀ f, value ≠ .function f) (log : List Event) :
    value.KnownTo log :=
  fun f hfunction => absurd hfunction (hplain f)

theorem Hosts.KnownTo.mono {hosts : Hosts} (hknown : hosts.KnownTo log) (hlater : log <+: later) :
    hosts.KnownTo later :=
  fun _ _ _ _ hanswer => (hknown hanswer).mono hlater

end Mono

private theorem definitions_append (log later : List Event) :
    definitions (log ++ later) = definitions log + definitions later :=
  List.countP_append

/-- A definition counts for all that comes after it. -/
private theorem definitions_take_lt {log : List Event} {place later : Nat} {f : Function} (hlater : place < later)
    (hdefined : log[place]? = some (.defined f)) : definitions (log.take place) < definitions (log.take later) := by
  have hcount : definitions (log.take (place + 1)) = definitions (log.take place) + 1 := by
    rw [List.take_add_one, hdefined]
    exact definitions_append _ _
  have hle : definitions (log.take (place + 1)) ≤ definitions (log.take later) :=
    (List.take_sublist_take_left hlater).countP_le
  omega

namespace OrderedLog

variable {log : List Event} {f g : Function} {origin origin' : Origin}

theorem nil : OrderedLog [] := ⟨by simp, by simp, by simp⟩

private theorem getElem?_concat_cases {event other : Event} {place : Nat}
    (hother : (log ++ [event])[place]? = some other) :
    place < log.length ∧ log[place]? = some other ∨ place = log.length ∧ event = other := by
  rcases Nat.lt_trichotomy place log.length with hlt | rfl | hlt
  · exact .inl ⟨hlt, (List.getElem?_append_left hlt).symm.trans hother⟩
  · rw [List.getElem?_concat_length] at hother
    exact .inr ⟨rfl, Option.some.inj hother⟩
  · rw [List.getElem?_eq_none (by simpa using Nat.succ_le_of_lt hlt)] at hother
    cases hother

/-- The log goes on with one more event. -/
private theorem concat (hlog : OrderedLog log) {event : Event}
    (hexecuted : ∀ f, event = .defined f → ∃ start after : Machine, start.Makes f after ∧ start.log.toList = log)
    (hnumber : ∀ f, event = .defined f → f.id = .made (definitions log))
    (htold : ∀ f, event.function? = some f → f.KnownTo (log ++ [event])) : OrderedLog (log ++ [event]) where
  executed hdefined := by
    rcases getElem?_concat_cases hdefined with ⟨hlt, hbefore⟩ | ⟨rfl, hevent⟩
    · rw [List.take_append_of_le_length (Nat.le_of_lt hlt)]
      exact hlog.executed hbefore
    · rw [List.take_left]
      exact hexecuted _ hevent
  numbered hdefined := by
    rcases getElem?_concat_cases hdefined with ⟨hlt, hbefore⟩ | ⟨rfl, hevent⟩
    · rw [List.take_append_of_le_length (Nat.le_of_lt hlt)]
      exact hlog.numbered hbefore
    · rw [List.take_left]
      exact hnumber _ hevent
  logged hother hfunction := by
    rcases getElem?_concat_cases hother with ⟨hlt, hbefore⟩ | ⟨rfl, rfl⟩
    · rw [List.take_append_of_le_length hlt]
      exact hlog.logged hbefore hfunction
    · rw [List.take_of_length_le (by simp)]
      exact htold _ hfunction

/-- An origin is where the identity of a function comes from. -/
theorem origin_eq_iff (hlog : OrderedLog log) (hf : f.StemsFrom log origin) (hg : g.StemsFrom log origin') :
    origin = origin' ↔ f.id = g.id := by
  cases origin with
  | executed place =>
    have hmade := hlog.numbered hf
    cases origin' with
    | executed place' =>
      have hmade' := hlog.numbered hg
      constructor
      · rintro ⟨⟩
        rw [hmade, hmade']
      · intro hid
        rw [hmade, hmade'] at hid
        injection hid with hcount
        rcases Nat.lt_trichotomy place place' with hlt | rfl | hlt
        · have hbefore := definitions_take_lt hlt hf
          omega
        · rfl
        · have hbefore := definitions_take_lt hlt hg
          omega
    | handed number =>
      have hgiven : g.id = .given number := hg
      simp [hmade, hgiven]
  | handed number =>
    have hgiven : f.id = .given number := hf
    cases origin' with
    | executed place => simp [hgiven, hlog.numbered hg]
    | handed number' =>
      have hgiven' : g.id = .given number' := hg
      simp [hgiven, hgiven']

/-- Functions are equal if and only if their origins are. -/
theorem same_iff (hlog : OrderedLog log) (hf : f.StemsFrom log origin) (hg : g.StemsFrom log origin') :
    (Value.function f).same (.function g) = true ↔ origin = origin' :=
  beq_iff_eq.trans (hlog.origin_eq_iff hf hg).symm

/-- A definition makes a function that nothing comes up with before. -/
theorem fresh (hlog : OrderedLog log) {place : Nat} (hdefined : log[place]? = some (.defined f))
    (hg : g.KnownTo (log.take place)) : (Value.function f).same (.function g) = false := by
  obtain ⟨origin, hstems⟩ := hg
  have hlater : g.StemsFrom log origin := hstems.mono (List.take_prefix _ _)
  have hplace : f.StemsFrom log (.executed place) := hdefined
  rw [← Bool.not_eq_true, hlog.same_iff hplace hlater]
  rintro rfl
  obtain ⟨hlt, _⟩ := List.getElem?_eq_some_iff.1 hstems
  rw [List.length_take] at hlt
  omega

end OrderedLog

/-- A machine that accounts for the functions it has. -/
structure Machine.Sound (machine : Machine) : Prop where
  ordered : OrderedLog machine.log.toList
  made : machine.made = definitions machine.log.toList
  env : ∀ {name : String} {value : Value}, machine.env.get? name = some value → value.KnownTo machine.log.toList

/-- A sound machine whose log continues that of another one. -/
structure Machine.Extends (after start : Machine) : Prop extends after.Sound where
  log : start.log.toList <+: after.log.toList

namespace Machine.Sound

variable {machine : Machine}

theorem of_same {after : Machine} (hmachine : machine.Sound) (henv : after.env = machine.env)
    (hmade : after.made = machine.made) (hlog : after.log = machine.log) : after.Sound := by
  refine ⟨?_, ?_, ?_⟩
  · rw [hlog]
    exact hmachine.ordered
  · rw [hmade, hlog]
    exact hmachine.made
  · rw [henv, hlog]
    exact hmachine.env

theorem record (hmachine : machine.Sound) {event : Event} (hdefined : ∀ f, event ≠ .defined f)
    (htold : ∀ f, event.function? = some f → f.KnownTo machine.log.toList) :
    (machine.record event).Extends machine := by
  have hlog : (machine.record event).log.toList = machine.log.toList ++ [event] := Array.toList_push
  have hgrows : machine.log.toList <+: (machine.record event).log.toList := hlog ▸ List.prefix_append _ _
  refine ⟨⟨?_, ?_, fun hvalue => (hmachine.env hvalue).mono hgrows⟩, hgrows⟩
  · rw [hlog]
    exact hmachine.ordered.concat (fun f hevent => absurd hevent (hdefined f))
      (fun f hevent => absurd hevent (hdefined f)) fun f hfunction => (htold f hfunction).mono (List.prefix_append _ _)
  · rw [hlog, definitions_append]
    change machine.made = _
    rw [hmachine.made]
    cases event <;> first | rfl | exact absurd rfl (hdefined _)

theorem bind (hmachine : machine.Sound) (name : String) {value : Value} (hvalue : value.KnownTo machine.log.toList) :
    (machine.bind name value).Extends machine := by
  have htold : (machine.record (.bound name value)).Extends machine := by
    refine hmachine.record (by simp) fun f hfunction => ?_
    cases value with
    | function g =>
      cases hfunction
      exact hvalue _ rfl
    | number | string | native | nil => cases hfunction
  refine ⟨⟨htold.ordered, htold.made, fun {other found} hfound => ?_⟩, htold.log⟩
  change (machine.env.set name value).get? other = some found at hfound
  rw [Env.get?_set] at hfound
  split at hfound
  · cases hfound
    exact hvalue.mono htold.log
  · exact (hmachine.env hfound).mono htold.log

end Machine.Sound

namespace Machine.Extends

variable {machine after last : Machine}

theorem refl (hmachine : machine.Sound) : machine.Extends machine := ⟨hmachine, List.prefix_rfl⟩

theorem trans (hafter : after.Extends machine) (hlast : last.Extends after) : last.Extends machine :=
  ⟨hlast.toSound, hafter.log.trans hlast.log⟩

end Machine.Extends

namespace Machine.Sound

variable {machine : Machine}

theorem bindAll (hmachine : machine.Sound) (params : List String) {arguments : List Value}
    (harguments : ∀ value ∈ arguments, value.KnownTo machine.log.toList) :
    (machine.bindAll params arguments).Extends machine := by
  induction params generalizing machine arguments with
  | nil => exact .refl hmachine
  | cons param params ih =>
    cases arguments with
    | nil =>
      have hnil : Value.nil.KnownTo machine.log.toList := Value.knownTo_of_ne_function (by simp) _
      have hbound := hmachine.bind param hnil
      exact hbound.trans (ih hbound.toSound (by simp))
    | cons value arguments =>
      obtain ⟨hvalue, harguments⟩ := List.forall_mem_cons.1 harguments
      have hbound := hmachine.bind param hvalue
      exact hbound.trans (ih hbound.toSound fun other hmem => (harguments other hmem).mono hbound.log)

/-- A definition is executed. -/
private theorem define (hmachine : machine.Sound) (name : String) (params : List String) (body : Cursor)
    (hexecuted : ∃ start after : Machine,
      start.Makes ⟨.made machine.made, name, params, body⟩ after ∧ start.log.toList = machine.log.toList) :
    (machine.define name params body).Extends machine := by
  let f : Function := ⟨.made machine.made, name, params, body⟩
  let counted : Machine := { machine with made := machine.made + 1 }
  have hlog : (counted.record (.defined f)).log.toList = machine.log.toList ++ [.defined f] := Array.toList_push
  have hgrows : machine.log.toList <+: (counted.record (.defined f)).log.toList := hlog ▸ List.prefix_append _ _
  have hf : f.KnownTo (counted.record (.defined f)).log.toList := by
    rw [hlog]
    exact ⟨.executed machine.log.toList.length, List.getElem?_concat_length⟩
  have htold : (counted.record (.defined f)).Extends machine := by
    refine ⟨⟨?_, ?_, fun hvalue => (hmachine.env hvalue).mono hgrows⟩, hgrows⟩
    · rw [hlog] at hf ⊢
      refine hmachine.ordered.concat ?_ ?_ ?_
      · rintro _ ⟨⟩
        exact hexecuted
      · rintro _ ⟨⟩
        exact congrArg Identity.made hmachine.made
      · rintro _ ⟨⟩
        exact hf
    · rw [hlog, definitions_append, ← hmachine.made]
      rfl
  refine htold.trans (htold.toSound.bind name ?_)
  rintro _ ⟨⟩
  exact hf

/-- `fn` is executed on a sound machine. -/
theorem makes (hmachine : machine.Sound) {frame : Frame} {value : Value} {after : Machine}
    (hkeyword : KeywordAt frame.tokens machine.pos .define) (hdone : Eval.define frame machine = .done value after) :
    value = .nil ∧ ∃ f, machine.Makes f after ∧ after.Extends machine := by
  obtain ⟨rfl, name, params, body, pos, hmade, rfl⟩ := Makes.of_done hkeyword hdone
  have hmoved : ({ machine with pos } : Machine).Extends machine := ⟨hmachine.of_same rfl rfl rfl, List.prefix_rfl⟩
  refine ⟨rfl, _, hmade, hmoved.trans ?_⟩
  exact hmoved.toSound.define name params ⟨frame.tokens, body⟩ ⟨machine, _, hmade, rfl⟩

theorem consulted (hmachine : machine.Sound) (host : Native) (code : String) (frame : Frame) :
    (Eval.consulted host code frame machine).Extends machine := by
  have htold : (machine.record (.shellRun code)).Extends machine :=
    hmachine.record (by simp) fun f hfunction => nomatch hfunction
  unfold Eval.consulted
  dsimp only
  split
  · exact ⟨htold.toSound.of_same rfl rfl rfl, htold.log⟩
  · exact ⟨hmachine.of_same rfl rfl rfl, List.prefix_rfl⟩

end Machine.Sound

end Rewind
