import Rewind.Proofs.Provenance.Copying
import Rewind.Session

namespace Rewind

/-- A moment of a run at which functions of different origins are unequal. -/
structure Machine.Distinguishes (start : Machine) : Prop where
  /-- What an expression evaluates to has an origin by then. -/
  evaluated : ∀ {budget : Nat} {frame : Frame}, frame.hosts.KnownTo start.log.toList →
    (Eval.evaluate budget frame start).Meets
      (fun value after => after.Extends start ∧ value.KnownTo after.log.toList)
      fun _ after => after.Extends start
  /-- A definition that succeeds makes a function that is unequal to all that have an origin. -/
  executed : ∀ {frame : Frame} {value : Value} {after : Machine}, KeywordAt frame.tokens start.pos .define →
    Eval.define frame start = .done value after →
      ∃ f, start.Makes f after ∧ ∀ g : Function, g.KnownTo start.log.toList →
        (Value.function f).same (.function g) = false

private theorem Machine.Sound.distinguishes {start : Machine} (hstart : start.Sound) : start.Distinguishes where
  evaluated {budget frame} hhosts := Eval.Upholds.evaluate budget _ frame start hhosts List.prefix_rfl hstart
  executed {frame value after} hkeyword hdone := by
    obtain ⟨_, f, hmakes, hafter⟩ := hstart.makes hkeyword hdone
    obtain ⟨_, _, _, hlog, _⟩ := id hmakes
    have hdefined : after.log.toList[start.log.toList.length]? = some (.defined f) := by
      rw [hlog, List.getElem?_append_right (Nat.le_refl _), Nat.sub_self]
      rfl
    refine ⟨f, hmakes, fun g hg => hafter.ordered.fresh hdefined ?_⟩
    rwa [hlog, List.take_left]

namespace Session

/-- The events that a session has logged so far. -/
abbrev log (session : Session) : List Event := session.machine.log.toList

/-- The functions that names are bound to, in the symbol table or in one that was put aside. -/
def Holds (session : Session) (f : Function) : Prop :=
  ∃ env name, (env = session.env ∨ env ∈ session.saved) ∧ env.get? name = some (.function f)

/-- A command that brings in no function but one with an origin. -/
def Command.KnownTo : Command → List Event → Prop
  | .set _ value, log => value.KnownTo log
  | _, _ => True

/-- A value that a reply hands out. -/
def Reply.value? : Reply → Option Value
  | .ran (.ok value) => some value
  | .got value => value
  | _ => none

/-- The sessions that come of one. Hosts and values from outside bring in no function but one
    with an origin. -/
inductive LeadsTo (start : Session) : Session → Prop where
  | refl : start.LeadsTo start
  | step {session after : Session} {hosts : Hosts} {patience : Nat} {command : Command} {reply : Reply}
    (hbefore : start.LeadsTo session) (hhosts : hosts.KnownTo session.log) (hcommand : command.KnownTo session.log)
    (hstep : session.step hosts patience command = some (reply, after)) : start.LeadsTo after
  /-- A source is gone on with, where it stopped. -/
  | resumed {session : Session} {interpreter after : Interpreter} {hosts : Hosts} {patience : Nat}
    {result : Except Error Value} (hbefore : start.LeadsTo session) (hhosts : hosts.KnownTo session.log)
    (hmachine : interpreter.machine = session.machine)
    (hrun : interpreter.run hosts patience = some (result, after)) :
    start.LeadsTo { session with machine := after.machine }

/-- A session that accounts for the functions it has. -/
structure Sound (session : Session) : Prop where
  machine : session.machine.Sound
  saved : ∀ env ∈ session.saved.toList, ∀ {name : String} {value : Value}, env.get? name = some value →
    value.KnownTo session.log

/-- A sound session whose log continues that of another one. -/
structure Extends (after start : Session) : Prop extends after.Sound where
  log : start.log <+: after.log

namespace Sound

variable {session after : Session} {hosts : Hosts} {patience : Nat}

/-- Bindings are changed, and nothing is put aside. -/
private theorem of_machine (hsession : session.Sound) {machine : Machine} (hmachine : machine.Extends session.machine) :
    ({ session with machine } : Session).Extends session where
  machine := hmachine.toSound
  saved env hmem _ _ hvalue := (hsession.saved env hmem hvalue).mono hmachine.log
  log := hmachine.log

private theorem known_of_env (hsession : session.Sound) {env : Env} (henv : env = session.env ∨ env ∈ session.saved)
    {name : String} {value : Value} (hvalue : env.get? name = some value) : value.KnownTo session.log := by
  rcases henv with rfl | hmem
  · exact hsession.machine.env hvalue
  · exact hsession.saved env (Array.mem_toList_iff.2 hmem) hvalue

/-- A command keeps a session sound, and its reply hands out no function without an origin. -/
private theorem step (hsession : session.Sound) (hhosts : hosts.KnownTo session.log) {command : Command}
    (hcommand : command.KnownTo session.log) {reply : Reply}
    (hstep : session.step hosts patience command = some (reply, after)) :
    after.Extends session ∧ ∀ value, reply.value? = some value → value.KnownTo after.log := by
  have hrefl : session.Extends session := hsession.of_machine (.refl hsession.machine)
  cases command with
  | run source limits =>
    have hbegun : (Interpreter.onMachine source session.machine (limits.getD session.limits)).machine.Extends
        session.machine := ⟨hsession.machine.of_same rfl rfl rfl, List.prefix_rfl⟩
    obtain ⟨⟨result, ran⟩, hran, heq⟩ := Option.map_eq_some_iff.1 hstep
    cases heq
    obtain ⟨⟨_, stopped⟩, hrun, heq⟩ := Option.map_eq_some_iff.1 hran
    cases heq
    obtain ⟨hafter, hresult⟩ := Interpreter.run_extends hhosts hbegun.toSound hrun
    refine ⟨hsession.of_machine (hbegun.trans hafter), fun value hreply => ?_⟩
    cases result with
    | ok found =>
      cases hreply
      exact hresult _ rfl
    | error error => cases hreply
  | set name value =>
    cases hstep
    exact ⟨hsession.of_machine (hsession.machine.bind name hcommand), fun _ hreply => nomatch hreply⟩
  | get name =>
    cases hstep
    exact ⟨hrefl, fun value hvalue => hsession.machine.env hvalue⟩
  | same left right =>
    cases hstep
    exact ⟨hrefl, fun _ hreply => nomatch hreply⟩
  | snapshot =>
    cases hstep
    refine ⟨⟨⟨hsession.machine, fun env hmem _ _ hvalue => ?_⟩, List.prefix_rfl⟩, fun _ hreply => nomatch hreply⟩
    rw [Array.toList_push, List.mem_append, List.mem_singleton] at hmem
    rcases hmem with hmem | rfl
    · exact hsession.saved env hmem hvalue
    · exact hsession.machine.env hvalue
  | restore number =>
    cases hstep
    refine ⟨⟨⟨⟨hsession.machine.ordered, hsession.machine.made, fun hvalue => ?_⟩, hsession.saved⟩,
      List.prefix_rfl⟩, fun _ hreply => nomatch hreply⟩
    refine hsession.known_of_env ?_ hvalue
    cases hsaved : session.saved[number]? with
    | none => exact .inl rfl
    | some env => exact .inr (Array.mem_of_getElem? hsaved)
  | info =>
    cases hstep
    exact ⟨hrefl, fun _ hreply => nomatch hreply⟩

end Sound

private theorem Extends.trans {start mid after : Session} (hmid : mid.Extends start) (hafter : after.Extends mid) :
    after.Extends start :=
  ⟨hafter.toSound, hmid.log.trans hafter.log⟩

private theorem saved_step {session after : Session} {hosts : Hosts} {patience : Nat} {command : Command}
    {reply : Reply} (hstep : session.step hosts patience command = some (reply, after)) :
    session.saved.toList <+: after.saved.toList := by
  cases command with
  | run source limits =>
    obtain ⟨_, hran, heq⟩ := Option.map_eq_some_iff.1 hstep
    cases heq
    obtain ⟨_, _, rfl⟩ := Option.map_eq_some_iff.1 hran
    exact List.prefix_rfl
  | snapshot =>
    cases hstep
    rw [Array.toList_push]
    exact List.prefix_append _ _
  | set | get | same | restore | info =>
    cases hstep
    exact List.prefix_rfl

namespace LeadsTo

variable {start session : Session}

private theorem grows (hstart : start.Sound) (hleads : start.LeadsTo session) : session.Extends start := by
  induction hleads with
  | refl => exact hstart.of_machine (.refl hstart.machine)
  | step _ hhosts hcommand hstep ih => exact ih.trans (ih.toSound.step hhosts hcommand hstep).1
  | resumed _ hhosts hmachine hrun ih =>
    rw [log, ← hmachine] at hhosts
    have hafter := (Interpreter.run_extends hhosts (hmachine ▸ ih.machine) hrun).1
    exact ih.trans (ih.toSound.of_machine (hmachine ▸ hafter))

/-- Tables that were put aside stay. -/
private theorem saved (hleads : start.LeadsTo session) : start.saved.toList <+: session.saved.toList := by
  induction hleads with
  | refl => exact List.prefix_rfl
  | step _ _ _ hstep ih => exact ih.trans (saved_step hstep)
  | resumed _ _ _ _ ih => exact ih

end LeadsTo

private theorem sound_ofConfig (config : Config) : (ofConfig config).Sound := by
  have hempty : Machine.Sound {} := ⟨.nil, rfl, fun hvalue => nomatch hvalue⟩
  refine ⟨?_, fun _ hmem => nomatch hmem⟩
  change (Machine.ofConfig config).Sound
  unfold Machine.ofConfig
  cases config.host with
  | none => exact hempty
  | some host => exact (hempty.bind _ (Value.knownTo_of_ne_function (by simp) _)).toSound

/-- To go back to a table that was put aside is to have its bindings again. -/
private theorem restore_snapshot {session aside later restored : Session} {hosts hosts' : Hosts}
    {patience patience' number : Nat} {reply : Reply}
    (hsnapshot : session.step hosts patience .snapshot = some (.saved number, aside)) (hlater : aside.LeadsTo later)
    (hrestore : later.step hosts' patience' (.restore number) = some (reply, restored)) :
    restored.env = session.env := by
  cases hsnapshot
  cases hrestore
  obtain ⟨rest, htables⟩ := hlater.saved
  change later.saved[session.saved.size]?.getD later.env = session.env
  rw [← Array.getElem?_toList, ← htables]
  simp

/-- A session in which equal functions are those of one origin. -/
structure Distinguishes (session : Session) : Prop where
  /-- Every function that is bound has an origin, -/
  held : ∀ {f : Function}, session.Holds f → f.KnownTo session.log
  /-- and had it when it was logged, -/
  logged : ∀ {place : Nat} {event : Event} {f : Function}, session.log[place]? = some event →
    event.function? = some f → f.KnownTo (session.log.take (place + 1))
  /-- and has it when it is handed out. -/
  replied : ∀ {hosts : Hosts} {patience : Nat} {command : Command} {reply : Reply} {after : Session} {value : Value},
    hosts.KnownTo session.log → command.KnownTo session.log →
      session.step hosts patience command = some (reply, after) → reply.value? = some value → value.KnownTo after.log
  same_iff : ∀ {f g : Function} {origin origin' : Origin}, f.StemsFrom session.log origin →
    g.StemsFrom session.log origin' → ((Value.function f).same (.function g) = true ↔ origin = origin')
  compared : ∀ {hosts : Hosts} {patience : Nat} {left right : String} {f g : Function} {equal : Bool} {after : Session},
    session.env.get? left = some (.function f) → session.env.get? right = some (.function g) →
      session.step hosts patience (.same left right) = some (.same equal, after) →
        (equal = true ↔ ∃ origin, f.StemsFrom session.log origin ∧ g.StemsFrom session.log origin)
  /-- A definition in the log was executed there, and made a function that is
      unequal to all that there were before. -/
  fresh : ∀ {place : Nat} {f : Function}, session.log[place]? = some (.defined f) →
    (∃ start after : Machine, start.Makes f after ∧ start.log.toList = session.log.take place) ∧
    ∀ g : Function, g.KnownTo (session.log.take place) → (Value.function f).same (.function g) = false

private theorem Sound.distinguishes {session : Session} (hsession : session.Sound) : session.Distinguishes where
  held := by
    rintro f ⟨env, name, henv, hvalue⟩
    exact hsession.known_of_env henv hvalue f rfl
  logged := hsession.machine.ordered.logged
  replied hhosts hcommand hstep hreply := (hsession.step hhosts hcommand hstep).2 _ hreply
  same_iff := hsession.machine.ordered.same_iff
  compared {_ _ left right f g equal after} hleft hright hstep := by
    obtain ⟨origin, hf⟩ := hsession.machine.env hleft f rfl
    obtain ⟨origin', hg⟩ := hsession.machine.env hright g rfl
    have hsame : (Value.function f).same (.function g) = equal := by
      cases hstep
      rw [hleft, hright]
      rfl
    rw [← hsame, hsession.machine.ordered.same_iff hf hg]
    constructor
    · rintro rfl
      exact ⟨origin, hf, hg⟩
    · rintro ⟨common, hf', hg'⟩
      -- each of the two has one origin only
      have hleft := (hsession.machine.ordered.origin_eq_iff hf hf').2 rfl
      exact hleft.trans ((hsession.machine.ordered.origin_eq_iff hg' hg).2 rfl)
  fresh hdefined := ⟨hsession.machine.ordered.executed hdefined, fun _ => hsession.machine.ordered.fresh hdefined⟩

/-- The equality of functions is that of what they come from. In a session that one from a
    configuration leads to, every function that is bound, logged or handed out has an
    origin: a definition that was executed, or an object from outside. Two functions are
    equal if and only if it is the same one. At every moment of a run, what an expression
    evaluates to has an origin by then, and a definition that is executed makes a function
    unequal to all that have one. Values are handed on as they are, bindings that were put
    aside come back, and what holds of the functions that there are stays so in every later
    session. -/
theorem functions_equal_iff_of_one_origin {config : Config} {session : Session}
    (hsession : (ofConfig config).LeadsTo session) :
    session.Distinguishes ∧
    (session.machine.Sound ∧ ∀ start : Machine, start.Sound → start.Distinguishes) ∧
    (∀ (budget : Nat) (frame : Frame) (start : Machine), Eval.PassesValues budget frame start) ∧
    (∀ {hosts hosts' patience patience' number aside later reply restored},
      session.step hosts patience .snapshot = some (.saved number, aside) → aside.LeadsTo later →
        later.step hosts' patience' (.restore number) = some (reply, restored) → restored.env = session.env) ∧
    ∀ later, session.LeadsTo later →
      (∀ (f : Function) (origin : Origin), f.StemsFrom session.log origin → f.StemsFrom later.log origin) ∧
      ∀ (f g f' g' : Function) (origin origin' : Origin), f.StemsFrom session.log origin →
        g.StemsFrom session.log origin' → f'.StemsFrom later.log origin → g'.StemsFrom later.log origin' →
          (Value.function f').same (.function g') = (Value.function f).same (.function g) := by
  have hsound := (hsession.grows (sound_ofConfig config)).toSound
  refine ⟨hsound.distinguishes, ⟨hsound.machine, fun start hstart => hstart.distinguishes⟩, Eval.passesValues,
    restore_snapshot, ?_⟩
  intro later hlater
  have hgrows := hlater.grows hsound
  refine ⟨fun f origin hstems => hstems.mono hgrows.log, fun f g f' g' origin origin' hf hg hf' hg' => ?_⟩
  exact Bool.eq_iff_iff.2 ((hgrows.machine.ordered.same_iff hf' hg').trans
    (hsound.machine.ordered.same_iff hf hg).symm)

/-- The same definition is executed twice. Each time, the function of the time before is kept. -/
def rounds : String :=
  "set a = 'x' set b = 'x' set h = '' while a (fn f() ('y') set g = (h) set h = (f) set a = b set b = '')"

private theorem exists_function {value : Value} (htype : value.typeName = "function") : ∃ f, value = .function f := by
  cases value with
  | function f => exact ⟨f, rfl⟩
  | number | string | native | nil => simp [Value.typeName] at htype

theorem functions_equal_iff_of_one_origin_of_rounds :
    ∃ (session : Session) (f g h : Function) (origin origin' : Origin), (ofConfig {}).LeadsTo session ∧
      session.env.get? "f" = some (.function f) ∧ session.env.get? "g" = some (.function g) ∧
      session.env.get? "h" = some (.function h) ∧ (Value.function f).dump = (Value.function g).dump ∧
      f.StemsFrom session.log origin ∧ h.StemsFrom session.log origin ∧ g.StemsFrom session.log origin' ∧
      origin ≠ origin' := by
  have hran : ((ofConfig {}).step (fun _ => .echo) 3 (.run rounds none)).any (fun ran =>
      (ran.2.env.get? "f").any fun f => (ran.2.env.get? "g").any fun g => (ran.2.env.get? "h").any fun h =>
        decide ((f.typeName = "function" ∧ g.typeName = "function" ∧ h.typeName = "function") ∧
          f.dump = g.dump ∧ f.same h = true ∧ f.same g = false)) = true := by decide +kernel
  obtain ⟨⟨reply, session⟩, hstep, hran⟩ := (Option.any_eq_true _ _).1 hran
  obtain ⟨f, hf, hran⟩ := (Option.any_eq_true _ _).1 hran
  obtain ⟨g, hg, hran⟩ := (Option.any_eq_true _ _).1 hran
  obtain ⟨h, hh, hran⟩ := (Option.any_eq_true _ _).1 hran
  obtain ⟨⟨hftype, hgtype, hhtype⟩, hdump, hsame, hdiffers⟩ := of_decide_eq_true hran
  obtain ⟨f, rfl⟩ := exists_function hftype
  obtain ⟨g, rfl⟩ := exists_function hgtype
  obtain ⟨h, rfl⟩ := exists_function hhtype
  have hsession : (ofConfig {}).LeadsTo session := by
    refine .step .refl ?_ (show Command.KnownTo (.run rounds none) _ from trivial) hstep
    rintro native earlier code value ⟨⟩
    exact Value.knownTo_of_ne_function (by simp) _
  obtain ⟨hdiscerns, _⟩ := functions_equal_iff_of_one_origin hsession
  obtain ⟨origin, hforigin⟩ := hdiscerns.held ⟨_, "f", .inl rfl, hf⟩
  obtain ⟨origin', hgorigin⟩ := hdiscerns.held ⟨_, "g", .inl rfl, hg⟩
  obtain ⟨common, hhorigin⟩ := hdiscerns.held ⟨_, "h", .inl rfl, hh⟩
  obtain rfl := (hdiscerns.same_iff hforigin hhorigin).1 hsame
  have hne : origin ≠ origin' := by
    rw [Ne, ← hdiscerns.same_iff hforigin hgorigin, hdiffers]
    exact Bool.false_ne_true
  exact ⟨session, f, g, h, origin, origin', hsession, hf, hg, hh, hdump, hforigin, hhorigin, hgorigin, hne⟩

end Session

end Rewind
