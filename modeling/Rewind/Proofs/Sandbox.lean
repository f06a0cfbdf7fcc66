import Rewind.Proofs.Reach.Confined
import Rewind.Proofs.Replay

namespace Rewind

/-- What a session is asked to do: run a source under a configuration of its own, for
    its last value or for its bindings. -/
inductive Task where
  | run (source : String) (config : Config)
  | interpret (source : String) (config : Config)

/-- What a session answers. -/
inductive Answer where
  | value (result : Except Error Value)
  | bindings (result : Except Error Env)

/-- Does one task on a machine that earlier tasks have used. Of its configuration only
    the limits count: the machine has its bindings already. -/
def Task.perform (hosts : Hosts) (patience : Nat) (machine : Machine) : Task → Option (Answer × Machine)
  | run source config =>
    ((Interpreter.onMachine source machine config.limits).run hosts patience).map fun (result, after) =>
      (.value result, after.machine)
  | interpret source config =>
    ((Interpreter.onMachine source machine config.limits).interpret hosts patience).map fun (result, after) =>
      (.bindings result, after.machine)

/-- Does tasks one after another, whether they succeed or fail. There is no answer if
    one of them does not end within `patience`. -/
def Task.performAll (hosts : Hosts) (patience : Nat) : List Task → Machine → Option (List Answer × Machine)
  | [], machine => some ([], machine)
  | task :: tasks, machine => do
    let (answer, machine) ← task.perform hosts patience machine
    let (answers, machine) ← performAll hosts patience tasks machine
    return (answer :: answers, machine)

/-- The native is bound to some name. -/
def Env.Holds (env : Env) (native : Native) : Prop := ∃ name, env.get? name = some (.native native)

/-- The native is a result, or bound in one. -/
def Answer.Shows (native : Native) : Answer → Prop
  | value result => result = .ok (.native native)
  | bindings result => ∃ env, result = .ok env ∧ env.Holds native

/-- The native is the answer to a host call that was made between two machines. -/
def Native.ReturnedBetween (hosts : Hosts) (start after : Machine) (native : Native) : Prop :=
  ∃ before call later, after.calls.toList = before ++ call :: later ∧ start.calls.size ≤ before.length ∧
    (hosts call.native).answer (codesOf before call.native) call.code = .ok (.native native)

namespace Task

variable {hosts : Hosts} {patience : Nat} {start after : Machine} {answers : List Answer}

/-- The source that a task runs, on the machine it is given. -/
def interpreter (machine : Machine) : Task → Interpreter
  | run source config => .onMachine source machine config.limits
  | interpret source config => .onMachine source machine config.limits

/-- What a task answers at the end of its run. -/
def answer (result : Except Error Value) (env : Env) : Task → Answer
  | run _ _ => .value result
  | interpret _ _ => .bindings (result.map fun _ => env)

/-- The machine of a session at the point where one of its tasks runs out of patience. There
    is none if they all end. -/
def givenUp (hosts : Hosts) (patience : Nat) : List Task → Machine → Option Machine
  | [], _ => none
  | task :: tasks, machine =>
    match (task.interpreter machine).verdict .idle hosts patience with
    | .done _ after => givenUp hosts patience tasks after
    | .failed _ _ after => givenUp hosts patience tasks after
    | .unfinished after => some after
    | .stopped => none

/-- Both sorts of task are a run. -/
private theorem perform_eq_map (task : Task) : task.perform hosts patience start =
    ((task.interpreter start).run hosts patience).map fun (result, after) =>
      (task.answer result after.machine.env, after.machine) := by
  cases task with
  | run => rfl
  | interpret => exact Option.map_map _ _ _

private theorem performAll_cons {task : Task} {tasks : List Task}
    (hdone : performAll hosts patience (task :: tasks) start = some (answers, after)) :
    ∃ answer mid rest, task.perform hosts patience start = some (answer, mid) ∧
      performAll hosts patience tasks mid = some (rest, after) ∧ answers = answer :: rest := by
  obtain ⟨⟨answer, mid⟩, hfirst, hrest⟩ := Option.bind_eq_some_iff.1 hdone
  obtain ⟨⟨rest, last⟩, hrest, hlast⟩ := Option.bind_eq_some_iff.1 hrest
  cases hlast
  exact ⟨answer, mid, rest, hfirst, hrest, rfl⟩

private theorem perform_replay {told : List HostCall} {since : Nat} {other : Hosts} {task : Task} {answer : Answer}
    (hhosts : hosts.AnswerAlike told since other) (hsince : since ≤ start.calls.size)
    (hdone : task.perform hosts patience start = some (answer, after)) :
    start.calls.toList <+: after.calls.toList ∧
      (after.calls.toList <+: told → task.perform other patience start = some (answer, after)) := by
  rw [perform_eq_map] at hdone ⊢
  obtain ⟨⟨result, stop⟩, hrun, hdone⟩ := Option.map_eq_some_iff.1 hdone
  cases hdone
  have hsince : since ≤ (task.interpreter start).machine.calls.size := by cases task <;> exact hsince
  obtain ⟨hgrows, hreplay⟩ := Interpreter.run_replay hhosts (Nat.le_refl patience) hsince hrun
  refine ⟨by cases task <;> exact hgrows, fun htold => ?_⟩
  rw [hreplay htold]
  rfl

private theorem performAll_replay {told : List HostCall} {since : Nat} {other : Hosts} {tasks : List Task}
    (hhosts : hosts.AnswerAlike told since other) (hsince : since ≤ start.calls.size)
    (hdone : performAll hosts patience tasks start = some (answers, after)) :
    start.calls.toList <+: after.calls.toList ∧
      (after.calls.toList <+: told → performAll other patience tasks start = some (answers, after)) := by
  induction tasks generalizing start answers with
  | nil =>
    cases hdone
    exact ⟨List.prefix_rfl, fun _ => rfl⟩
  | cons task tasks ih =>
    obtain ⟨answer, mid, rest, hfirst, hrest, rfl⟩ := performAll_cons hdone
    obtain ⟨hgrows, hreplay⟩ := perform_replay hhosts hsince hfirst
    obtain ⟨hgrows', hreplay'⟩ := ih (Nat.le_trans hsince hgrows.length_le) hrest
    refine ⟨hgrows.trans hgrows', fun htold => ?_⟩
    simp [performAll, hreplay (hgrows'.trans htold), hreplay' htold]

/-- The machine after a task and its answer are in reach, whatever it reads, and so is the
    machine where it is given up. -/
private theorem perform_inReach {reach : Reach} (hbuffer : ∀ tokens, reach.buffer tokens) (hclosed : reach.Closed hosts)
    (hstart : start.InReach reach) (patience : Nat) (task : Task) (tasks : List Task) :
    (∃ answer after, task.perform hosts patience start = some (answer, after) ∧ after.InReach reach ∧
      (∀ native, answer.Shows native → reach.native native) ∧
      givenUp hosts patience (task :: tasks) start = givenUp hosts patience tasks after) ∨
    ∃ after, task.perform hosts patience start = none ∧ after.InReach reach ∧
      givenUp hosts patience (task :: tasks) start = some after := by
  have hbegin : (task.interpreter start).machine.InReach reach := by
    cases task <;> exact ⟨hstart.env, hstart.calls⟩
  have hconfined := Interpreter.verdict_inReach (hbuffer _) hclosed hbegin .idle patience
  rw [perform_eq_map]
  rcases Interpreter.run_cases (task.interpreter start) hosts patience with
    ⟨value, after, hverdict, hrun⟩ | ⟨error, place, after, hverdict, hrun⟩ | ⟨after, hverdict, hrun⟩
  · rw [hverdict] at hconfined
    refine .inl ⟨_, after, by rw [hrun]; rfl, hconfined.1, fun native hshows => ?_, by rw [givenUp, hverdict]⟩
    cases task with
    | run =>
      cases hshows
      exact hconfined.2
    | interpret =>
      obtain ⟨_, ⟨⟩, name, hname⟩ := hshows
      exact hconfined.1.env hname
  · rw [hverdict] at hconfined
    refine .inl ⟨_, after, by rw [hrun]; rfl, hconfined.1, fun native hshows => ?_, by rw [givenUp, hverdict]⟩
    cases task with
    | run => cases hshows
    | interpret =>
      obtain ⟨_, ⟨⟩, _⟩ := hshows
  · rw [hverdict] at hconfined
    exact .inr ⟨after, by rw [hrun]; rfl, hconfined, by rw [givenUp, hverdict]⟩

/-- The machine after a session and its answers are in reach, and so is the machine where it
    is given up. -/
private theorem performAll_inReach {reach : Reach} (hbuffer : ∀ tokens, reach.buffer tokens)
    (hclosed : reach.Closed hosts) (tasks : List Task) (hstart : start.InReach reach) :
    (∃ answers after, performAll hosts patience tasks start = some (answers, after) ∧ after.InReach reach ∧
      ∀ answer ∈ answers, ∀ native, answer.Shows native → reach.native native) ∨
    ∃ after, performAll hosts patience tasks start = none ∧ givenUp hosts patience tasks start = some after ∧
      after.InReach reach := by
  induction tasks generalizing start with
  | nil => exact .inl ⟨[], start, rfl, hstart, fun _ hmem => absurd hmem List.not_mem_nil⟩
  | cons task tasks ih =>
    rcases perform_inReach hbuffer hclosed hstart patience task tasks with
      ⟨answer, mid, hfirst, hmid, hanswer, hgoes⟩ | ⟨after, hfirst, hafter, hends⟩
    · rcases ih hmid with ⟨answers, after, hrest, hafter, hanswers⟩ | ⟨after, hrest, hends, hafter⟩
      · exact .inl ⟨answer :: answers, after, by simp [performAll, hfirst, hrest], hafter,
          List.forall_mem_cons.2 ⟨hanswer, hanswers⟩⟩
      · exact .inr ⟨after, by simp [performAll, hfirst, hrest], hgoes.trans hends, hafter⟩
    · exact .inr ⟨after, by simp [performAll, hfirst], hends, hafter⟩

end Task

/-- Hosts that answer the calls of a record as others do, and refuse every other
    call. -/
private theorem Hosts.exists_answerAlike (hosts : Hosts) (told : List HostCall) (since : Nat) :
    ∃ other, hosts.AnswerAlike told since other ∧
      ∀ {native earlier code value}, (other native).answer earlier code = .ok value →
        ∃ before later, told = before ++ ⟨native, code⟩ :: later ∧ since ≤ before.length ∧
          (hosts native).answer (codesOf before native) code = .ok value := by
  classical
  let recorded (native : Native) (earlier : List String) (code : String) : Prop :=
    ∃ before later, told = before ++ ⟨native, code⟩ :: later ∧ since ≤ before.length ∧
      codesOf before native = earlier
  let other : Hosts := fun native =>
    { answer := fun earlier code =>
        if recorded native earlier code then (hosts native).answer earlier code else .error ""
      logged := (hosts native).logged }
  refine ⟨other, fun {before native code} htold hsince => ⟨if_pos ?_, rfl⟩,
    fun {native earlier code value} hanswer => ?_⟩
  · obtain ⟨later, hlater⟩ := htold
    exact ⟨before, later, by rw [← hlater, List.append_assoc]; rfl, hsince, rfl⟩
  · change (if recorded native earlier code then _ else _) = _ at hanswer
    split at hanswer
    · rename_i hrecorded
      obtain ⟨before, later, htold, hsince, rfl⟩ := hrecorded
      exact ⟨before, later, htold, hsince, hanswer⟩
    · cases hanswer

namespace Task

variable {hosts : Hosts} {patience : Nat} {start after : Machine} {answers : List Answer} {tasks : List Task}

/-- A native that is bound after a session or shown by it was bound when it began, or a host
    returned it. -/
private theorem held_or_returned (hdone : performAll hosts patience tasks start = some (answers, after))
    {native : Native} (hnative : after.env.Holds native ∨ ∃ answer ∈ answers, answer.Shows native) :
    start.env.Holds native ∨ native.ReturnedBetween hosts start after := by
  obtain ⟨other, hhosts, honly⟩ := hosts.exists_answerAlike after.calls.toList start.calls.size
  have hreplay := (performAll_replay hhosts (Nat.le_refl _) hdone).2 List.prefix_rfl
  -- with hosts that answer nothing else, the natives that they returned are all they can return
  let reach : Reach :=
    { buffer := fun _ => True
      native := fun native => start.env.Holds native ∨ native.ReturnedBetween hosts start after
      calls := fun _ => True }
  have hclosed : reach.Closed other := by
    refine ⟨fun {host earlier code value} _ hanswer => ?_, fun _ _ _ => trivial⟩
    obtain ⟨before, later, htold, hsince, hanswer⟩ := honly hanswer
    cases value with
    | native returned => exact .inr ⟨before, _, later, htold, hsince, hanswer⟩
    | number | string | function | nil => trivial
  have hstart : start.InReach reach := by
    refine ⟨fun {name value} hvalue => ?_, trivial⟩
    cases value with
    | native host => exact .inl ⟨name, hvalue⟩
    | number | string | function | nil => trivial
  rcases performAll_inReach (fun _ => trivial) hclosed tasks hstart with
    ⟨_, _, hended, hafter, hanswers⟩ | ⟨_, hnone, _⟩
  swap
  · rw [hreplay] at hnone
    cases hnone
  obtain ⟨rfl, rfl⟩ := Prod.mk.inj (Option.some.inj (hreplay.symm.trans hended))
  rcases hnative with ⟨name, hname⟩ | ⟨answer, hmem, hshows⟩
  · exact hafter.env hname
  · exact hanswers answer hmem native hshows

/-- A session that begins without natives makes no host calls and binds no native, also where
    it does not end. -/
private theorem no_natives (hfree : ∀ native, ¬ start.env.Holds native) :
    (∀ answers after, performAll hosts patience tasks start = some (answers, after) →
      after.calls = start.calls ∧ ∀ native, ¬ after.env.Holds native ∧ ∀ answer ∈ answers, ¬ answer.Shows native) ∧
    (performAll hosts patience tasks start = none → ∃ after, givenUp hosts patience tasks start = some after ∧
      after.calls = start.calls ∧ ∀ native, ¬ after.env.Holds native) := by
  let reach : Reach := { buffer := fun _ => True, native := fun _ => False, calls := (· = start.calls) }
  have hclosed : reach.Closed hosts := ⟨fun hhost _ => hhost.elim, fun _ hhost _ => hhost.elim⟩
  have hstart : start.InReach reach := by
    refine ⟨fun {name value} hvalue => ?_, rfl⟩
    cases value with
    | native host => exact hfree host ⟨name, hvalue⟩
    | number | string | function | nil => trivial
  rcases performAll_inReach (fun _ => trivial) hclosed tasks hstart with
    ⟨answers, after, hdone, hafter, hanswers⟩ | ⟨after, hnone, hends, hafter⟩
  · rw [hdone]
    refine ⟨?_, nofun⟩
    rintro _ _ ⟨⟩
    exact ⟨hafter.calls, fun native => ⟨fun ⟨_, hname⟩ => hafter.env hname,
      fun answer hmem hshows => hanswers answer hmem native hshows⟩⟩
  · rw [hnone]
    exact ⟨nofun, fun _ => ⟨after, hends, hafter.calls, fun native ⟨_, hname⟩ => hafter.env hname⟩⟩

/-- Without a native to begin with, a session is the same whatever the hosts are. -/
private theorem performAll_of_no_natives (hfree : ∀ native, ¬ start.env.Holds native) (other : Hosts)
    (hdone : performAll hosts patience tasks start = some (answers, after)) :
    performAll other patience tasks start = some (answers, after) := by
  have hcalls := ((no_natives hfree).1 answers after hdone).1
  have hhosts : hosts.AnswerAlike start.calls.toList start.calls.size other := by
    intro before native code htold hsince
    have hlength := htold.length_le
    simp only [List.length_append, List.length_singleton, Array.length_toList] at hlength
    omega
  exact (performAll_replay hhosts (Nat.le_refl _) hdone).2 (hcalls ▸ List.prefix_rfl)

end Task

/-- A session holds and shows no native but those that it began with and those that
    hosts returned to calls made in it. So a session that begins without one makes no
    host call and no native appears in it, and it does not depend on the hosts at all. This
    holds of sessions that do not end, too: with whatever patience they are given up, no
    call has been made by then and no native is bound. -/
theorem natives_held_or_returned (hosts : Hosts) (patience : Nat) (tasks : List Task) (start : Machine) :
    (∀ answers after, Task.performAll hosts patience tasks start = some (answers, after) →
      start.calls.toList <+: after.calls.toList ∧
      ∀ native, (after.env.Holds native ∨ ∃ answer ∈ answers, answer.Shows native) →
        start.env.Holds native ∨ native.ReturnedBetween hosts start after) ∧
    ((∀ native, ¬ start.env.Holds native) →
      (∀ other, Task.performAll other patience tasks start = Task.performAll hosts patience tasks start) ∧
      (∀ answers after, Task.performAll hosts patience tasks start = some (answers, after) →
        after.calls = start.calls ∧
        ∀ native, ¬ after.env.Holds native ∧ ∀ answer ∈ answers, ¬ answer.Shows native) ∧
      (Task.performAll hosts patience tasks start = none →
        ∃ after, Task.givenUp hosts patience tasks start = some after ∧ after.calls = start.calls ∧
          ∀ native, ¬ after.env.Holds native)) := by
  refine ⟨fun answers after hdone => ⟨?_, fun native => Task.held_or_returned hdone⟩, fun hfree => ⟨fun other => ?_,
    Task.no_natives hfree⟩⟩
  · have hsame : hosts.AnswerAlike after.calls.toList 0 hosts := fun _ _ => ⟨rfl, rfl⟩
    exact (Task.performAll_replay hsame (Nat.zero_le _) hdone).1
  · apply Option.ext
    rintro ⟨answers, after⟩
    exact ⟨Task.performAll_of_no_natives hfree hosts, Task.performAll_of_no_natives hfree other⟩

/-- A session with a way out, which is used once, and then a task whose configuration
    names another one. -/
def keySession : List Task :=
  [.run "set key = call sh_raw('k')" {}, .interpret "set x = key" { host := some ⟨2, "sh"⟩ }]

/-- Hosts that answer code with a native of that name. -/
def keyHosts : Hosts := fun _ => { answer := fun _ code => .ok (.native ⟨1, code⟩) }

/-- Whether a name is bound to this native. -/
def Env.bindsNative (env : Env) (name : String) (native : Native) : Bool :=
  match env.get? name with
  | some (.native held) => held == native
  | _ => false

private theorem Env.holds_of_bindsNative {env : Env} {name : String} {native : Native}
    (hbinds : env.bindsNative name native = true) : env.Holds native := by
  unfold bindsNative at hbinds
  split at hbinds
  · rename_i held hheld
    exact ⟨name, by rw [hheld, eq_of_beq hbinds]⟩
  · cases hbinds

private theorem ofConfig_holds_iff (host native : Native) :
    (Machine.ofConfig { host := some host }).env.Holds native ↔ native = host := by
  have hget (name : String) : (Machine.ofConfig { host := some host }).env.get? name =
      if name = "sh_raw" then some (.native host) else none := Env.get?_set {} "sh_raw" name (.native host)
  constructor
  · rintro ⟨name, hname⟩
    rw [hget] at hname
    split at hname <;> cases hname
    rfl
  · rintro rfl
    exact ⟨"sh_raw", by rw [hget, if_pos rfl]⟩

/-- The native that the session ends with was returned by a host, and the one that a
    later configuration names is not there. A session that begins with no binding at
    all stays without natives. -/
theorem natives_held_or_returned_of_keySession :
    (∃ answers after, Task.performAll keyHosts 0 keySession (.ofConfig { host := some ⟨0, "sh"⟩ }) =
        some (answers, after) ∧ after.env.Holds ⟨1, "k"⟩ ∧ ¬ after.env.Holds ⟨2, "sh"⟩ ∧
      Native.ReturnedBetween keyHosts (.ofConfig { host := some ⟨0, "sh"⟩ }) after ⟨1, "k"⟩) ∧
    ∃ answers after, Task.performAll keyHosts 0 keySession (.ofConfig {}) = some (answers, after) ∧
      after.calls = #[] ∧ ∀ native, ¬ after.env.Holds native := by
  have hends : (Task.performAll keyHosts 0 keySession (.ofConfig { host := some ⟨0, "sh"⟩ })).any
      (·.2.env.bindsNative "x" ⟨1, "k"⟩) = true := by decide +kernel
  have hbare : (Task.performAll keyHosts 0 keySession (.ofConfig {})).isSome = true := by decide +kernel
  refine ⟨?_, ?_⟩
  · obtain ⟨⟨answers, after⟩, hdone, hvalue⟩ := (Option.any_eq_true _ _).1 hends
    have hholds : after.env.Holds ⟨1, "k"⟩ := Env.holds_of_bindsNative hvalue
    have horigin := ((natives_held_or_returned keyHosts 0 keySession _).1 answers after hdone).2
    have hreturned (native : Native) (hholds : after.env.Holds native) (hother : native ≠ ⟨0, "sh"⟩) :
        native.ReturnedBetween keyHosts (.ofConfig { host := some ⟨0, "sh"⟩ }) after :=
      (horigin native (.inl hholds)).resolve_left fun hstart => hother ((ofConfig_holds_iff _ _).1 hstart)
    refine ⟨answers, after, hdone, hholds, fun hsecond => ?_, hreturned _ hholds (by decide)⟩
    obtain ⟨before, call, later, _, _, hanswer⟩ := hreturned _ hsecond (by decide)
    injection hanswer with hanswer
    injection hanswer with hanswer
    injection hanswer with hid
    cases hid
  · obtain ⟨⟨answers, after⟩, hdone⟩ := Option.isSome_iff_exists.1 hbare
    have hfree : ∀ native, ¬ (Machine.ofConfig {}).env.Holds native := by
      rintro native ⟨name, hname⟩
      cases hname
    obtain ⟨hcalls, hnatives⟩ :=
      ((natives_held_or_returned keyHosts 0 keySession _).2 hfree).2.1 answers after hdone
    exact ⟨answers, after, hdone, hcalls, fun native => (hnatives native).1⟩

end Rewind
