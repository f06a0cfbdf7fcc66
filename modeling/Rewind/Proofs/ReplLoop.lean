import Rewind.Proofs.EventLog.Program
import Rewind.Proofs.LogIndependence
import Rewind.Repl

namespace Rewind

/-- A run is the same with any earlier events in front of the log. -/
private theorem Interpreter.run_withEarlier (interpreter : Interpreter) (hosts : Hosts) (patience : Nat)
    (earlier : Array Event) :
    ({ interpreter with machine := interpreter.machine.withEarlier earlier } : Interpreter).run hosts patience =
      (interpreter.run hosts patience).map fun (result, after) =>
        (result, { after with machine := after.machine.withEarlier earlier }) := by
  have hprogram := (@Eval.IgnoresLog.runs earlier).program (interpreter.frame hosts patience) interpreter.machine
  rw [run_eq_report, run_eq_report]
  change Interpreter.report _
    (Eval.program (interpreter.frame hosts patience) (interpreter.machine.withEarlier earlier)) = _
  generalize Eval.program (interpreter.frame hosts patience) interpreter.machine = outcome at hprogram ⊢
  generalize Eval.program (interpreter.frame hosts patience) _ = outcome' at hprogram ⊢
  cases hprogram with
  | done hresults =>
    cases hresults
    rfl
  | failed error after => rfl
  | unfinished => rfl

/-- What the run of a line depends on: the bindings, the number of the next function, and the
    host calls made so far. -/
structure Carried where
  env : Env
  made : Nat
  calls : Array HostCall

namespace Carried

def of (machine : Machine) : Carried := ⟨machine.env, machine.made, machine.calls⟩

private theorem of_env (machine : Machine) : (of machine).env = machine.env := rfl

/-- The machine with an empty log. -/
def machine (carried : Carried) : Machine :=
  { env := carried.env, made := carried.made, calls := carried.calls }

/-- Runs a line. -/
def run (carried : Carried) (limits : Limits) (hosts : Hosts) (patience : Nat) (line : String) :
    Option (Except Error Value × Machine) :=
  ((Interpreter.onMachine line carried.machine limits).run hosts patience).map fun (result, after) =>
    (result, after.machine)

end Carried

/-- A session runs a line as on an empty log, and puts its own log in front of the new one. -/
private theorem Session.run_eq (session : Session) (limits : Limits) (hosts : Hosts) (patience : Nat) (line : String) :
    session.run hosts patience line limits =
      ((Carried.of session.machine).run limits hosts patience line).map fun (result, after) =>
        (result, { session with machine := after.withEarlier session.machine.log }) := by
  have hresumes : Interpreter.onMachine line session.machine limits =
      { Interpreter.onMachine line (Carried.of session.machine).machine limits with
        machine := (Interpreter.onMachine line (Carried.of session.machine).machine limits).machine.withEarlier
          session.machine.log } := by
    simp [Interpreter.onMachine, Machine.withEarlier, Carried.of, Carried.machine]
  unfold Session.run Carried.run
  rw [hresumes, Interpreter.run_withEarlier, Option.map_map, Option.map_map]
  rfl

/-- Whether a line succeeds or fails, its log replays to the bindings after it. -/
private theorem Carried.run_replays {carried : Carried} {limits : Limits} {hosts : Hosts} {patience : Nat}
    {line : String} {result : Except Error Value} {after : Machine}
    (hrun : carried.run limits hosts patience line = some (result, after)) :
    after.env = carried.env.replay after.log.toList := by
  obtain ⟨⟨_, ended⟩, hended, heq⟩ := Option.map_eq_some_iff.1 hrun
  cases heq
  obtain ⟨_, ⟨_, ⟨later, _, hlater, _, _, _, henv⟩, _⟩, _⟩ :=
    Interpreter.exists_sameButLog _ hosts patience hended ⟨fun _ => .shellRun "", fun _ => .shellRun ""⟩
  rw [henv, hlater]
  rfl

namespace Repl

/-- A line that has been run or answered: what it was, what was printed for it, the events that were
    logged for it, and the bindings after it. -/
structure Round where
  line : String
  printed : String
  events : List Event
  env : Env

/-- The line without the white space around it. -/
def command (line : String) : String := String.ofList (Text.trim line.toList)

/-- The line ends the loop. -/
def leaves (line : String) : Bool := command line == "exit" || command line == "quit"

/-- The line is not run. -/
def idle (line : String) : Bool := (command line).isEmpty || command line == ":env"

/-- The loop over the lines, until one ends it, with a record of each line and the session at the
    end. -/
def loop (session : Session) (hosts : Hosts) (patience : Nat) : (lines : List String) → Option (List Round × Session)
  | [] => some ([], session)
  | line :: lines =>
    match react session hosts patience line with
    | none => none
    | some (.stop _) => some ([], session)
    | some (.goOn printed after) =>
      let events := after.machine.log.toList.drop session.machine.log.size
      (loop after hosts patience lines).map fun (rounds, last) =>
        (⟨line, printed, events, after.env⟩ :: rounds, last)

/-- Runs or answers one line that does not end the loop. -/
def round (limits : Limits) (hosts : Hosts) (patience : Nat) (carried : Carried) (line : String) :
    Option (Round × Carried) :=
  if (command line).isEmpty then some (⟨line, "", [], carried.env⟩, carried)
  else if command line == ":env" then some (⟨line, carried.env.listing, [], carried.env⟩, carried)
  else (carried.run limits hosts patience line).map fun (result, after) =>
    (⟨line, report result, after.log.toList, after.env⟩, .of after)

/-- Runs or answers one more line. -/
def step (limits : Limits) (hosts : Hosts) (patience : Nat) (state : List Round × Carried) (line : String) :
    Option (List Round × Carried) :=
  (round limits hosts patience state.2 line).map fun (round, carried) => (state.1 ++ [round], carried)

/-- Runs or answers lines that do not end the loop. -/
def fold (limits : Limits) (hosts : Hosts) (patience : Nat) (carried : Carried) (lines : List String) :
    Option (List Round × Carried) :=
  lines.foldlM (step limits hosts patience) ([], carried)

section Lines

variable {session : Session} {limits : Limits} {hosts : Hosts} {patience : Nat} {line : String}

private theorem fromUTF8?_toUTF8 (text : String) : String.fromUTF8? text.toUTF8 = some text := by
  unfold String.fromUTF8?
  exact dif_pos text.isValidUTF8

private theorem react_eq : react session hosts patience line =
    if leaves line then some (.stop "")
    else if (command line).isEmpty then some (.goOn "" session)
    else if command line == ":env" then some (.goOn session.env.listing session)
    else (session.run hosts patience line session.limits).map fun (result, after) => .goOn (report result) after :=
  rfl

/-- What is printed for a line that is not run. -/
def answer (env : Env) (line : String) : String := if (command line).isEmpty then "" else env.listing

private theorem react_of_leaves (hleaves : leaves line = true) :
    react session hosts patience line = some (.stop "") := by
  rw [react_eq, if_pos hleaves]

private theorem react_of_idle (hleaves : ¬leaves line = true) (hidle : idle line = true) :
    react session hosts patience line = some (.goOn (answer session.machine.env line) session) := by
  rw [react_eq, if_neg hleaves, answer]
  split
  · rfl
  · rename_i hblank
    rw [if_pos ((Bool.or_eq_true_iff.1 hidle).resolve_left hblank)]
    rfl

private theorem round_of_idle (hidle : idle line = true) (carried : Carried) :
    round limits hosts patience carried line =
      some (⟨line, answer carried.env line, [], carried.env⟩, carried) := by
  rw [round, answer]
  split
  · rfl
  · rename_i hblank
    rw [if_pos ((Bool.or_eq_true_iff.1 hidle).resolve_left hblank)]

private theorem react_of_busy (hleaves : ¬leaves line = true) (hidle : ¬idle line = true) :
    react session hosts patience line =
      ((Carried.of session.machine).run session.limits hosts patience line).map fun (result, after) =>
        .goOn (report result) { session with machine := after.withEarlier session.machine.log } := by
  rw [idle, Bool.or_eq_true, not_or] at hidle
  rw [react_eq, if_neg hleaves, if_neg hidle.1, if_neg hidle.2, Session.run_eq, Option.map_map]
  rfl

private theorem round_of_busy (hidle : ¬idle line = true) (carried : Carried) :
    round limits hosts patience carried line = (carried.run limits hosts patience line).map fun (result, after) =>
      (⟨line, report result, after.log.toList, after.env⟩, .of after) := by
  rw [idle, Bool.or_eq_true, not_or] at hidle
  rw [round, if_neg hidle.1, if_neg hidle.2]

/-- The session after a line that does not end the loop. -/
structure Follows (session : Session) (round : Round) (carried : Carried) (after : Session) : Prop where
  limits : after.limits = session.limits
  carried : Carried.of after.machine = carried
  env : after.env = round.env
  events : after.machine.log.toList = session.machine.log.toList ++ round.events
  replay : round.env = session.env.replay round.events

private theorem react_of_round_none (hleaves : ¬leaves line = true)
    (hround : round session.limits hosts patience (.of session.machine) line = none) :
    react session hosts patience line = none := by
  by_cases hidle : idle line = true
  · rw [round_of_idle hidle] at hround
    cases hround
  · rw [round_of_busy hidle] at hround
    rw [react_of_busy hleaves hidle, Option.map_eq_none_iff.1 hround]
    rfl

/-- A line does the same in a session as on the state that it depends on. -/
private theorem react_of_round {dealt : Round} {carried : Carried} (hleaves : ¬leaves line = true)
    (hround : round session.limits hosts patience (.of session.machine) line = some (dealt, carried)) :
    dealt.line = line ∧ ∃ after,
      react session hosts patience line = some (.goOn dealt.printed after) ∧ Follows session dealt carried after := by
  by_cases hidle : idle line = true
  · rw [round_of_idle hidle, Carried.of_env] at hround
    cases hround
    refine ⟨rfl, session, ?_, ⟨rfl, rfl, rfl, (List.append_nil _).symm, rfl⟩⟩
    rw [react_of_idle hleaves hidle]
  · rw [round_of_busy hidle] at hround
    obtain ⟨⟨result, after⟩, hrun, heq⟩ := Option.map_eq_some_iff.1 hround
    cases heq
    refine ⟨rfl, { session with machine := after.withEarlier session.machine.log }, ?_, ?_⟩
    · rw [react_of_busy hleaves hidle, hrun]
      rfl
    · exact ⟨rfl, rfl, rfl, Array.toList_append, Carried.run_replays hrun⟩

variable {lines : List String}

private theorem loop_of_leaves (hleaves : leaves line = true) :
    loop session hosts patience (line :: lines) = some ([], session) := by
  rw [loop, react_of_leaves hleaves]

private theorem loop_of_round_none (hleaves : ¬leaves line = true)
    (hround : round session.limits hosts patience (.of session.machine) line = none) :
    loop session hosts patience (line :: lines) = none := by
  rw [loop, react_of_round_none hleaves hround]

/-- The loop takes a line as on the state that it depends on, and goes on with the session after it. -/
private theorem loop_of_round {dealt : Round} {carried : Carried} (hleaves : ¬leaves line = true)
    (hround : round session.limits hosts patience (.of session.machine) line = some (dealt, carried)) :
    ∃ after, Follows session dealt carried after ∧
      loop session hosts patience (line :: lines) =
        (loop after hosts patience lines).map fun (rounds, last) => (dealt :: rounds, last) := by
  obtain ⟨hline, after, hreact, hafter⟩ := react_of_round hleaves hround
  refine ⟨after, hafter, ?_⟩
  rw [loop, hreact]
  dsimp only
  rw [hafter.events, hafter.env, ← hline, ← Array.length_toList, List.drop_left]

private theorem fold_append (carried : Carried) (rounds : List Round) :
    lines.foldlM (step limits hosts patience) (rounds, carried) =
      (fold limits hosts patience carried lines).map fun (later, last) => (rounds ++ later, last) := by
  unfold fold
  induction lines generalizing carried rounds with
  | nil => simp
  | cons line lines ih =>
    rw [List.foldlM_cons, List.foldlM_cons]
    cases hround : round limits hosts patience carried line with
    | none => simp [step, hround]
    | some dealt =>
      simp only [step, hround, Option.map_some, Option.bind_eq_bind, Option.bind_some]
      rw [ih, ih _ ([] ++ _), Option.map_map]
      exact Option.map_congr fun ended _ => by simp

private theorem fold_cons (carried : Carried) :
    fold limits hosts patience carried (line :: lines) =
      (round limits hosts patience carried line).bind fun (first, carried) =>
        (fold limits hosts patience carried lines).map fun (rounds, last) => (first :: rounds, last) := by
  unfold fold
  rw [List.foldlM_cons]
  cases hround : round limits hosts patience carried line with
  | none => simp [step, hround]
  | some dealt =>
    simp only [step, hround, Option.map_some, Option.bind_eq_bind, Option.bind_some]
    rw [fold_append]
    rfl

/-- The loop is the fold over the lines before the one that ends it. -/
private theorem loop_eq_fold :
    (loop session hosts patience lines).map (fun (rounds, last) => (rounds, Carried.of last.machine)) =
      fold session.limits hosts patience (.of session.machine) (lines.takeWhile (!leaves ·)) := by
  induction lines generalizing session with
  | nil => rfl
  | cons line lines ih =>
    by_cases hleaves : leaves line = true
    · rw [loop_of_leaves hleaves, List.takeWhile_cons_of_neg (by simp [hleaves])]
      rfl
    · rw [List.takeWhile_cons_of_pos (by simp [hleaves]), fold_cons]
      cases hround : round session.limits hosts patience (.of session.machine) line with
      | none =>
        rw [loop_of_round_none hleaves hround]
        rfl
      | some dealt =>
        obtain ⟨dealt, carried⟩ := dealt
        obtain ⟨after, hafter, hloop⟩ := loop_of_round hleaves hround
        rw [hloop, Option.map_map, Option.bind_some, ← hafter.limits, ← hafter.carried]
        dsimp only
        rw [← ih, Option.map_map]
        rfl

/-- The events logged so far replay to the bindings after each line. -/
private theorem loop_replays {rounds : List Round} {last : Session}
    (hloop : loop session hosts patience lines = some (rounds, last)) :
    last.env = session.env.replay (rounds.flatMap (·.events)) ∧
      ∀ earlier round rest, rounds = earlier ++ round :: rest →
        round.env = session.env.replay ((earlier ++ [round]).flatMap (·.events)) := by
  induction lines generalizing session rounds with
  | nil =>
    cases hloop
    exact ⟨rfl, by simp⟩
  | cons line lines ih =>
    by_cases hleaves : leaves line = true
    · rw [loop_of_leaves hleaves] at hloop
      cases hloop
      exact ⟨rfl, by simp⟩
    · cases hround : round session.limits hosts patience (.of session.machine) line with
      | none =>
        rw [loop_of_round_none hleaves hround] at hloop
        cases hloop
      | some dealt =>
        obtain ⟨first, carried⟩ := dealt
        obtain ⟨after, hafter, hcons⟩ := loop_of_round hleaves hround
        rw [hcons] at hloop
        obtain ⟨⟨later, _⟩, hlater, heq⟩ := Option.map_eq_some_iff.1 hloop
        cases heq
        obtain ⟨hlast, hrounds⟩ := ih hlater
        have henv : after.env = session.env.replay first.events := hafter.env.trans hafter.replay
        rw [henv] at hlast hrounds
        refine ⟨?_, fun earlier round rest heq => ?_⟩
        · rw [hlast, List.flatMap_cons, Env.replay_append]
        · cases earlier with
          | nil =>
            obtain ⟨rfl, _⟩ := List.cons.inj heq
            simpa using hafter.replay
          | cons head earlier =>
            obtain ⟨rfl, hrest⟩ := List.cons.inj heq
            rw [hrounds earlier round rest hrest, List.cons_append, List.flatMap_cons, Env.replay_append]

private theorem not_idle_of_leaves (hleaves : leaves line = true) : ¬idle line = true := by
  unfold leaves at hleaves
  unfold idle
  rcases Bool.or_eq_true_iff.1 hleaves with hcommand | hcommand <;> rw [beq_iff_eq.1 hcommand] <;> decide

/-- Lines that are not run change nothing but what is printed for them. -/
private theorem loop_filter :
    (loop session hosts patience lines).map (fun (rounds, last) => (rounds.filter (!idle ·.line), last)) =
      loop session hosts patience (lines.filter (!idle ·)) := by
  induction lines generalizing session with
  | nil => rfl
  | cons line lines ih =>
    by_cases hidle : idle line = true
    · have hreact : react session hosts patience line = _ :=
        react_of_idle (fun hleaves => not_idle_of_leaves hleaves hidle) hidle
      rw [List.filter_cons_of_neg (by simp [hidle]), ← ih, loop, hreact]
      dsimp only
      rw [Option.map_map]
      exact Option.map_congr fun ended _ => by simp [hidle]
    · rw [List.filter_cons_of_pos (by simp [hidle]), loop, loop]
      cases react session hosts patience line with
      | none => rfl
      | some reaction =>
        cases reaction with
        | stop printed => rfl
        | goOn printed after =>
          dsimp only
          rw [← ih, Option.map_map, Option.map_map]
          exact Option.map_congr fun ended _ => by simp [hidle]

/-- Nothing is read any more once a line has ended the loop. -/
private theorem loop_append_of_leaves (hleaves : leaves line = true) (before after : List String) :
    loop session hosts patience (before ++ line :: after) = loop session hosts patience before := by
  induction before generalizing session with
  | nil => exact loop_of_leaves hleaves
  | cons first before ih =>
    rw [List.cons_append, loop, loop]
    simp only [ih]

/-- Nothing is printed for the line that ends the loop. -/
private theorem eq_empty_of_stop {printed : String}
    (hreact : react session hosts patience line = some (.stop printed)) :
    printed = "" := by
  by_cases hleaves : leaves line = true
  · rw [react_of_leaves hleaves] at hreact
    cases hreact
    rfl
  · cases hround : round session.limits hosts patience (.of session.machine) line with
    | none =>
      rw [react_of_round_none hleaves hround] at hreact
      cases hreact
    | some dealt =>
      obtain ⟨_, _, hgoes, _⟩ := react_of_round hleaves hround
      rw [hgoes] at hreact
      cases hreact

/-- What is printed is what is printed for each line. -/
private theorem transcript_eq :
    transcript session hosts patience (lines.map String.toUTF8) =
      (loop session hosts patience lines).map fun (rounds, _) => String.join (rounds.map (·.printed)) := by
  induction lines generalizing session with
  | nil => rfl
  | cons line lines ih =>
    rw [List.map_cons, transcript, loop, reactBytes, fromUTF8?_toUTF8]
    dsimp only
    cases hreact : react session hosts patience line with
    | none => rfl
    | some reaction =>
      cases reaction with
      | stop printed =>
        obtain rfl := eq_empty_of_stop hreact
        rfl
      | goOn printed after =>
        simp only [Option.bind_eq_bind, Option.bind_some]
        rw [ih, Option.map_map]
        cases loop after hosts patience lines with
        | none => rfl
        | some ended =>
          simp

end Lines

/-- The loop folds runs over its lines, and starts from the bindings of the configuration. What is
    printed for a line and the bindings after it come of the line, the bindings before it, and
    what has been defined and asked of hosts so far. All that a line bound is kept, whether it
    fails or not. Lines that are not run can be put in or left out anywhere, and no line counts
    after one that ends the loop. -/
theorem loop_folds_runs_over_lines (config : Config) (hosts : Hosts) (patience : Nat) (lines : List String) :
    transcript (.ofConfig config) hosts patience (lines.map String.toUTF8) =
        (loop (.ofConfig config) hosts patience lines).map
          (fun (rounds, _) => String.join (rounds.map (·.printed))) ∧
      (loop (.ofConfig config) hosts patience lines).map (fun (rounds, last) => (rounds, Carried.of last.machine)) =
        fold config.limits hosts patience (.of (.ofConfig config)) (lines.takeWhile (!leaves ·)) ∧
      (∀ rounds last, loop (.ofConfig config) hosts patience lines = some (rounds, last) →
        last.env = (Machine.ofConfig config).env.replay (rounds.flatMap (·.events)) ∧
          ∀ earlier round rest, rounds = earlier ++ round :: rest →
            round.env = (Machine.ofConfig config).env.replay ((earlier ++ [round]).flatMap (·.events))) ∧
      (loop (.ofConfig config) hosts patience lines).map
          (fun (rounds, last) => (rounds.filter (!idle ·.line), last)) =
        loop (.ofConfig config) hosts patience (lines.filter (!idle ·)) ∧
      ∀ before line after, leaves line = true →
        loop (.ofConfig config) hosts patience (before ++ line :: after) =
          loop (.ofConfig config) hosts patience before :=
  ⟨transcript_eq, loop_eq_fold, fun _ _ => loop_replays, loop_filter,
    fun before _ after hleaves => loop_append_of_leaves hleaves before after⟩

/-- The first line fails at its end, and there are lines after the one that ends the loop. -/
def stumbling : List String := ["set x = 'a' set y = (", " ", ":env", "x", " quit ", "set x = 'b'"]

theorem loop_folds_runs_over_lines_of_stumbling :
    ∃ rounds last, loop (.ofConfig {}) (fun _ => .echo) 1 stumbling = some (rounds, last) ∧
      rounds.map (·.printed) = ["Error: expected `)`, got EOF\n", "", "x = \"a\"\n", "\"a\"\n"] ∧
      last.env = (Machine.ofConfig {}).env.replay (rounds.flatMap (·.events)) := by
  have hends : (loop (.ofConfig {}) (fun _ => .echo) 1 stumbling).any (fun ended =>
      ended.1.map (·.printed) == ["Error: expected `)`, got EOF\n", "", "x = \"a\"\n", "\"a\"\n"]) = true := by
    decide +kernel
  obtain ⟨⟨rounds, last⟩, hloop, hprinted⟩ := (Option.any_eq_true _ _).1 hends
  obtain ⟨_, _, hreplays, _⟩ := loop_folds_runs_over_lines {} (fun _ => .echo) 1 stumbling
  exact ⟨rounds, last, hloop, beq_iff_eq.1 hprinted, (hreplays rounds last hloop).1⟩

end Repl

end Rewind
