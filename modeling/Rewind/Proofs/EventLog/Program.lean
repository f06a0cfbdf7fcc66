import Rewind.Proofs.EventLog
import Rewind.Proofs.Balance.Skipping
import Rewind.Proofs.Comparison.Forms
import Rewind.Proofs.Limits.Peaks

namespace Rewind

/-- Two outcomes that are the same but for the events that stand for loops. -/
inductive Outcome.SameButLog (loops : LoopEvents) (origin : Machine) {α β : Type} (V : α → β → Prop) :
    Outcome α → Outcome β → Prop where
  | done {a : α} {b : β} {after recorded : Machine} (hresults : V a b)
    (hsame : after.SameButLog loops origin recorded) :
    SameButLog loops origin V (.done a after) (.done b recorded)
  | failed (error : Error) {after recorded : Machine} (hsame : after.SameButLog loops origin recorded) :
    SameButLog loops origin V (.failed error after) (.failed error recorded)
  | unfinished : SameButLog loops origin V .unfinished .unfinished

namespace Eval

/-- Two computations that do the same, of which the second one records the given events for
    loops. -/
def Records (loops : LoopEvents) (origin : Machine) {α β : Type} (V : α → β → Prop) (x : Eval α) (y : Eval β) : Prop :=
  ∀ ⦃frame : Frame⦄ ⦃start recorded : Machine⦄, start.SameButLog loops origin recorded →
    (x frame start).SameButLog loops origin V (y frame recorded)

namespace Records

variable {loops : LoopEvents} {origin : Machine} {α β γ δ : Type} {V : α → β → Prop} {W : γ → δ → Prop}

private theorem pure {a : α} {b : β} (hab : V a b) : Records loops origin V (Pure.pure a) (Pure.pure b) :=
  fun _ _ _ hsame => .done hab hsame

private theorem bind {x : Eval α} {y : Eval β} {f : α → Eval γ} {g : β → Eval δ} (hx : Records loops origin V x y)
    (hf : ∀ a b, V a b → Records loops origin W (f a) (g b)) : Records loops origin W (x >>= f) (y >>= g) := by
  intro frame start recorded hsame
  have hfirst := @hx frame _ _ hsame
  rw [bind_apply, bind_apply]
  generalize x frame start = left at hfirst
  generalize y frame recorded = right at hfirst
  cases hfirst with
  | done hresults hmid => exact hf _ _ hresults hmid
  | failed error hmid => exact .failed error hmid
  | unfinished => exact .unfinished

private theorem fail (error : Error) : Records loops origin V (fail error : Eval α) (fail error : Eval β) :=
  fun _ _ _ hsame => .failed error hsame

private theorem update {change change' : Machine → Machine}
    (hchange : ∀ {machine recorded : Machine}, machine.SameButLog loops origin recorded →
      (change machine).SameButLog loops origin (change' recorded)) :
    Records loops origin anyResult (update change) (update change') :=
  fun _ _ _ hsame => .done trivial (hchange hsame)

private theorem advance : Records loops origin anyResult advance advance := by
  rintro frame start _ ⟨log, hlogs, rfl⟩
  exact .done trivial ⟨log, hlogs.of_same rfl rfl, rfl⟩

private theorem skipList : Records loops origin anyResult skipList skipList := by
  rintro frame start _ ⟨log, hlogs, rfl⟩
  rw [skipList_apply, skipList_apply]
  dsimp only
  split
  · cases closeFrom frame.tokens (start.pos + 1) 0 with
    | some pos => exact .done trivial ⟨log, hlogs.of_same rfl rfl, rfl⟩
    | none => exact .failed _ ⟨log, hlogs.of_same rfl rfl, rfl⟩
  · exact .failed _ ⟨log, hlogs, rfl⟩

private theorem walks : Walks Likeness.same (Records loops origin) where
  pure := pure
  bind := bind
  cursor := by
    rintro frame start _ ⟨log, hlogs, rfl⟩
    exact .done rfl ⟨log, hlogs, rfl⟩
  current := by
    rintro left _ rfl
    exact Likeness.same_current left
  advance := advance
  unexpected _ := by
    rintro frame start _ ⟨log, hlogs, rfl⟩
    exact .failed _ ⟨log, hlogs, rfl⟩
  skipList := skipList
  rounds := fun _ _ _ hsame => .done rfl hsame

private theorem lookup {name : String} {span : Span} :
    Records loops origin Eq (lookup name span) (lookup name span) := by
  rintro frame start _ ⟨log, hlogs, rfl⟩
  unfold Eval.lookup
  dsimp only
  cases start.env.get? name with
  | some value => exact .done rfl ⟨log, hlogs, rfl⟩
  | none => exact .failed _ ⟨log, hlogs, rfl⟩

private theorem consult {name : String} {host : Native} (arguments : Array Value) (span : Span) :
    Records loops origin Eq (consult name host arguments span) (consult name host arguments span) := by
  by_cases hstring : ∃ code rest, arguments.toList = .string code :: rest
  · obtain ⟨code, rest, hstring⟩ := hstring
    intro frame start recorded hsame
    have hearlier : recorded.earlier host = start.earlier host := by
      obtain ⟨log, _, rfl⟩ := hsame
      rfl
    rw [consult_of_string hstring, consult_of_string hstring, hearlier]
    cases (frame.hosts host).answer (start.earlier host) code with
    | ok value => exact .done rfl (hsame.consulted frame host code)
    | error text => exact .failed _ (hsame.consulted frame host code)
  · rw [consult_of_not_string fun code rest heq => hstring ⟨code, rest, heq⟩]
    exact fail _

private theorem rewound {left : Outcome α} {right : Outcome β} (houtcomes : left.SameButLog loops origin V right)
    (pos : Nat) :
    (left.rewound pos).SameButLog loops origin V (right.rewound pos) := by
  cases houtcomes with
  | done hresults hsame => exact .done hresults (hsame.moved pos)
  | failed error hsame => exact .failed error (hsame.moved pos)
  | unfinished => exact .unfinished

private theorem inBuffer {body : Eval α} {body' : Eval β} (target : Cursor)
    (hbody : Records loops origin V body body') :
    Records loops origin V (inBuffer target body) (inBuffer target body') := by
  intro frame start recorded hsame
  have hpos : recorded.pos = start.pos := by
    obtain ⟨log, _, rfl⟩ := hsame
    rfl
  rw [inBuffer_apply, inBuffer_apply, hpos]
  exact rewound (hbody (hsame.entering target frame.depth)) start.pos

private theorem invoke {inner inner' : Eval Value}
    (hlist : Records loops origin Likeness.same.arrays (list inner) (list inner')) (f : Function)
    (arguments : Array Value) (span : Span) :
    Records loops origin Eq (invoke inner f arguments span) (invoke inner' f arguments span) := by
  refine bind (V := Eq) (fun _ _ _ hsame => .done rfl hsame) ?_
  rintro outer _ rfl
  split
  · exact fail _
  · refine bind (update fun hsame => hsame.called f arguments.size arguments.toList) fun _ _ _ => ?_
    exact bind (inBuffer f.body hlist) fun _ _ harrays => pure (harrays.back rfl)

private theorem straight {inner inner' : Eval Value} {skip : Eval Unit}
    (hinner : Records loops origin Eq inner inner') :
    Straight Likeness.same (Records loops origin) (.of inner skip) (.of inner' skip) where
  toGuards := walks.guards
  nested := hinner
  list := walks.list hinner
  number _ := rfl
  string _ := rfl
  nil := rfl
  truthy hvalues := congrArg Value.truthy hvalues
  callees hvalues := by
    cases hvalues
    exact Likeness.same_callees _
  lookup hspans := by
    cases hspans
    exact lookup
  emptyList hspans := by
    cases hspans
    exact fail _
  notCallable name {_ _ _ _} hvalues hspans := by
    cases hvalues
    cases hspans
    exact fail _
  invoke hfunctions harrays hspans := by
    cases hfunctions
    cases hspans
    obtain rfl := Likeness.same_arrays harrays
    exact invoke (walks.list hinner) _ _ _
  consult _ harrays hspans := by
    cases hspans
    obtain rfl := Likeness.same_arrays harrays
    exact consult _ _

section Loops

variable {inner inner' : Eval Value} {skip : Eval Unit}

/-- The rounds that are counted are the bodies that are kept. -/
private theorem forRounds (hinner : Records loops origin Eq inner inner')
    (hskip : Records loops origin anyResult skip skip) (start patience : Nat) (bodies : List (Array Value)) :
    Records loops origin Eq ((Parts.of inner skip).forRounds start patience bodies.length (LoopEvents.last bodies))
      (loops.forRounds (.of inner' skip) start patience bodies) := by
  induction patience generalizing bodies with
  | zero => exact fun _ _ _ _ => .unfinished
  | succ patience ih =>
    refine bind hinner ?_
    rintro condition _ rfl
    refine bind (walks.expectPunct ";") fun _ _ _ => ?_
    split
    · refine bind hinner fun _ _ _ => bind (walks.list hinner) fun values values' harrays => ?_
      obtain rfl := Likeness.same_arrays harrays
      refine bind (update fun hsame => hsame.moved start) fun _ _ _ => ?_
      have hnext := ih (bodies ++ [values])
      rw [List.length_append, LoopEvents.last_append] at hnext
      exact hnext
    · refine bind hskip fun _ _ _ => bind skipList fun _ _ _ => bind (update fun hsame => ?_) fun _ _ _ => pure rfl
      exact hsame.record trivial (.forFinished bodies)

private theorem whileRounds (hinner : Records loops origin Eq inner inner') (start patience : Nat)
    (bodies : List (Array Value)) :
    Records loops origin Eq ((Parts.of inner skip).whileRounds start patience bodies.length (LoopEvents.last bodies))
      (loops.whileRounds (.of inner' skip) start patience bodies) := by
  induction patience generalizing bodies with
  | zero => exact fun _ _ _ _ => .unfinished
  | succ patience ih =>
    refine bind hinner ?_
    rintro condition _ rfl
    split
    · refine bind (walks.list hinner) fun values values' harrays => ?_
      obtain rfl := Likeness.same_arrays harrays
      refine bind (update fun hsame => hsame.moved start) fun _ _ _ => ?_
      have hnext := ih (bodies ++ [values])
      rw [List.length_append, LoopEvents.last_append] at hnext
      exact hnext
    · refine bind skipList fun _ _ _ => bind (update fun hsame => ?_) fun _ _ _ => pure rfl
      exact hsame.record trivial (.whileFinished bodies)

private theorem position : Records loops origin (fun left right => left.pos = right.pos) machine machine := by
  rintro frame start _ ⟨log, hlogs, rfl⟩
  exact .done rfl ⟨log, hlogs, rfl⟩

private theorem frame : Records loops origin (fun left right => left = right) frame frame :=
  fun _ _ _ hsame => .done rfl hsame

private theorem forLoop (hinner : Records loops origin Eq inner inner')
    (hskip : Records loops origin anyResult skip skip) :
    Records loops origin Eq (Parts.of inner skip).forLoop (loops.forLoop (.of inner' skip)) := by
  refine bind advance fun _ _ _ => bind hinner fun _ _ _ => bind (walks.expectPunct ";") fun _ _ _ =>
    bind position fun left right hpos => bind frame ?_
  rintro outer _ rfl
  rw [hpos]
  exact forRounds hinner hskip right.pos outer.patience []

private theorem whileLoop (hinner : Records loops origin Eq inner inner') :
    Records loops origin Eq (Parts.of inner skip).whileLoop (loops.whileLoop (.of inner' skip)) := by
  refine bind advance fun _ _ _ => bind position fun left right hpos => bind frame ?_
  rintro outer _ rfl
  rw [hpos]
  exact whileRounds hinner right.pos outer.patience []

end Loops

private theorem takeBody (name : String) (params : List String) :
    Records loops origin anyResult (takeBody name params) (takeBody name params) := by
  refine bind walks.cursor ?_
  rintro body _ ⟨⟩
  have hdefined : Records loops origin anyResult (Eval.update (·.define name params body))
      (Eval.update (·.define name params body)) := update fun hsame => hsame.define name params body
  split
  · exact bind skipList fun _ _ _ => hdefined
  · exact hdefined

private theorem form_of_forLoop {parts : Parts Eval} {located : Located}
    (hkeyword : located.token.keyword? = some .forLoop) : parts.form located = parts.forLoop := by
  simp [Parts.form, Level.keyword_kind hkeyword, hkeyword]

private theorem form_of_whileLoop {parts : Parts Eval} {located : Located}
    (hkeyword : located.token.keyword? = some .whileLoop) : parts.form located = parts.whileLoop := by
  simp [Parts.form, Level.keyword_kind hkeyword, hkeyword]

private theorem noteNesting (budget : Nat) :
    Records loops origin anyResult (noteNesting budget) (noteNesting budget) := by
  rintro frame start _ ⟨log, hlogs, rfl⟩
  exact .done trivial ⟨log, hlogs.of_same rfl rfl, rfl⟩

private theorem tooNested (located : Located) :
    Records loops origin V (tooNested located : Eval α) (tooNested located : Eval β) :=
  fun _ _ _ hsame => .failed _ hsame

private theorem form {inner inner' : Eval Value} {skip : Eval Unit} (hinner : Records loops origin Eq inner inner')
    (hskip : Records loops origin anyResult skip skip) (located : Located) :
    Records loops origin Eq (Eval.form inner skip located) (loops.form (.of inner' skip) located) := by
  have hstraight : Straight Likeness.same (Records loops origin) (.of inner skip) (.of inner' skip) := straight hinner
  rw [← Parts.form_of]
  unfold LoopEvents.form
  split
  · rename_i hkeyword
    rw [form_of_forLoop hkeyword]
    exact forLoop hinner hskip
  · rename_i hkeyword
    rw [form_of_whileLoop hkeyword]
    exact whileLoop hinner
  · rename_i hfor hwhile
    refine hstraight.form (walks.entry _) ⟨rfl, rfl⟩ (fun hkeyword => absurd hkeyword hfor)
      (fun hkeyword => absurd hkeyword hwhile) (fun _ => ?_) (fun _ => ?_)
    · exact hstraight.define walks.leads (walks.between walks.params) takeBody
    · refine hstraight.assign walks.leads fun name v w hvalues => ?_
      cases hvalues
      exact update fun hsame => hsame.bind name v

private theorem skipOperand (budget : Nat) :
    Records loops origin anyResult (skipOperand budget) (skipOperand budget) := by
  induction budget with
  | zero => exact bind walks.firstToken fun _ _ halike => Likeness.same_located halike ▸ tooNested _
  | succ budget ih =>
    refine bind walks.firstToken fun _ _ halike => bind (noteNesting budget) fun _ _ _ => ?_
    exact walks.skipForm (walks.expression ih fun _ _ _ => pure trivial) halike

private theorem skipExpression (budget : Nat) :
    Records loops origin anyResult (skipExpression budget) (skipExpression budget) :=
  walks.expression (skipOperand budget) fun _ _ _ => pure trivial

private theorem combine {op op' : Located} {l l' r r' : Value} (halike : Located.Alike Likeness.same.spans op op')
    (hleft : l = l') (hright : r = r') :
    Records loops origin Eq (ofExcept (combine op l r)) (ofExcept (combine op' l' r')) := by
  obtain rfl := Likeness.same_located halike
  subst hleft hright
  cases Eval.combine op l r with
  | ok value => exact pure rfl
  | error error => exact fail error

private theorem operand (budget : Nat) : Records loops origin Eq (operand budget) (loops.operand budget) := by
  induction budget with
  | zero => exact bind walks.firstToken fun _ _ halike => Likeness.same_located halike ▸ tooNested _
  | succ budget ih =>
    refine bind walks.firstToken fun _ _ halike => bind (noteNesting budget) fun _ _ _ => ?_
    obtain rfl := Likeness.same_located halike
    exact form (walks.expression ih combine) (skipExpression budget) _

private theorem programFrom {inner inner' : Eval Value} (hinner : Records loops origin Eq inner inner') (rounds : Nat)
    (last : Value) : Records loops origin Eq (programFrom inner rounds last) (programFrom inner' rounds last) := by
  induction rounds generalizing last with
  | zero => exact pure rfl
  | succ rounds ih =>
    refine walks.branch (·.atEnd) (fun hcursors => congrArg _ hcursors) (pure rfl) (bind hinner ?_)
    rintro value _ rfl
    exact ih value

private theorem program : Records loops origin Eq program loops.program := by
  refine bind frame ?_
  rintro outer _ rfl
  refine bind walks.rounds ?_
  rintro rounds _ rfl
  exact programFrom (walks.expression (operand outer.limits.nesting) combine) rounds .nil

end Records

end Eval

namespace Interpreter

/-- The run, with the given events for loops. -/
def runWith (interpreter : Interpreter) (loops : LoopEvents) (hosts : Hosts) (patience : Nat) :
    Option (Except Error Value × Interpreter) :=
  interpreter.report (loops.program (interpreter.frame hosts patience) interpreter.machine)

theorem exists_sameButLog (interpreter : Interpreter) (hosts : Hosts) (patience : Nat) {result : Except Error Value}
    {after : Interpreter} (hrun : interpreter.run hosts patience = some (result, after)) (loops : LoopEvents) :
    ∃ recorded, after.machine.SameButLog loops interpreter.machine recorded ∧
      interpreter.runWith loops hosts patience = some (result, { after with machine := recorded }) := by
  have hprogram := @Eval.Records.program loops interpreter.machine (interpreter.frame hosts patience) _ _ (.refl _ _)
  rw [run_eq_report] at hrun
  rw [runWith]
  generalize Eval.program (interpreter.frame hosts patience) interpreter.machine = left at hprogram hrun
  generalize loops.program (interpreter.frame hosts patience) interpreter.machine = right at hprogram
  cases hprogram with
  | done hresults hsame =>
    cases hresults
    cases hrun
    exact ⟨_, hsame, rfl⟩
  | failed error hsame =>
    cases hrun
    exact ⟨_, hsame, rfl⟩
  | unfinished => cases hrun

/-- The log of a run replays to its bindings, whether it succeeds or fails. A name that is not bound
    in it keeps its binding, and any other one has the last value that it is bound to. A call is
    followed by the bindings of its parameters and a definition by that of its function. The number of
    rounds that is recorded of a loop is that of the evaluations of its body: with any other events for
    loops, the run is the same but for these, which stand for as many bodies as there are rounds. -/
theorem log_replays_to_environment (interpreter : Interpreter) (hosts : Hosts) (patience : Nat)
    {result : Except Error Value} {after : Interpreter}
    (hrun : interpreter.run hosts patience = some (result, after)) :
    ∃ later, after.machine.log.toList = interpreter.machine.log.toList ++ later ∧
      after.machine.env = interpreter.machine.env.replay later ∧
      (∀ name, (∀ value, .bound name value ∉ later) →
        after.machine.env.get? name = interpreter.machine.env.get? name) ∧
      (∀ name, (∃ value, .bound name value ∈ later) → ∃ earlier value rest,
        later = earlier ++ .bound name value :: rest ∧ (∀ other, .bound name other ∉ rest) ∧
          after.machine.env.get? name = some value) ∧
      (∀ earlier f n rest, later = earlier ++ .called f n :: rest → ∃ values others,
        values.length = f.params.length ∧ rest = List.zipWith .bound f.params values ++ others) ∧
      (∀ earlier f rest, later = earlier ++ .defined f :: rest → ∃ others,
        rest = .bound f.name (.function f) :: others) ∧
      ∀ loops : LoopEvents, ∃ log later', interpreter.runWith loops hosts patience =
          some (result, { after with machine := { after.machine with log } }) ∧
        log.toList = interpreter.machine.log.toList ++ later' ∧ List.Forall₂ (Event.RecordedBy loops) later later' := by
  have hsame := interpreter.exists_sameButLog hosts patience hrun
  obtain ⟨_, ⟨_, ⟨later, _, hlater, _, _, hgroups, henv⟩, _⟩, _⟩ :=
    hsame ⟨fun _ => .shellRun "", fun _ => .shellRun ""⟩
  refine ⟨later, hlater, henv, fun name hbound => ?_, fun name hbound => ?_, fun earlier f n rest => hgroups.called,
    fun earlier f rest => hgroups.defined, fun loops => ?_⟩
  · rw [henv, Env.get?_replay_of_not_bound hbound]
  · obtain ⟨earlier, value, rest, rfl, hlast⟩ := Event.exists_last_bound hbound
    exact ⟨earlier, value, rest, rfl, hlast, by rw [henv, Env.get?_replay_of_last hlast]⟩
  · obtain ⟨_, ⟨log, ⟨later₁, later', hlater₁, hlater', hrecorded, _, _⟩, rfl⟩, hrun'⟩ := hsame loops
    obtain rfl : later = later₁ := List.append_cancel_left (hlater.symm.trans hlater₁)
    exact ⟨log, later', hrun', hlater', hrecorded⟩

/-- Calls a function with one argument too few, in a loop of one round, and then fails. -/
def chatty : Interpreter :=
  onMachine "fn f(a, b) (set c = a) set x = 'go' while x (call f(x) set x = '') nowhere" (.ofConfig {}) {}

def chattyLines : List String :=
  ["DEBUG defined function name=f parameters=[\"a\", \"b\"]", "TRACE bind name=f value=fn f(a, b)",
    "TRACE bind name=x value=\"go\"", "DEBUG call name=f arguments=1", "TRACE bind name=a value=\"go\"",
    "TRACE bind name=b value=nil", "TRACE bind name=c value=\"go\"", "TRACE bind name=x value=\"\"",
    "DEBUG while loop finished iterations=1"]

/-- The log replays to the bindings at the failure. -/
theorem log_replays_to_environment_of_chatty :
    ∃ error after later, chatty.run (fun _ => .echo) 2 = some (.error error, after) ∧
      after.machine.env = chatty.machine.env.replay later ∧ later.map Event.line = chattyLines := by
  have hends : (chatty.run (fun _ => .echo) 2).any (fun ended =>
      !ended.1.isOk && ended.2.machine.log.toList.map Event.line == chattyLines) = true := by decide +kernel
  obtain ⟨⟨result, after⟩, hrun, hends⟩ := (Option.any_eq_true _ _).1 hends
  obtain ⟨hfailed, hlines⟩ := Bool.and_eq_true_iff.1 hends
  obtain ⟨later, hlater, henv, _⟩ := log_replays_to_environment chatty (fun _ => .echo) 2 hrun
  have hrecorded : after.machine.log.toList.map Event.line = chattyLines := beq_iff_eq.1 hlines
  rw [hlater] at hrecorded
  cases result with
  | ok value => cases hfailed
  | error error => exact ⟨error, after, later, hrun, henv, hrecorded⟩

end Interpreter

end Rewind
