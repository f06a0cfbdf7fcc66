import Rewind.Proofs.RunInvariant
import Rewind.Proofs.Provenance
import Rewind.Proofs.Watch

namespace Rewind

/-- Nothing has been bound, defined or logged between two machines. -/
structure Machine.Untouched (start after : Machine) : Prop where
  env : after.env = start.env
  made : after.made = start.made
  log : after.log = start.log

namespace Eval

/-- A computation that binds, defines and logs nothing. Nothing is said of the other side,
    which stands there for the results only. -/
def Quiet {α β : Type} (V : α → β → Prop) (x : Eval α) (_ : Eval β) : Prop :=
  ∀ frame start, (x frame start).Meets (fun a after => start.Untouched after ∧ ∃ b, V a b) fun _ after =>
    start.Untouched after

namespace Quiet

variable {α β γ δ : Type} {V : α → β → Prop} {W : γ → δ → Prop}

private theorem bind {x : Eval α} {y : Eval β} {f : α → Eval γ} {g : β → Eval δ} (hx : Quiet V x y)
    (hf : ∀ a b, V a b → Quiet W (f a) (g b)) : Quiet W (x >>= f) (y >>= g) := by
  have htrans {start mid after : Machine} (hmid : start.Untouched mid) (hafter : mid.Untouched after) :
      start.Untouched after :=
    ⟨hafter.env.trans hmid.env, hafter.made.trans hmid.made, hafter.log.trans hmid.log⟩
  intro frame start
  refine bind_meets ((hx frame start).mono (fun _ _ hdone => hdone) fun _ _ hfailed => hfailed) ?_
  rintro a mid ⟨hmid, b, hab⟩
  refine (hf a b hab frame mid).mono (fun c after hdone => ?_) fun _ after hfailed => htrans hmid hfailed
  exact ⟨htrans hmid hdone.1, hdone.2⟩

private theorem skipList : Quiet anyResult skipList skipList := by
  intro frame start
  refine (skipList_meets frame start).mono ?_ ?_
  · rintro _ _ ⟨stop, _, rfl⟩
    exact ⟨⟨rfl, rfl, rfl⟩, (), trivial⟩
  · rintro _ _ ⟨pos, rfl⟩
    exact ⟨rfl, rfl, rfl⟩

private theorem walks : Walks equal Quiet where
  pure hab := fun _ _ => ⟨⟨rfl, rfl, rfl⟩, _, hab⟩
  bind := bind
  cursor := fun _ _ => ⟨⟨rfl, rfl, rfl⟩, _, rfl⟩
  current := by
    rintro left _ rfl
    exact Likeness.same_current left
  advance := fun _ _ => ⟨⟨rfl, rfl, rfl⟩, (), trivial⟩
  unexpected _ := fun _ _ => ⟨rfl, rfl, rfl⟩
  skipList := skipList
  rounds := fun _ _ => ⟨⟨rfl, rfl, rfl⟩, _, rfl⟩

private theorem noteNesting (budget : Nat) : Quiet anyResult (noteNesting budget) (noteNesting budget) :=
  fun _ _ => ⟨⟨rfl, rfl, rfl⟩, (), trivial⟩

private theorem rewind (pos : Nat) : Quiet anyResult (rewind pos) (rewind pos) :=
  fun _ _ => ⟨⟨rfl, rfl, rfl⟩, (), trivial⟩

private theorem frame : Quiet (fun left right => left = right) frame frame := fun _ _ => ⟨⟨rfl, rfl, rfl⟩, _, rfl⟩

private theorem machine : Quiet (fun left right => left = right) machine machine := fun _ _ => ⟨⟨rfl, rfl, rfl⟩, _, rfl⟩

private theorem tooNested (located : Located) : Quiet V (tooNested located : Eval α) (tooNested located : Eval β) :=
  fun _ _ => ⟨rfl, rfl, rfl⟩

private theorem skipOperand (budget : Nat) : Quiet anyResult (skipOperand budget) (skipOperand budget) := by
  induction budget with
  | zero => exact bind walks.firstToken fun _ _ halike => Likeness.same_located halike ▸ tooNested _
  | succ budget ih =>
    refine bind walks.firstToken fun _ _ halike => bind (noteNesting budget) fun _ _ _ => ?_
    exact walks.skipForm (walks.expression ih fun _ _ _ => walks.pure trivial) halike

private theorem skipExpression (budget : Nat) : Quiet anyResult (skipExpression budget) (skipExpression budget) :=
  walks.expression (skipOperand budget) fun _ _ _ => walks.pure trivial

end Quiet

/-- The computation keeps machines sound, as long as every function that hosts return has an
    origin in `since` and `since` is a prefix of the log. Its result satisfies `V` with the
    log by then. -/
def Upholds (since : List Event) {α : Type} (V : List Event → α → Prop) (x : Eval α) : Prop :=
  ∀ frame start, frame.hosts.KnownTo since → since <+: start.log.toList → start.Sound →
    (x frame start).Meets (fun a after => after.Extends start ∧ V after.log.toList a) fun _ after => after.Extends start

/-- The same of a computation that begins at the token `located`. -/
def UpholdsAt (since : List Event) (located : Located) {α : Type} (V : List Event → α → Prop) (x : Eval α) : Prop :=
  ∀ frame start, frame.hosts.KnownTo since → since <+: start.log.toList → start.Sound →
    frame.tokens[start.pos]? = some located →
      (x frame start).Meets (fun a after => after.Extends start ∧ V after.log.toList a) fun _ after =>
        after.Extends start

/-- A result of which nothing is said. -/
def anything {α : Type} (_ : List Event) (_ : α) : Prop := True

/-- A value with an origin, if it is a function. -/
def known (log : List Event) (value : Value) : Prop := value.KnownTo log

def allKnown (log : List Event) (values : Array Value) : Prop := ∀ value ∈ values.toList, value.KnownTo log

namespace Upholds

variable {since : List Event} {α β : Type} {V : List Event → α → Prop} {W : List Event → β → Prop}

private theorem of_quiet {γ : Type} {R : α → γ → Prop} {x : Eval α} {y : Eval γ} (hx : Quiet R x y) :
    Upholds since anything x := by
  intro frame start _ _ hstart
  have hextends {after : Machine} (hafter : start.Untouched after) : after.Extends start :=
    ⟨hstart.of_same hafter.env hafter.made hafter.log, hafter.log ▸ List.prefix_rfl⟩
  refine (hx frame start).mono (fun a after hdone => ?_) fun _ after hfailed => hextends hfailed
  exact ⟨hextends hdone.1, trivial⟩

private theorem pure {a : α} (ha : ∀ log, since <+: log → V log a) : Upholds since V (Pure.pure a) :=
  fun _ _ _ hsince hstart => ⟨.refl hstart, ha _ hsince⟩

private theorem fail (error : Error) : Upholds since V (fail error) := fun _ _ _ _ hstart => .refl hstart

private theorem unexpected (wanted : Wanted) : Upholds since V (unexpected wanted) := fun _ _ _ _ hstart => .refl hstart

private theorem bind {x : Eval α} {f : α → Eval β} (hx : Upholds since V x)
    (hf : ∀ log a, since <+: log → V log a → Upholds log W (f a)) : Upholds since W (x >>= f) := by
  intro frame start hhosts hsince hstart
  refine bind_meets (hx frame start hhosts hsince hstart) ?_
  rintro a mid ⟨hmid, ha⟩
  have hlater := hsince.trans hmid.log
  have hrest := hf _ a hlater ha frame mid (hhosts.mono hlater) List.prefix_rfl hmid.toSound
  refine hrest.mono (fun b after hdone => ?_) fun _ after hfailed => hmid.trans hfailed
  exact ⟨hmid.trans hdone.1, hdone.2⟩

/-- A first step whose result is not constrained. -/
private theorem before {x : Eval α} {f : α → Eval β} (hx : Upholds since anything x) (hf : ∀ a, Upholds since W (f a)) :
    Upholds since W (x >>= f) := by
  intro frame start hhosts hsince hstart
  refine bind_meets (hx frame start hhosts hsince hstart) ?_
  rintro a mid ⟨hmid, _⟩
  have hrest := hf a frame mid hhosts (hsince.trans hmid.log) hmid.toSound
  refine hrest.mono (fun b after hdone => ?_) fun _ after hfailed => hmid.trans hfailed
  exact ⟨hmid.trans hdone.1, hdone.2⟩

private theorem past {γ : Type} {R : α → γ → Prop} {x : Eval α} {y : Eval γ} (hx : Quiet R x y) {f : α → Eval β}
    (hf : ∀ a, Upholds since W (f a)) : Upholds since W (x >>= f) :=
  (of_quiet hx).before hf

private theorem anywhere {located : Located} {x : Eval α} (hx : Upholds since V x) : UpholdsAt since located V x :=
  fun frame start hhosts hsince hstart _ => hx frame start hhosts hsince hstart

/-- A computation that reads the current token first. -/
private theorem first {f : Located → Eval α} (hf : ∀ located, UpholdsAt since located V (f located)) :
    Upholds since V (firstToken >>= f) := by
  intro frame start hhosts hsince hstart
  rw [bind_apply, firstToken_apply]
  cases hcurrent : frame.tokens[start.pos]? with
  | none => exact .refl hstart
  | some located => exact hf located frame start hhosts hsince hstart hcurrent

private theorem noted (budget : Nat) {located : Located} {x : Eval α} (hx : UpholdsAt since located V x) :
    UpholdsAt since located V (noteNesting budget >>= fun _ => x) := by
  intro frame start hhosts hsince hstart hcurrent
  let noted : Machine := { start with deepestNesting := max start.deepestNesting (frame.limits.nesting - budget) }
  have hnoted : noted.Sound := hstart.of_same rfl rfl rfl
  rw [bind_of_done (show noteNesting budget frame start = .done () noted from rfl)]
  -- the depth that is noted is no part of what soundness is about
  refine (hx frame noted hhosts hsince hnoted hcurrent).mono ?_ ?_
  · exact fun _ _ hdone => ⟨⟨hdone.1.toSound, hdone.1.log⟩, hdone.2⟩
  · exact fun _ _ hfailed => ⟨hfailed.toSound, hfailed.log⟩

private theorem ignored {x : Eval α} (hx : Upholds since V x) : Upholds since anything x :=
  fun frame start hhosts hsince hstart =>
    (hx frame start hhosts hsince hstart).mono (fun _ _ hdone => ⟨hdone.1, trivial⟩) fun _ _ => id

private theorem update {change : Machine → Machine}
    (hchange : ∀ {machine : Machine}, since <+: machine.log.toList → machine.Sound →
      (change machine).Extends machine) : Upholds since anything (update change) :=
  fun _ _ _ hsince hstart => ⟨hchange hsince hstart, trivial⟩

/-- An event is logged that has no function in it. -/
private theorem logs {event : Event} (hplain : event.function? = none) :
    Upholds since anything (Eval.update (·.record event)) := by
  refine update fun _ hmachine => hmachine.record ?_ ?_
  · rintro f rfl
    cases hplain
  · rintro f hfunction
    rw [hplain] at hfunction
    cases hfunction

private theorem result {value : Value} (hvalue : value.KnownTo since) : Upholds since known (Pure.pure value) :=
  pure fun _ hlog => hvalue.mono hlog

private theorem results {values : Array Value} (hvalues : allKnown since values) :
    Upholds since allKnown (Pure.pure values) :=
  pure fun _ hlog value hmem => (hvalues value hmem).mono hlog

private theorem plain {value : Value} (hplain : ∀ f, value ≠ .function f) : Upholds since known (Pure.pure value) :=
  result (Value.knownTo_of_ne_function hplain since)

private theorem known_of_back? {values : Array Value} {value : Value} (hvalues : allKnown since values)
    (hback : values.back? = some value) : value.KnownTo since := by
  rw [← Array.getLast?_toList] at hback
  exact hvalues value (List.mem_of_getLast? hback)

/-- The last of some values has an origin, and so has one that stands in for it. -/
private theorem back_known {values : Array Value} {value : Value} (hvalues : allKnown since values)
    (hplain : ∀ f, value ≠ .function f) : (values.back?.getD value).KnownTo since := by
  cases hback : values.back? with
  | none => exact Value.knownTo_of_ne_function hplain since
  | some found => exact known_of_back? hvalues hback

private theorem last {values : Array Value} {value : Value} (hvalues : allKnown since values)
    (hplain : ∀ f, value ≠ .function f) : Upholds since known (Pure.pure (values.back?.getD value)) :=
  result (back_known hvalues hplain)

private theorem lookup (name : String) (span : Span) : Upholds since known (lookup name span) := by
  intro frame start _ _ hstart
  unfold Eval.lookup
  cases hvalue : start.env.get? name with
  | some value => exact ⟨.refl hstart, hstart.env hvalue⟩
  | none => exact .refl hstart

private theorem consult (name : String) (host : Native) (arguments : Array Value) (span : Span) :
    Upholds since known (consult name host arguments span) := by
  by_cases hstring : ∃ code rest, arguments.toList = .string code :: rest
  · obtain ⟨code, rest, hstring⟩ := hstring
    intro frame start hhosts hsince hstart
    have hafter := hstart.consulted host code frame
    rw [consult_of_string hstring]
    cases hanswer : (frame.hosts host).answer (start.earlier host) code with
    | ok value => exact ⟨hafter, (hhosts hanswer).mono (hsince.trans hafter.log)⟩
    | error text => exact hafter
  · rw [consult_of_not_string fun code rest heq => hstring ⟨code, rest, heq⟩]
    exact fail _

private theorem inBuffer {body : Eval α} (target : Cursor) (hbody : Upholds since V body) :
    Upholds since V (inBuffer target body) := by
  intro frame start hhosts hsince hstart
  have hentered : (start.entering target frame.depth).Sound := hstart.of_same rfl rfl rfl
  have hinside := hbody (frame.entering target) (start.entering target frame.depth) hhosts hsince hentered
  rw [inBuffer_apply]
  cases hdone : body (frame.entering target) (start.entering target frame.depth) with
  | done a after =>
    rw [hdone] at hinside
    exact ⟨⟨hinside.1.toSound.of_same rfl rfl rfl, hinside.1.log⟩, hinside.2⟩
  | failed error after =>
    rw [hdone] at hinside
    exact ⟨hinside.toSound.of_same rfl rfl rfl, hinside.log⟩
  | unfinished => trivial

/-- Operators yield no functions. -/
private theorem combine_known {op : Located} {left right value : Value}
    (hvalue : Eval.combine op left right = .ok value) (log : List Event) : value.KnownTo log := by
  unfold Eval.combine at hvalue
  cases hresult : Value.operate? op.token.lexeme left right with
  | none =>
    rw [hresult] at hvalue
    cases hvalue
  | some result =>
    rw [hresult] at hvalue
    cases hvalue
    exact Value.knownTo_of_ne_function (Value.operate?_ne_function hresult) log

section Forms

variable {inner : Eval Value} {skip skip' : Eval Unit} {located : Located}

private theorem chainFrom (hinner : ∀ since, Upholds since known inner) (tier : Tier) (rounds : Nat) {left : Value}
    (hleft : left.KnownTo since) : Upholds since known (chainFrom tier inner combine rounds left) := by
  induction rounds generalizing since left with
  | zero => exact result hleft
  | succ rounds ih =>
    refine past (Quiet.walks.operator? tier) fun found => ?_
    cases found with
    | none => exact result hleft
    | some op =>
      refine past Quiet.walks.advance fun _ => bind (hinner _) fun log right _ _ => ?_
      cases hvalue : Eval.combine op left right with
      | ok value => exact ih (combine_known hvalue log)
      | error error => exact fail error

private theorem chain (hinner : ∀ since, Upholds since known inner) (tier : Tier) :
    Upholds since known (chain tier inner combine) :=
  bind (hinner _) fun _ _ _ hfirst => past Quiet.walks.rounds fun rounds => chainFrom hinner tier rounds hfirst

private theorem expression (hinner : ∀ since, Upholds since known inner) :
    Upholds since known (expression inner combine) :=
  chain (fun _ => chain hinner .additive) .multiplicative

private theorem elementsFrom (hinner : ∀ since, Upholds since known inner) (rounds : Nat) {values : Array Value}
    (hvalues : allKnown since values) : Upholds since allKnown (elementsFrom inner rounds values) := by
  induction rounds generalizing since values with
  | zero => exact results hvalues
  | succ rounds ih =>
    refine past Quiet.walks.cursor fun here => ?_
    split
    · exact results hvalues
    · refine bind (hinner _) fun log value hlog hvalue => past Quiet.walks.cursor fun here => ?_
      have hmore : allKnown log (values.push value) := by
        intro other hmem
        rw [Array.toList_push, List.mem_append, List.mem_singleton] at hmem
        rcases hmem with hmem | rfl
        · exact (hvalues other hmem).mono hlog
        · exact hvalue
      split
      · exact past Quiet.walks.advance fun _ => ih hmore
      · exact ih hmore

private theorem list (hinner : ∀ since, Upholds since known inner) : Upholds since allKnown (list inner) := by
  refine past (Quiet.walks.expectPunct "(") fun _ => past Quiet.walks.rounds fun rounds => ?_
  refine bind (elementsFrom hinner rounds (by simp [allKnown])) fun log values _ hvalues => ?_
  refine past (Quiet.walks.expectPunct ")") fun _ => results hvalues

private theorem invoke (hinner : ∀ since, Upholds since known inner) {f : Function} (hf : f.KnownTo since)
    {arguments : Array Value} (harguments : allKnown since arguments) (span : Span) :
    Upholds since known (invoke inner f arguments span) := by
  refine past Quiet.frame fun outer => ?_
  split
  · exact fail _
  · refine before (update fun {machine} hsince hmachine => ?_) fun _ => ?_
    · have hcalled : (machine.record (.called f arguments.size)).Extends machine := by
        refine hmachine.record (by simp) ?_
        rintro _ ⟨⟩
        exact hf.mono hsince
      refine hcalled.trans (hcalled.toSound.bindAll f.params fun value hmem => ?_)
      exact (harguments value hmem).mono (hsince.trans hcalled.log)
    · exact bind (inBuffer f.body (list hinner)) fun log values _ hvalues => last hvalues (by simp)

private theorem call (hinner : ∀ since, Upholds since known inner) : Upholds since known (call inner) := by
  refine past Quiet.walks.advance fun _ => past Quiet.walks.expectName fun ⟨name, span⟩ => ?_
  refine bind (lookup name span) fun log value _ hvalue => ?_
  cases value with
  | function f =>
    exact bind (list hinner) fun later arguments hlater harguments =>
      invoke hinner ((hvalue f rfl).mono hlater) harguments span
  | native host => exact bind (list hinner) fun later arguments _ _ => consult name host arguments span
  | number | string | nil => exact fail _

private theorem conditional (hinner : ∀ since, Upholds since known inner) :
    Upholds since known (conditional inner) := by
  refine past Quiet.walks.advance fun _ => before (hinner _).ignored fun condition => ?_
  split
  · refine bind (list hinner) fun log values _ hvalues => past (Quiet.walks.tryKeyword .otherwise) fun found => ?_
    split
    · exact past Quiet.skipList fun _ => last hvalues (by simp)
    · exact last hvalues (by simp)
  · refine past Quiet.skipList fun _ => past (Quiet.walks.tryKeyword .otherwise) fun found => ?_
    split
    · exact bind (list hinner) fun log values _ hvalues => last hvalues (by simp)
    · exact plain (by simp)

private theorem forRounds (hinner : ∀ since, Upholds since known inner) (hskip : Quiet anyResult skip skip')
    (start patience iterations : Nat) {value : Value} (hvalue : value.KnownTo since) :
    Upholds since known (forRounds inner skip start patience iterations value) := by
  induction patience generalizing since iterations value with
  | zero => exact fun _ _ _ _ _ => trivial
  | succ patience ih =>
    refine before (hinner _).ignored fun condition => past (Quiet.walks.expectPunct ";") fun _ => ?_
    split
    · refine before (hinner _).ignored fun _ => bind (list hinner) fun log values _ hvalues => ?_
      exact past (Quiet.rewind start) fun _ => ih (iterations + 1) (back_known hvalues (by simp))
    · refine past hskip fun _ => past Quiet.skipList fun _ => before (logs rfl) fun _ => ?_
      exact result hvalue

private theorem forLoop (hinner : ∀ since, Upholds since known inner) (hskip : Quiet anyResult skip skip') :
    Upholds since known (forLoop inner skip) := by
  refine past Quiet.walks.advance fun _ => before (hinner _).ignored fun _ => ?_
  refine past (Quiet.walks.expectPunct ";") fun _ => past Quiet.machine fun here => past Quiet.frame fun outer => ?_
  exact forRounds hinner hskip here.pos outer.patience 0 (Value.knownTo_of_ne_function (by simp) since)

private theorem whileRounds (hinner : ∀ since, Upholds since known inner) (start patience iterations : Nat)
    {value : Value}
    (hvalue : value.KnownTo since) : Upholds since known (whileRounds inner start patience iterations value) := by
  induction patience generalizing since iterations value with
  | zero => exact fun _ _ _ _ _ => trivial
  | succ patience ih =>
    refine before (hinner _).ignored fun condition => ?_
    split
    · refine bind (list hinner) fun log values _ hvalues => past (Quiet.rewind start) fun _ => ?_
      exact ih (iterations + 1) (back_known hvalues (by simp))
    · refine past Quiet.skipList fun _ => before (logs rfl) fun _ => ?_
      exact result hvalue

private theorem whileLoop (hinner : ∀ since, Upholds since known inner) : Upholds since known (whileLoop inner) := by
  refine past Quiet.walks.advance fun _ => past Quiet.machine fun here => past Quiet.frame fun outer => ?_
  exact whileRounds hinner here.pos outer.patience 0 (Value.knownTo_of_ne_function (by simp) since)

/-- The only form at which a function comes into being. -/
private theorem define (hkeyword : located.token.keyword? = some .define) : UpholdsAt since located known define := by
  intro frame start _ _ hstart hcurrent
  have hat : KeywordAt frame.tokens start.pos .define := Preserves.keywordAt_of_token hcurrent hkeyword
  cases hdone : Eval.define frame start with
  | done value after =>
    obtain ⟨rfl, _, _, hafter⟩ := hstart.makes hat hdone
    exact ⟨hafter, Value.knownTo_of_ne_function (by simp) _⟩
  | failed error after =>
    have hfailed := define_meets hat
    rw [hdone] at hfailed
    obtain ⟨pos, rfl⟩ := hfailed
    exact ⟨hstart.of_same rfl rfl rfl, List.prefix_rfl⟩
  | unfinished => trivial

private theorem assign (hinner : ∀ since, Upholds since known inner) : Upholds since known (assign inner) := by
  refine past Quiet.walks.advance fun _ => past Quiet.walks.expectName fun ⟨name, _⟩ => ?_
  refine past (Quiet.walks.expectPunct "=") fun _ => bind (hinner _) fun log value _ hvalue => ?_
  exact before (update fun hlog hmachine => hmachine.bind name (hvalue.mono hlog)) fun _ => plain (by simp)

private theorem form (hinner : ∀ since, Upholds since known inner) (hskip : Quiet anyResult skip skip') :
    UpholdsAt since located known (form inner skip located) := by
  unfold Eval.form
  cases located.token.kind with
  | number => exact anywhere (past Quiet.walks.advance fun _ => plain (by simp))
  | string => exact anywhere (past Quiet.walks.advance fun _ => plain (by simp))
  | name =>
    dsimp only
    cases hkeyword : located.token.keyword? with
    | none => exact anywhere (past Quiet.walks.advance fun _ => lookup _ _)
    | some keyword =>
      cases keyword with
      | call => exact anywhere (call hinner)
      | cond => exact anywhere (conditional hinner)
      | forLoop => exact anywhere (forLoop hinner hskip)
      | whileLoop => exact anywhere (whileLoop hinner)
      | define => exact define hkeyword
      | assign => exact anywhere (assign hinner)
      | otherwise => exact anywhere (past Quiet.walks.advance fun _ => lookup _ _)
  | punct =>
    dsimp only
    split
    · refine anywhere (bind (list hinner) fun log values _ hvalues => ?_)
      cases hback : values.back? with
      | some value => exact result (known_of_back? hvalues hback)
      | none => exact fail _
    · exact anywhere (unexpected _)
  | operator => exact anywhere (unexpected _)

end Forms

private theorem operand (budget : Nat) (since : List Event) : Upholds since known (operand budget) := by
  induction budget generalizing since with
  | zero => exact past Quiet.walks.firstToken fun _ _ _ _ _ hstart => .refl hstart
  | succ budget ih =>
    refine first fun located => noted budget ?_
    -- what is nested has less of the budget, whatever has been logged by then
    exact form (fun _ => expression ih) (Quiet.skipExpression budget)

theorem evaluate (budget : Nat) (since : List Event) : Upholds since known (evaluate budget) :=
  expression (operand budget)

private theorem programFrom (budget rounds : Nat) {value : Value} (hvalue : value.KnownTo since) :
    Upholds since known (programFrom (Eval.evaluate budget) rounds value) := by
  induction rounds generalizing since value with
  | zero => exact result hvalue
  | succ rounds ih =>
    refine past Quiet.walks.cursor fun here => ?_
    split
    · exact result hvalue
    · exact bind (evaluate budget since) fun _ _ _ hnext => ih hnext

private theorem program : Upholds since known program := by
  refine past Quiet.frame fun outer => past Quiet.walks.rounds fun rounds => ?_
  exact programFrom outer.limits.nesting rounds (Value.knownTo_of_ne_function (by simp) since)

end Upholds

end Eval

/-- A run makes a sound machine of a sound one, and yields no function without an origin,
    whether it succeeds or fails. -/
theorem Interpreter.run_extends {interpreter after : Interpreter} {hosts : Hosts} {patience : Nat}
    {result : Except Error Value} (hhosts : hosts.KnownTo interpreter.machine.log.toList)
    (hmachine : interpreter.machine.Sound) (hrun : interpreter.run hosts patience = some (result, after)) :
    after.machine.Extends interpreter.machine ∧
      ∀ value, result = .ok value → value.KnownTo after.machine.log.toList := by
  have hprogram :=
    Eval.Upholds.program (interpreter.frame hosts patience) interpreter.machine hhosts List.prefix_rfl hmachine
  rw [run_eq_report] at hrun
  cases hdone : Eval.program (interpreter.frame hosts patience) interpreter.machine with
  | done value stop =>
    rw [hdone] at hrun hprogram
    cases hrun
    refine ⟨hprogram.1, ?_⟩
    rintro _ ⟨⟩
    exact hprogram.2
  | failed error stop =>
    rw [hdone] at hrun hprogram
    cases hrun
    exact ⟨hprogram, fun _ hresult => nomatch hresult⟩
  | unfinished =>
    rw [hdone] at hrun
    cases hrun

end Rewind
