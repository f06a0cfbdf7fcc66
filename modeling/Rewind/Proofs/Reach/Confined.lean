import Rewind.Proofs.Reach
import Rewind.Proofs.Watch

namespace Rewind

/-- How a failure depends on the place where it happened: a token was expected there and
    another one, or none, was found; or it has the span of some token in reach. -/
inductive Error.Explained (reach : Reach) (place : Cursor) : Error → Prop where
  | expected (wanted : Wanted) : Explained reach place (.expected wanted place.current?)
  | atSpan {span : Span} {cause : Cause} (hspan : reach.Places span)
    (hcause : ∀ wanted found, cause ≠ .expected wanted found) : Explained reach place (.atSpan span cause)

theorem Error.Explained.places {reach : Reach} {place : Cursor} {error : Error}
    (hexplained : error.Explained reach place) (hbuffer : reach.buffer place.tokens) {span : Span}
    (hspan : error.span = some span) : reach.Places span := by
  cases hexplained with
  | expected wanted =>
    obtain ⟨located, hcurrent, hlocated⟩ := Option.map_eq_some_iff.1 hspan
    exact ⟨place.tokens, hbuffer, located, Array.mem_of_getElem? hcurrent, hlocated⟩
  | atSpan hplaces _ =>
    cases hspan
    exact hplaces

/-- The machine of the verdict is in reach, a failure is explained by its place, and a result
    satisfies `P`. -/
def Verdict.Confined (reach : Reach) {α : Type} (P : α → Prop) : Verdict α → Prop
  | .done a after => after.InReach reach ∧ P a
  | .failed error place after => after.InReach reach ∧ reach.buffer place.tokens ∧ error.Explained reach place
  | .unfinished after => after.InReach reach
  | .stopped => True

private theorem Verdict.Confined.rewound {reach : Reach} {α : Type} {P : α → Prop} {verdict : Verdict α}
    (hconfined : verdict.Confined reach P) (pos : Nat) : (verdict.rewound pos).Confined reach P := by
  cases verdict with
  | done a after => exact ⟨hconfined.1.moved pos, hconfined.2⟩
  | failed error place after => exact ⟨hconfined.1.moved pos, hconfined.2⟩
  | unfinished after => exact hconfined
  | stopped => trivial

namespace Eval

/-- What the computation `x` leaves and yields is in reach if what it is given is, and
    its failures are explained. Nothing is said of the other side, which stands there
    for the results only. -/
def Confined (reach : Reach) {α β : Type} (V : α → β → Prop) (x : Watched α) (_ : Eval β) : Prop :=
  ∀ ⦃frame start⦄, reach.buffer frame.tokens → reach.Closed frame.hosts → start.InReach reach →
    (x frame start).Confined reach fun a => ∃ b, V a b

namespace Confined

variable {reach : Reach} {watch : Watch} {α β γ δ : Type} {V W : α → β → Prop}

private theorem pure {a : α} {b : β} (hab : V a b) : Confined reach V (Pure.pure a) (Pure.pure b) :=
  fun _ _ _ _ hstart => ⟨hstart, b, hab⟩

private theorem bind {W : γ → δ → Prop} {x : Watched α} {y : Eval β} {f : α → Watched γ} {g : β → Eval δ}
    (hx : Confined reach V x y) (hf : ∀ a b, V a b → Confined reach W (f a) (g b)) :
    Confined reach W (x >>= f) (y >>= g) := by
  intro frame start hbuffer hclosed hstart
  have hfirst := hx hbuffer hclosed hstart
  rw [Watched.bind_apply]
  cases hverdict : x frame start with
  | done a mid =>
    rw [hverdict] at hfirst
    obtain ⟨hmid, b, hab⟩ := hfirst
    exact hf a b hab hbuffer hclosed hmid
  | failed error place mid =>
    rw [hverdict] at hfirst
    exact hfirst
  | unfinished mid =>
    rw [hverdict] at hfirst
    exact hfirst
  | stopped => trivial

private theorem asked (moment : Moment) {x : Watched α} {y : Eval β} (hx : Confined reach V x y) :
    Confined reach V (watch.ask moment >>= fun _ => x) y := by
  intro frame start hbuffer hclosed hstart
  rw [Watched.bind_apply]
  unfold Watch.ask
  by_cases hgoes : watch moment frame start.pos = true
  · rw [if_pos hgoes]
    exact hx hbuffer hclosed hstart
  · rw [if_neg hgoes]
    trivial

private theorem around (moment : Moment) {x : Watched α} {y : Eval β} (hx : Confined reach V x y) :
    Confined reach V (watch.around moment x) y := by
  refine asked moment ?_
  rw [← bind_pure y]
  exact bind hx fun _ _ hab => asked .done (pure hab)

private theorem update {change change' : Machine → Machine}
    (hchange : ∀ {machine}, machine.InReach reach → (change machine).InReach reach) :
    Confined reach anyResult (liftM (update change)) (update change') :=
  fun _ _ _ _ hstart => ⟨hchange hstart, (), trivial⟩

private theorem failAt {y : Eval β} {span : Span} (hspan : reach.Places span) {cause : Cause}
    (hcause : ∀ wanted found, cause ≠ .expected wanted found) :
    Confined reach V (liftM (failAt span cause : Eval α)) y :=
  fun _ _ hbuffer _ hstart => ⟨hstart, hbuffer, .atSpan hspan hcause⟩

private theorem advance : Confined reach anyResult (liftM advance) advance :=
  fun _ _ _ _ hstart => ⟨hstart.moved _, (), trivial⟩

private theorem rewind (pos pos' : Nat) : Confined reach anyResult (liftM (rewind pos)) (rewind pos') :=
  fun _ _ _ _ hstart => ⟨hstart.moved pos, (), trivial⟩

private theorem unexpected (wanted : Wanted) :
    Confined reach V (liftM (unexpected wanted : Eval α)) (unexpected wanted : Eval β) :=
  fun _ _ hbuffer _ hstart => ⟨hstart, hbuffer, .expected wanted⟩

private theorem cursor : Confined reach reach.likeness.cursors (liftM cursor) cursor :=
  fun _ _ hbuffer _ hstart => ⟨hstart, _, rfl, hbuffer⟩

private theorem frame : Confined reach Eq (liftM frame) frame := fun _ _ _ _ hstart => ⟨hstart, _, rfl⟩

/-- Both sides take the same way at a test of the current token. -/
private theorem branch (test : Cursor → Bool) {x x' : Watched α} {y y' : Eval β} (hyes : Confined reach V x y)
    (hno : Confined reach V x' y') :
    Confined reach V (do if test (← Eval.cursor) then x else x') (do if test (← Eval.cursor) then y else y') := by
  refine bind cursor ?_
  rintro here _ ⟨rfl, _⟩
  split
  · exact hyes
  · exact hno

private theorem expectPunct (lexeme : String) :
    Confined reach anyResult (liftM (expectPunct lexeme)) (expectPunct lexeme) := by
  intro frame start hbuffer _ hstart
  rw [Watched.liftM_apply, expectPunct_apply]
  split
  · exact ⟨hstart.moved _, (), trivial⟩
  · exact ⟨hstart, hbuffer, .expected _⟩

/-- A failure that reports the token at the current position is explained. -/
private theorem expected_current {frame : Frame} {start : Machine} {found : Option Located}
    (hbuffer : reach.buffer frame.tokens)
    (hstart : start.InReach reach) (hfound : frame.tokens[start.pos]? = found) (wanted : Wanted) {P : α → Prop} :
    (Verdict.ofOutcome frame start (.failed (.expected wanted found) start)).Confined reach P := by
  subst hfound
  exact ⟨hstart, hbuffer, .expected wanted⟩

private theorem expectName : Confined reach reach.likeness.names (liftM expectName) expectName := by
  intro frame start hbuffer _ hstart
  rw [Watched.liftM_apply, expectName_apply]
  cases hcurrent : frame.tokens[start.pos]? with
  | none => exact expected_current hbuffer hstart hcurrent _
  | some located =>
    dsimp only
    split
    · have hmem : located ∈ frame.tokens := Array.mem_of_getElem? hcurrent
      exact ⟨hstart.moved _, (located.token.lexeme, located.span), rfl, rfl, frame.tokens, hbuffer, located, hmem, rfl⟩
    · exact expected_current hbuffer hstart hcurrent _

private theorem firstToken : Confined reach (Located.Alike reach.likeness.spans) (liftM firstToken) firstToken := by
  intro frame start hbuffer _ hstart
  rw [Watched.liftM_apply, firstToken_apply]
  cases hcurrent : frame.tokens[start.pos]? with
  | none => exact expected_current hbuffer hstart hcurrent _
  | some located =>
    exact ⟨hstart, located, rfl, rfl, frame.tokens, hbuffer, located, Array.mem_of_getElem? hcurrent, rfl⟩

private theorem tryKeyword (keyword : Keyword) :
    Confined reach Eq (liftM (tryKeyword keyword)) (tryKeyword keyword) := by
  intro frame start _ _ hstart
  rw [Watched.liftM_apply, tryKeyword_apply]
  split
  · exact ⟨hstart.moved _, _, rfl⟩
  · exact ⟨hstart, _, rfl⟩

private theorem operator? (tier : Tier) :
    Confined reach (Option.Rel (Located.Alike reach.likeness.spans)) (liftM (operator? tier)) (operator? tier) := by
  intro frame start hbuffer _ hstart
  rw [Watched.liftM_apply, operator?_apply]
  refine ⟨hstart, frame.tokens[start.pos]?.filter (·.token.isOperator tier), ?_⟩
  cases hfound : frame.tokens[start.pos]?.filter (·.token.isOperator tier) with
  | none => exact .none
  | some located =>
    have hmem : located ∈ frame.tokens := Array.mem_of_getElem? (Option.filter_eq_some_iff.1 hfound).1
    exact .some ⟨rfl, rfl, frame.tokens, hbuffer, located, hmem, rfl⟩

private theorem skipList : Confined reach anyResult (liftM skipList) skipList := by
  intro frame start hbuffer _ hstart
  rw [Watched.liftM_apply, skipList_apply]
  split
  · split
    · exact ⟨hstart.moved _, (), trivial⟩
    · exact expected_current hbuffer (hstart.moved _) (Array.getElem?_eq_none (Nat.le_refl _)) _
  · exact ⟨hstart, hbuffer, .expected _⟩

private theorem guards : Guards reach.likeness (Confined reach) where
  pure := pure
  bind := bind
  expectPunct _ _ := expectPunct _
  expectName := expectName
  tryElse := tryKeyword _
  operator tier hnone hsome := by
    refine bind (operator? tier) fun found found' hfound => ?_
    cases hfound with
    | none => exact hnone
    | some halike => exact bind advance fun _ _ _ => hsome halike
  skipList := skipList
  opening := branch (·.isPunct "(")

private theorem loops : Loops reach.likeness (Confined reach) .bounded := by
  refine .bounded guards ?_ (fun _ _ _ _ hstart => ⟨hstart, _, rfl⟩) (branch (·.atEnd))
  exact {
    pure := pure
    bind := bind
    expectName := expectName
    closing := branch fun here => here.atEnd || here.isPunct ")"
    comma := fun hyes hno => branch (·.isPunct ",") (bind advance fun _ _ _ => hyes) hno }

private theorem between {x : Watched α} {y : Eval β} (hinside : Confined reach V x y) :
    Confined reach V (between x) (between y) :=
  bind (expectPunct _) fun _ _ _ => bind hinside fun _ _ hresults => bind (expectPunct _) fun _ _ _ => pure hresults

private theorem list {inner : Watched Value} {inner' : Eval Value}
    (hinner : Confined reach reach.likeness.values inner inner') (hadvances : Advances inner') :
    Confined reach reach.likeness.arrays (Loop.bounded.list inner) (list inner') := by
  rw [list_eq_between]
  exact between (loops.elements hinner hadvances)

private theorem lookup {name : String} {left right : Span} (hspans : reach.likeness.spans left right) :
    Confined reach reach.likeness.values (liftM (lookup name left)) (lookup name right) := by
  intro frame start hbuffer _ hstart
  rw [Watched.liftM_apply]
  unfold Eval.lookup
  cases hvalue : start.env.get? name with
  | some value => exact ⟨hstart, value, rfl, hstart.env hvalue⟩
  | none => exact ⟨hstart, hbuffer, .atSpan hspans.2 nofun⟩

theorem arrays_inReach {left right : Array Value} (harrays : reach.likeness.arrays left right) :
    ∀ value ∈ left.toList, value.InReach reach := by
  unfold Likeness.arrays at harrays
  generalize left.toList = list at harrays
  generalize right.toList = list' at harrays
  induction harrays with
  | nil => exact fun _ hmem => absurd hmem List.not_mem_nil
  | cons hvalue _ ih => exact List.forall_mem_cons.2 ⟨hvalue.2, ih⟩

private theorem consult {name : String} {host : Native} {left right : Array Value} {here there : Span}
    (hhost : reach.likeness.values (.native host) (.native host)) (hspans : reach.likeness.spans here there) :
    Confined reach reach.likeness.values (liftM (consult name host left here)) (consult name host right there) := by
  by_cases hstring : ∃ code rest, left.toList = .string code :: rest
  · obtain ⟨code, rest, hstring⟩ := hstring
    intro frame start hbuffer hclosed hstart
    have hafter := hstart.consulted hclosed hhost.2 code
    rw [Watched.liftM_apply, consult_of_string hstring]
    cases hanswer : (frame.hosts host).answer (start.earlier host) code with
    | ok value => exact ⟨hafter, value, rfl, hclosed.answer hhost.2 hanswer⟩
    | error text => exact ⟨hafter, hbuffer, .atSpan hspans.2 nofun⟩
  · rw [consult_of_not_string (fun code rest heq => hstring ⟨code, rest, heq⟩)]
    exact failAt hspans.2 nofun

private theorem inBuffer {x : Watched α} {y : Eval β} {target target' : Cursor} (htarget : reach.buffer target.tokens)
    (hx : Confined reach V x y) : Confined reach V (Watched.inBuffer target x) (Eval.inBuffer target' y) := by
  intro frame start _ hclosed hstart
  exact (@hx (frame.entering target) _ htarget hclosed (hstart.entering target frame.depth)).rewound start.pos

private theorem invokeBy {body : Cursor → Watched (Array Value)} {body' : Cursor → Eval (Array Value)}
    (hbody : ∀ {target target'}, reach.buffer target.tokens →
      Confined reach reach.likeness.arrays (body target) (body' target')) {f g : Function} {left right : Array Value}
    {here there : Span} (hfunctions : reach.likeness.values (.function f) (.function g))
    (harrays : reach.likeness.arrays left right) (hspans : reach.likeness.spans here there) :
    Confined reach reach.likeness.values (invokeBy body f left here) (invokeBy body' g right there) := by
  refine bind frame ?_
  rintro outer _ rfl
  split
  · exact failAt hspans.2 nofun
  · refine bind (update fun hstart => (hstart.record _).bindAll _ (arrays_inReach harrays)) fun _ _ _ => ?_
    exact bind (hbody hfunctions.2) fun _ _ hvalues => pure (hvalues.back ⟨rfl, trivial⟩)

private theorem callees {v w : Value} (hvalues : reach.likeness.values v w) : reach.likeness.Callees v w := by
  have ⟨heq, _⟩ := hvalues
  subst heq
  exact .self hvalues

private theorem body (name : String) (params : List String) :
    Confined reach anyResult (liftM (takeBody name params)) (takeBody name params) := by
  intro frame start hbuffer hclosed hstart
  rw [Watched.liftM_apply]
  unfold takeBody
  rw [bind_of_done (show Eval.cursor frame start = .done ⟨frame.tokens, start.pos⟩ start from rfl)]
  split
  · have hskipped := @skipList reach frame start hbuffer hclosed hstart
    rw [Watched.liftM_apply] at hskipped
    rw [bind_apply]
    cases hskip : Eval.skipList frame start with
    | done _ mid =>
      rw [hskip] at hskipped
      exact ⟨hskipped.1.define name params hbuffer, (), trivial⟩
    | failed error after =>
      rw [hskip] at hskipped
      exact hskipped
    | unfinished => exact hstart
  · exact ⟨hstart.define name params hbuffer, (), trivial⟩

private theorem combine {op op' : Located} {l l' r r' : Value} (hop : Located.Alike reach.likeness.spans op op')
    (_ : reach.likeness.values l l') (_ : reach.likeness.values r r') :
    Confined reach reach.likeness.values (liftM (ofExcept (combine op l r))) (ofExcept (combine op' l' r')) := by
  unfold Eval.combine
  cases hvalue : Value.operate? op.token.lexeme l r with
  | some value => exact fun _ _ _ _ hstart => ⟨hstart, value, rfl, Value.operate?_inReach hvalue⟩
  | none => exact failAt hop.span.2 nofun

private theorem operands : Operands reach.likeness (Confined reach) fun _ => Confined reach where
  first hf := bind firstToken fun _ _ halike => hf halike
  noted _ _ hx := bind (V := anyResult) (fun _ _ _ _ hstart =>
    ⟨⟨hstart.env, hstart.calls⟩, (), trivial⟩) fun _ _ _ => hx
  tooNested halike := fun _ _ hbuffer _ hstart => ⟨hstart, hbuffer, .atSpan halike.span.2 nofun⟩
  entry _ := ⟨id, fun _ => ⟨bind, advance⟩, unexpected⟩
  nothing := fun _ _ _ _ hstart => ⟨hstart, (), trivial⟩

private theorem binds {inner : Watched Value} {inner' : Eval Value} (budget : Nat)
    (hinner : Confined reach reach.likeness.values inner inner') (hadvances : Advances inner') :
    Binds reach.likeness (Confined reach) (watch.parts inner (Loop.bounded.skipExpression budget))
      (.of inner' (Eval.skipExpression budget)) := by
  have hlist : Confined reach reach.likeness.arrays (watch.around .list (Loop.bounded.list inner)) (Eval.list inner') :=
    around .list (list hinner hadvances)
  exact {
    toGuards := guards
    nested := hinner
    passed := around .skip (loops.skipExpression operands budget)
    list := hlist
    params := around .params (between loops.params)
    number := fun _ => ⟨rfl, trivial⟩
    string := fun _ => ⟨rfl, trivial⟩
    nil := ⟨rfl, trivial⟩
    truthy := fun hvalues => congrArg Value.truthy hvalues.1
    callees := callees
    lookup := lookup
    emptyList := fun hspans => failAt hspans.2 nofun
    notCallable := fun _ _ _ _ _ _ hspans => failAt hspans.2 nofun
    invoke := invokeBy fun htarget => inBuffer htarget hlist
    consult := fun hhost _ hspans => consult hhost hspans
    machine := fun _ _ _ _ hstart => ⟨hstart, _, rfl⟩
    rewind := fun _ => rewind _ _
    frame := fun _ _ _ _ hstart => ⟨hstart, _, rfl⟩
    oneMore := by
      rintro n _ rfl
      exact ⟨n, rfl, rfl⟩
    giveUp := fun _ _ _ _ _ _ hstart => hstart
    record := fun _ => update fun hstart => hstart.record _
    body := body
    bound := fun name _ _ hvalues => update fun hstart => hstart.bind name hvalues.2 }

private theorem operand (budget : Nat) : Confined reach reach.likeness.values (watch.operand budget)
    (operand budget) := by
  induction budget with
  | zero => exact operands.first operands.tooNested
  | succ budget ih =>
    have hinner := loops.expression ih ((Agrees.operand budget).level (.skipOperand budget)) (.operand budget) combine
    refine around .operand (operands.first fun {located _} halike => ?_)
    rw [← Parts.form_of]
    exact operands.noted located.token budget
      ((binds budget hinner (.evaluate budget)).form (operands.entry _) halike)

private theorem evaluate (budget : Nat) :
    Confined reach reach.likeness.values (watch.evaluate budget) (evaluate budget) :=
  loops.expression (operand budget) ((Agrees.operand budget).level (.skipOperand budget)) (.operand budget) combine

private theorem program : Confined reach reach.likeness.values watch.program program := by
  refine bind frame ?_
  rintro outer _ rfl
  exact loops.program (evaluate _) (.evaluate _) ⟨rfl, trivial⟩

end Confined

end Eval

/-- What a run leaves and what it yields is in reach, and a failure is explained by its
    place. -/
theorem Interpreter.verdict_inReach {interpreter : Interpreter} {hosts : Hosts} {reach : Reach}
    (hbuffer : reach.buffer interpreter.tokens) (hclosed : reach.Closed hosts)
    (hmachine : interpreter.machine.InReach reach) (watch : Eval.Watch) (patience : Nat) :
    (interpreter.verdict watch hosts patience).Confined reach (·.InReach reach) := by
  have hprogram := (@Eval.Confined.program reach watch)
  have hconfined := @hprogram (interpreter.frame hosts patience) _ hbuffer hclosed hmachine
  unfold verdict
  cases hverdict : watch.program (interpreter.frame hosts patience) interpreter.machine with
  | done value after =>
    rw [hverdict] at hconfined
    obtain ⟨hafter, _, _, hvalue⟩ := hconfined
    exact ⟨hafter, hvalue⟩
  | failed | unfinished =>
    rw [hverdict] at hconfined
    exact hconfined
  | stopped => trivial

end Rewind
