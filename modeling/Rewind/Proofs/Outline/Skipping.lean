import Rewind.Proofs.Reduction
import Rewind.Proofs.Header
import Rewind.Proofs.Unbounded

namespace Rewind.Eval

/-- Moves past an item of a chain. -/
def skipItem (budget : Nat) : Tier → Eval Unit
  | .additive => skipOperand budget
  | .multiplicative => chain .additive (skipOperand budget) skipCombine

/-- Moves past what has the shape. -/
def skipShape (budget : Nat) : Shape → Eval Unit
  | .operand => skipOperand budget
  | .chain tier => chain tier (skipItem budget tier) skipCombine
  | .tail tier => do chainFrom tier (skipItem budget tier) skipCombine (← rounds) ()

private theorem skipShape_shape (budget : Nat) (tier : Tier) : skipShape budget tier.shape = skipItem budget tier := by
  cases tier <;> rfl

private theorem Advances.skipItem (budget : Nat) (tier : Tier) : Advances (skipItem budget tier) := by
  cases tier with
  | additive => exact .skipOperand budget
  | multiplicative => exact .chain (.skipOperand budget) (.skipOperand budget)

/-- Moves past what follows the keyword of a form. -/
def skipRest (inner : Eval Unit) : Keyword → Eval Unit
  | .call => do
    let _ ← expectName
    skipList
  | .cond => do
    inner
    skipList
    if ← tryKeyword .otherwise then skipList
  | .forLoop => do
    inner
    expectPunct ";"
    inner
    expectPunct ";"
    inner
    skipList
  | .whileLoop => do
    inner
    skipList
  | .define => do
    let _ ← expectName
    skipList
    if (← cursor).isPunct "(" then skipList
  | .assign => do
    let _ ← expectName
    expectPunct "="
    inner
  | .otherwise => pure ()

private theorem skipForm_of_keyword {inner : Eval Unit} {located : Located} {keyword : Keyword}
    (hkeyword : located.token.keyword? = some keyword) :
    skipForm inner located = advance >>= fun _ => skipRest inner keyword := by
  have hkind := Level.keyword_kind hkeyword
  cases keyword <;> simp only [skipForm, hkind, hkeyword, skipRest, bind_pure_unit]

/-- What comes of something that is `depth` deep where `budget` levels are left. If they are not
    enough, a token can be pointed at. -/
inductive Verdict (frame : Frame) (budget depth : Nat) : Except Error Unit → Prop where
  | within (hle : depth ≤ budget) : Verdict frame budget depth (.ok ())
  | beyond {located : Located} (hlt : budget < depth) (hmem : located ∈ frame.tokens) :
    Verdict frame budget depth (.error (.atSpan located.span (.nestingDepth frame.limits.nesting)))

namespace Verdict

variable {frame : Frame} {budget depth depth' : Nat} {result result' : Except Error Unit}

private theorem deeper (hverdict : Verdict frame budget depth result) :
    Verdict frame (budget + 1) (depth + 1) result := by
  cases hverdict with
  | within hle => exact .within (Nat.succ_le_succ hle)
  | beyond hlt hmem => exact .beyond (Nat.succ_lt_succ hlt) hmem

private theorem both (hfirst : Verdict frame budget depth result) (hsecond : Verdict frame budget depth' result') :
    Verdict frame budget (max depth depth') (result >>= fun _ => result') := by
  cases hfirst with
  | beyond hlt hmem => exact .beyond (by omega) hmem
  | within hle =>
    cases hsecond with
    | within hle' => exact .within (Nat.max_le.2 ⟨hle, hle'⟩)
    | beyond hlt hmem => exact .beyond (by omega) hmem

end Verdict

/-- From `p` on, `x` passes over something that is `depth` deep and ends at `q`. -/
def Passes (frame : Frame) (budget depth p q : Nat) (x : Eval Unit) : Prop :=
  ∃ result, Verdict frame budget depth result ∧ Reduces frame p q x result pure

namespace Passes

variable {frame : Frame} {budget depth p q : Nat} {x : Eval Unit} {located : Located}

/-- What has no expressions in it. -/
private theorem flat (hreduces : Reduces frame p q x (.ok ()) pure) : Passes frame budget 0 p q x :=
  ⟨.ok (), .within (Nat.zero_le budget), hreduces⟩

private theorem done {start : Machine} (hpasses : Passes frame budget depth start.pos q x) (hle : depth ≤ budget) :
    ∃ deepest, x frame start = .done () { start with pos := q, deepestNesting := deepest } := by
  obtain ⟨result, hverdict, hreduces⟩ := hpasses
  cases hverdict with
  | within => exact hreduces start rfl
  | beyond hlt => omega

private theorem failed {start : Machine} (hpasses : Passes frame budget depth start.pos q x) (hlt : budget < depth) :
    ∃ located ∈ frame.tokens, ∃ after,
      x frame start = .failed (.atSpan located.span (.nestingDepth frame.limits.nesting)) after := by
  obtain ⟨result, hverdict, hreduces⟩ := hpasses
  cases hverdict with
  | within => omega
  | beyond _ hmem =>
    obtain ⟨pos, deepest, hfailed⟩ := hreduces start rfl
    exact ⟨_, hmem, _, hfailed⟩

/-- An operand is one level deeper than the expressions in it. -/
private theorem operand (hcurrent : frame.tokens[p]? = some located)
    (hform : ∀ budget, Passes frame budget depth p q (skipForm (skipExpression budget) located)) (budget : Nat) :
    Passes frame budget (depth + 1) p q (skipOperand budget) := by
  cases budget with
  | zero =>
    refine ⟨_, .beyond (Nat.succ_pos depth) (Array.mem_of_getElem? hcurrent), .after (.firstToken hcurrent) ?_⟩
    exact fun start _ => ⟨start.pos, start.deepestNesting, rfl⟩
  | succ budget =>
    obtain ⟨result, hverdict, hreduces⟩ := hform budget
    exact ⟨result, hverdict.deeper, .after (.firstToken hcurrent) (.after (.noteNesting budget) hreduces)⟩

private theorem keyword {keyword : Keyword} (hkeyword : KeywordAt frame.tokens p keyword)
    (hrest : ∀ budget, Passes frame budget depth (p + 1) q (skipRest (skipExpression budget) keyword)) (budget : Nat) :
    Passes frame budget (depth + 1) p q (skipOperand budget) := by
  obtain ⟨located, hcurrent, _, hkeyword⟩ := hkeyword.current
  refine operand hcurrent (fun budget => ?_) budget
  obtain ⟨result, hverdict, hreduces⟩ := hrest budget
  rw [skipForm_of_keyword hkeyword]
  exact ⟨result, hverdict, .after (.advance hcurrent) hreduces⟩

end Passes

private theorem passes_of_outlined {frame : Frame} {shape : Shape} {depth p q : Nat}
    (houtlined : Outlined frame.tokens shape depth p q) (budget : Nat) :
    Passes frame budget depth p q (skipShape budget shape) := by
  -- inside of a form there is one level less, so the derivation is followed with any number of them left
  induction houtlined generalizing budget with
  | literal htoken hkind =>
    refine .operand htoken (fun budget => ?_) budget
    rcases hkind with hkind | hkind <;> simp only [skipForm, hkind] <;> exact .flat (.advance htoken)
  | name htoken hplain =>
    refine .operand htoken (fun budget => ?_) budget
    rcases hplain with hplain | hplain <;> simp only [skipForm, Token.keyword?, hplain] <;>
      exact .flat (.advance htoken)
  | list hlist =>
    obtain ⟨located, hcurrent, hopen⟩ := isPunct_iff.1 (region_iff_closeFrom.1 hlist).1
    refine .operand hcurrent (fun budget => ?_) budget
    simp only [Token.isPunct, Bool.and_eq_true, beq_iff_eq] at hopen
    simp only [skipForm, hopen.1, hopen.2, beq_self_eq_true, if_true]
    exact .flat (.skipList hlist)
  | call hkeyword hname harguments =>
    exact .keyword hkeyword (fun _ => .flat (.after (.expectName hname) (.skipList harguments))) budget
  | header hkeyword hname hparams hbody =>
    refine .keyword hkeyword (fun _ => .flat (.after (.expectName hname) (.after (.skipList hparams) ?_))) budget
    refine .after .cursor ?_
    rw [if_neg hbody]
    exact .here () pure
  | define hkeyword hname hparams hbody =>
    refine .keyword hkeyword (fun _ => .flat (.after (.expectName hname) (.after (.skipList hparams) ?_))) budget
    refine .after .cursor ?_
    rw [if_pos (region_iff_closeFrom.1 hbody).1]
    exact .skipList hbody
  | cond hkeyword _ hyes hno ih =>
    refine .keyword hkeyword (fun budget => ?_) budget
    obtain ⟨result, hverdict, htest⟩ := ih budget
    refine ⟨result, hverdict, htest.last fun _ => .after (.skipList hyes) ?_⟩
    exact .after (.tryKeyword_of_not hno) (.here () pure)
  | condElse hkeyword _ hyes helse hno ih =>
    refine .keyword hkeyword (fun budget => ?_) budget
    obtain ⟨result, hverdict, htest⟩ := ih budget
    refine ⟨result, hverdict, htest.last fun _ => .after (.skipList hyes) ?_⟩
    exact .after (.tryKeyword_of helse) (.skipList hno)
  | forLoop hkeyword _ hsemicolon _ hsemicolon' _ hbody ihfirst ihtest ihstep =>
    refine .keyword hkeyword (fun budget => ?_) budget
    obtain ⟨first, hfirstVerdict, hfirst⟩ := ihfirst budget
    obtain ⟨test, htestVerdict, htest⟩ := ihtest budget
    obtain ⟨step, hstepVerdict, hstep⟩ := ihstep budget
    refine ⟨_, hfirstVerdict.both (htestVerdict.both hstepVerdict), hfirst.seq fun _ => ?_⟩
    refine .after (.expectPunct hsemicolon) (htest.seq fun _ => ?_)
    exact .after (.expectPunct hsemicolon') (hstep.last fun _ => .skipList hbody)
  | whileLoop hkeyword _ hbody ih =>
    refine .keyword hkeyword (fun budget => ?_) budget
    obtain ⟨result, hverdict, htest⟩ := ih budget
    exact ⟨result, hverdict, htest.last fun _ => .skipList hbody⟩
  | assign hkeyword hname hequals _ ih =>
    refine .keyword hkeyword (fun budget => ?_) budget
    obtain ⟨result, hverdict, hvalue⟩ := ih budget
    exact ⟨result, hverdict, .after (.expectName hname) (.after (.expectPunct hequals) hvalue)⟩
  | @chain _ _ _ _ _ tier _ _ ihfirst ihrest =>
    obtain ⟨first, hfirstVerdict, hfirst⟩ := ihfirst budget
    obtain ⟨rest, hrestVerdict, hrest⟩ := ihrest budget
    rw [skipShape_shape] at hfirst
    exact ⟨_, hfirstVerdict.both hrestVerdict, hfirst.seq fun _ => hrest⟩
  | tailEnd hend => exact .flat (.after .rounds (.chainEnd hend ()))
  | @tailCons p r _ _ _ tier _ htoken hoperator hitem _ ihitem ihrest =>
    obtain ⟨item, hitemVerdict, hitemGoes⟩ := ihitem budget
    obtain ⟨rest, hrestVerdict, hrest⟩ := ihrest budget
    rw [skipShape_shape] at hitemGoes
    have hmoved := hitem.lt_of_item
    have hround : Reduces frame p r (chainFrom tier (skipItem budget tier) skipCombine (frame.tokens.size + 1) ()) item
        (chainFrom tier (skipItem budget tier) skipCombine (frame.tokens.size + 1)) := by
      rw [← bind_pure item]
      exact .chainRound htoken hoperator hitemGoes (.skipItem budget tier) (by omega) ()
    exact ⟨_, hitemVerdict.both hrestVerdict, .after .rounds (hround.trans fun _ _ => .stay (fun _ _ => rfl) hrest)⟩

/-- A computation that, wherever it succeeds, has passed over something of the shape, no deeper
    than `budget` allows. -/
def KeepsTo (budget : Nat) (shape : Shape) (x : Eval Unit) : Prop :=
  ∀ ⦃frame start done after⦄, x frame start = .done done after →
    ∃ depth ≤ budget, Outlined frame.tokens shape depth start.pos after.pos

/-- A list that is passed over ends at its closing parenthesis. -/
private theorem region_of_skipList {frame : Frame} {start after : Machine} {done : Unit}
    (hdone : skipList frame start = .done done after) : Region frame.tokens start.pos after.pos := by
  rw [skipList_apply] at hdone
  split at hdone
  · rename_i hopen
    split at hdone
    · rename_i hclose
      cases hdone
      exact region_iff_closeFrom.2 ⟨hopen, hclose⟩
    · cases hdone
  · cases hdone

namespace KeepsTo

variable {budget : Nat}

section Forms

variable {inner : Eval Unit} {frame : Frame} {start after : Machine} {done : Unit}

private theorem call (hkeyword : KeywordAt frame.tokens start.pos .call)
    (hdone : skipRest inner .call frame { start with pos := start.pos + 1 } = .done done after) :
    Outlined frame.tokens .operand 1 start.pos after.pos := by
  obtain ⟨_, _, hread, hlist⟩ := bind_eq_done_iff.1 hdone
  obtain ⟨hname, rfl⟩ := (expectName_meets frame _).of_done hread
  exact .call hkeyword hname (region_of_skipList hlist)

private theorem define (hkeyword : KeywordAt frame.tokens start.pos .define)
    (hdone : skipRest inner .define frame { start with pos := start.pos + 1 } = .done done after) :
    Outlined frame.tokens .operand 1 start.pos after.pos := by
  obtain ⟨_, _, hread, hdone⟩ := bind_eq_done_iff.1 hdone
  obtain ⟨hname, rfl⟩ := (expectName_meets frame _).of_done hread
  obtain ⟨_, header, hparams, hdone⟩ := bind_eq_done_iff.1 hdone
  have hparams := region_of_skipList hparams
  rw [bind_of_done (show cursor frame header = .done ⟨frame.tokens, header.pos⟩ header from rfl)] at hdone
  by_cases hbody : PunctAt frame.tokens header.pos "("
  · rw [if_pos hbody] at hdone
    exact .define hkeyword hname hparams (region_of_skipList hdone)
  · rw [if_neg hbody] at hdone
    cases hdone
    exact .header hkeyword hname hparams hbody

variable (hinner : KeepsTo budget .expression inner)
include hinner

private theorem cond (hkeyword : KeywordAt frame.tokens start.pos .cond)
    (hdone : skipRest inner .cond frame { start with pos := start.pos + 1 } = .done done after) :
    ∃ depth ≤ budget, Outlined frame.tokens .operand (depth + 1) start.pos after.pos := by
  obtain ⟨_, _, htest, hdone⟩ := bind_eq_done_iff.1 hdone
  obtain ⟨_, mid, hyes, hdone⟩ := bind_eq_done_iff.1 hdone
  obtain ⟨depth, hle, htest⟩ := hinner htest
  have hyes := region_of_skipList hyes
  rw [bind_apply, tryKeyword_apply] at hdone
  by_cases helse : KeywordAt frame.tokens mid.pos .otherwise
  · rw [if_pos helse] at hdone
    exact ⟨depth, hle, .condElse hkeyword htest hyes helse (region_of_skipList hdone)⟩
  · rw [if_neg helse] at hdone
    cases hdone
    exact ⟨depth, hle, .cond hkeyword htest hyes helse⟩

private theorem forLoop (hkeyword : KeywordAt frame.tokens start.pos .forLoop)
    (hdone : skipRest inner .forLoop frame { start with pos := start.pos + 1 } = .done done after) :
    ∃ depth ≤ budget, Outlined frame.tokens .operand (depth + 1) start.pos after.pos := by
  obtain ⟨_, _, hfirst, hdone⟩ := bind_eq_done_iff.1 hdone
  obtain ⟨_, _, hread, hdone⟩ := bind_eq_done_iff.1 hdone
  obtain ⟨hsemicolon, rfl⟩ := (expectPunct_meets frame _ ";").of_done hread
  obtain ⟨_, _, htest, hdone⟩ := bind_eq_done_iff.1 hdone
  obtain ⟨_, _, hread', hdone⟩ := bind_eq_done_iff.1 hdone
  obtain ⟨hsemicolon', rfl⟩ := (expectPunct_meets frame _ ";").of_done hread'
  obtain ⟨_, _, hstep, hbody⟩ := bind_eq_done_iff.1 hdone
  obtain ⟨first, hfirstLe, hfirst⟩ := hinner hfirst
  obtain ⟨test, htestLe, htest⟩ := hinner htest
  obtain ⟨step, hstepLe, hstep⟩ := hinner hstep
  refine ⟨max first (max test step), by omega, ?_⟩
  exact .forLoop hkeyword hfirst hsemicolon htest hsemicolon' hstep (region_of_skipList hbody)

private theorem whileLoop (hkeyword : KeywordAt frame.tokens start.pos .whileLoop)
    (hdone : skipRest inner .whileLoop frame { start with pos := start.pos + 1 } = .done done after) :
    ∃ depth ≤ budget, Outlined frame.tokens .operand (depth + 1) start.pos after.pos := by
  obtain ⟨_, _, htest, hbody⟩ := bind_eq_done_iff.1 hdone
  obtain ⟨depth, hle, htest⟩ := hinner htest
  exact ⟨depth, hle, .whileLoop hkeyword htest (region_of_skipList hbody)⟩

private theorem assign (hkeyword : KeywordAt frame.tokens start.pos .assign)
    (hdone : skipRest inner .assign frame { start with pos := start.pos + 1 } = .done done after) :
    ∃ depth ≤ budget, Outlined frame.tokens .operand (depth + 1) start.pos after.pos := by
  obtain ⟨_, _, hread, hdone⟩ := bind_eq_done_iff.1 hdone
  obtain ⟨hname, rfl⟩ := (expectName_meets frame _).of_done hread
  obtain ⟨_, _, hread', hvalue⟩ := bind_eq_done_iff.1 hdone
  obtain ⟨hequals, rfl⟩ := (expectPunct_meets frame _ "=").of_done hread'
  obtain ⟨depth, hle, hvalue⟩ := hinner hvalue
  exact ⟨depth, hle, .assign hkeyword hname hequals hvalue⟩

/-- What is inside of a form is no deeper than the levels that are left there. -/
private theorem skipForm {located : Located} (hcurrent : frame.tokens[start.pos]? = some located)
    (hdone : skipForm inner located frame start = .done done after) :
    ∃ depth ≤ budget, Outlined frame.tokens .operand (depth + 1) start.pos after.pos := by
  have hadvance := advance_of_current hcurrent
  have hflat (houtlined : Outlined frame.tokens .operand 1 start.pos after.pos) :
      ∃ depth ≤ budget, Outlined frame.tokens .operand (depth + 1) start.pos after.pos :=
    ⟨0, Nat.zero_le budget, houtlined⟩
  cases hkind : located.token.kind with
  | number =>
    simp only [Eval.skipForm, hkind, hadvance] at hdone
    cases hdone
    exact hflat (.literal hcurrent (.inl hkind))
  | string =>
    simp only [Eval.skipForm, hkind, hadvance] at hdone
    cases hdone
    exact hflat (.literal hcurrent (.inr hkind))
  | operator =>
    simp only [Eval.skipForm, hkind] at hdone
    cases hdone
  | punct =>
    simp only [Eval.skipForm, hkind] at hdone
    split at hdone
    · exact hflat (.list (region_of_skipList hdone))
    · cases hdone
  | name =>
    have hname : NameAt frame.tokens start.pos located.token.lexeme located.span := by
      rw [NameAt, hcurrent, ← hkind]
    have hspelling : located.token.keyword? = Keyword.ofSpelling? located.token.lexeme := by
      simp only [Token.keyword?, hkind]
    cases hkeyword : located.token.keyword? with
    | none =>
      simp only [Eval.skipForm, hkind, hkeyword, hadvance] at hdone
      cases hdone
      exact hflat (.name hname (.inl (hspelling.symm.trans hkeyword)))
    | some keyword =>
      have hat : KeywordAt frame.tokens start.pos keyword := Option.bind_eq_some_iff.2 ⟨located, hcurrent, hkeyword⟩
      rw [skipForm_of_keyword hkeyword, bind_of_done hadvance] at hdone
      cases keyword with
      | otherwise =>
        cases hdone
        exact hflat (.name hname (.inr (hspelling.symm.trans hkeyword)))
      | call => exact hflat (call hat hdone)
      | cond => exact hinner.cond hat hdone
      | forLoop => exact hinner.forLoop hat hdone
      | whileLoop => exact hinner.whileLoop hat hdone
      | define => exact hflat (define hat hdone)
      | assign => exact hinner.assign hat hdone

end Forms

section Chains

variable {tier : Tier} {item : Eval Unit}

/-- The bound on rounds is never what ends a chain: each round moves past a token. -/
private theorem chainFrom (hitem : KeepsTo budget tier.shape item) (hadvances : Advances item) {frame : Frame}
    {start after : Machine} {done : Unit} {rounds : Nat} (hrounds : frame.tokens.size - start.pos < rounds)
    (hdone : chainFrom tier item skipCombine rounds () frame start = .done done after) :
    ∃ depth ≤ budget, Outlined frame.tokens (.tail tier) depth start.pos after.pos := by
  induction rounds generalizing start with
  | zero => omega
  | succ rounds ih =>
    rw [Eval.chainFrom, bind_of_done (operator?_apply frame start tier)] at hdone
    cases hoperator : frame.tokens[start.pos]?.filter (·.token.isOperator tier) with
    | none =>
      rw [hoperator] at hdone
      cases hdone
      exact ⟨0, Nat.zero_le budget, .tailEnd hoperator⟩
    | some operator =>
      rw [hoperator] at hdone
      obtain ⟨hcurrent, htier⟩ := Option.filter_eq_some_iff.1 hoperator
      dsimp only at hdone
      rw [bind_of_done (advance_of_current hcurrent)] at hdone
      obtain ⟨_, mid, hright, hdone⟩ := bind_eq_done_iff.1 hdone
      have hinside := (Array.getElem?_eq_some_iff.1 hcurrent).1
      have hmoved : start.pos + 1 < mid.pos := hadvances hright
      obtain ⟨first, hfirstLe, hfirst⟩ := hitem hright
      obtain ⟨rest, hrestLe, hrest⟩ := ih (by omega) hdone
      exact ⟨max first rest, Nat.max_le.2 ⟨hfirstLe, hrestLe⟩, .tailCons hcurrent htier hfirst hrest⟩

private theorem chain (hitem : KeepsTo budget tier.shape item) (hadvances : Advances item) :
    KeepsTo budget (.chain tier) (chain tier item skipCombine) := by
  intro frame start done after hdone
  obtain ⟨_, mid, hfirst, hdone⟩ := bind_eq_done_iff.1 hdone
  obtain ⟨first, hfirstLe, hfirst⟩ := hitem hfirst
  obtain ⟨rest, hrestLe, hrest⟩ := chainFrom hitem hadvances (by omega) hdone
  exact ⟨max first rest, Nat.max_le.2 ⟨hfirstLe, hrestLe⟩, .chain hfirst hrest⟩

private theorem expression (hitem : KeepsTo budget .operand item) (hlevel : Level item) (hadvances : Advances item) :
    KeepsTo budget .expression (expression item skipCombine) :=
  chain (chain hitem hadvances) (.chain hlevel hadvances)

end Chains

private theorem skipOperand (budget : Nat) : KeepsTo budget .operand (skipOperand budget) := by
  intro frame start done after hdone
  induction budget generalizing frame start after with
  | zero =>
    obtain ⟨_, _, _, hfail⟩ := bind_eq_done_iff.1 hdone
    cases hfail
  | succ budget ih =>
    have hinner : KeepsTo budget .expression (Eval.skipExpression budget) :=
      expression (fun _ _ _ _ hdone => ih hdone) (.skipOperand budget) (.skipOperand budget)
    rw [Eval.skipOperand, bind_apply, firstToken_apply] at hdone
    cases hcurrent : frame.tokens[start.pos]? with
    | none =>
      rw [hcurrent] at hdone
      cases hdone
    | some located =>
      rw [hcurrent] at hdone
      dsimp only at hdone
      rw [bind_of_done (show noteNesting budget frame start = .done () _ from rfl)] at hdone
      obtain ⟨depth, hle, houtlined⟩ := hinner.skipForm (by exact hcurrent) hdone
      exact ⟨depth + 1, Nat.succ_le_succ hle, houtlined⟩

private theorem skipExpression (budget : Nat) : KeepsTo budget .expression (skipExpression budget) :=
  expression (skipOperand budget) (.skipOperand budget) (.skipOperand budget)

end KeepsTo

/-- At most the position and the deepest nesting have changed. -/
def Passed (start after : Machine) : Prop := ∃ pos deepest, after = { start with pos, deepestNesting := deepest }

private theorem Passed.refl (start : Machine) : Passed start start := ⟨start.pos, start.deepestNesting, rfl⟩

private theorem Passed.moved {start mid : Machine} (hpassed : Passed start mid) (pos : Nat) :
    Passed start { mid with pos } := by
  obtain ⟨_, deepest, rfl⟩ := hpassed
  exact ⟨pos, deepest, rfl⟩

/-- Two computations that end, and end alike: the first one when it has patience for each of the
    tokens, and the second one with any patience. All that they do is to pass over tokens. -/
def Finishes {α β : Type} (V : α → β → Prop) (x : Eval α) (y : Eval β) : Prop :=
  ∀ ⦃frame : Frame⦄ ⦃base start : Machine⦄ (patience : Nat), frame.tokens.size < patience → Passed base start →
    (x { frame with patience } start).Ends (Passed base) V (y frame start)

namespace Finishes

variable {α β γ δ : Type} {V : α → β → Prop} {W : γ → δ → Prop}

private theorem passed {x : Eval α} {y : Eval β} (hfinishes : Finishes V x y) (frame : Frame) (start : Machine) :
    ∃ after, (y frame start).after? = some after ∧ Passed start after := by
  have hends := hfinishes (frame.tokens.size + 1) (Nat.lt_succ_self _) (.refl start)
  generalize x _ start = left at hends
  generalize y frame start = right at hends ⊢
  cases hends with
  | done _ hafter => exact ⟨_, rfl, hafter⟩
  | failed _ hafter => exact ⟨_, rfl, hafter⟩

private theorem apply_eq {x y : Eval Unit} (hfinishes : Finishes anyResult x y) {frame : Frame} {patience : Nat}
    (henough : frame.tokens.size < patience) (start : Machine) : x { frame with patience } start = y frame start := by
  have hends := hfinishes patience henough (.refl start)
  generalize x { frame with patience } start = left at hends ⊢
  generalize y frame start = right at hends ⊢
  cases hends <;> rfl

private theorem bind {x : Eval α} {y : Eval β} {f : α → Eval γ} {g : β → Eval δ} (hx : Finishes V x y)
    (hf : ∀ a b, V a b → Finishes W (f a) (g b)) : Finishes W (x >>= f) (y >>= g) := by
  intro frame base start patience henough hstart
  refine bind_ends (hx patience henough hstart) fun a b mid _ hab hmid => ?_
  exact hf a b hab patience henough hmid

private theorem skipList : Finishes anyResult skipList skipList := by
  intro frame base start patience _ hstart
  rw [skipList_apply, skipList_apply]
  split
  · cases closeFrom frame.tokens (start.pos + 1) 0 with
    | some pos => exact .done trivial (hstart.moved pos)
    | none => exact .failed _ (hstart.moved _)
  · exact .failed _ hstart

private theorem steps : Steps Likeness.same Finishes where
  pure hresults := fun _ _ _ _ _ hstart => .done hresults hstart
  bind := bind
  cursor := fun _ _ _ _ _ hstart => .done rfl hstart
  current := by
    rintro left _ rfl
    exact Likeness.same_current left
  advance := fun _ _ _ _ _ hstart => .done trivial (hstart.moved _)
  unexpected _ := fun _ _ _ _ _ hstart => .failed _ hstart
  skipList := skipList

private theorem loops : Loops Likeness.same Finishes .unbounded := by
  refine .of_steps steps ?_
  intro α β V round round' hprogress hround a b hab frame base start patience henough hstart
  refine take_ends hprogress (fun a b mid hab hmid => ?_) hstart hab henough
  exact hround a b hab patience henough hmid

private theorem operands : Operands Likeness.same Finishes fun _ => Finishes where
  first hf := steps.bind steps.firstToken fun _ _ halike => hf halike
  noted _ _ hx := by
    refine bind (V := anyResult) ?_ fun _ _ _ => hx
    rintro frame base _ patience _ ⟨pos, deepest, rfl⟩
    exact .done trivial ⟨pos, _, rfl⟩
  tooNested halike := by
    obtain rfl := Likeness.same_located halike
    exact fun _ _ _ _ _ hstart => .failed _ hstart
  entry := steps.entry
  nothing := steps.pure trivial

private theorem skipExpression (budget : Nat) :
    Finishes anyResult (Loop.unbounded.skipExpression budget) (skipExpression budget) :=
  loops.skipExpression operands budget

end Finishes

/-- Where `level` levels of nesting are taken already, skipping succeeds and ends at a place if
    and only if the grammar finds an expression up to there and the limit has room for its depth.
    If there is an expression for which the limit has no room, the failure is that of the limit.
    Whatever the tokens are, skipping ends, also when nothing bounds the number of operators that a
    chain may have, and all that it does is to pass over them. -/
theorem skipping_accepts_what_the_grammar_outlines (frame : Frame) (start : Machine) (level : Nat) :
    (∀ stop, (∃ after, skipExpression (frame.limits.nesting - level) frame start = .done () after ∧ after.pos = stop) ↔
      ∃ depth, Outlined frame.tokens .expression depth start.pos stop ∧ level + depth ≤ frame.limits.nesting) ∧
    (∀ stop depth, Outlined frame.tokens .expression depth start.pos stop → frame.limits.nesting < level + depth →
      ∃ located ∈ frame.tokens, ∃ after, skipExpression (frame.limits.nesting - level) frame start =
        .failed (.atSpan located.span (.nestingDepth frame.limits.nesting)) after) ∧
    (∃ after, (skipExpression (frame.limits.nesting - level) frame start).after? = some after ∧ Passed start after) ∧
    ∀ patience, frame.tokens.size < patience →
      Loop.unbounded.skipExpression (frame.limits.nesting - level) { frame with patience } start =
        skipExpression (frame.limits.nesting - level) frame start := by
  have hfinishes := Finishes.skipExpression (frame.limits.nesting - level)
  refine ⟨fun stop => ⟨?_, ?_⟩, ?_, hfinishes.passed frame start, fun patience henough => ?_⟩
  · rintro ⟨after, hdone, rfl⟩
    obtain ⟨depth, hle, houtlined⟩ := KeepsTo.skipExpression _ hdone
    have hleast : 1 ≤ depth := houtlined.bounds.2
    exact ⟨depth, houtlined, by omega⟩
  · rintro ⟨depth, houtlined, hle⟩
    obtain ⟨deepest, hdone⟩ := (passes_of_outlined houtlined (frame.limits.nesting - level)).done (by omega)
    exact ⟨_, hdone, rfl⟩
  · intro stop depth houtlined hlt
    have hleast : 1 ≤ depth := houtlined.bounds.2
    exact (passes_of_outlined houtlined (frame.limits.nesting - level)).failed (by omega)
  · exact hfinishes.apply_eq henough start

/-- One assignment inside of another, with keywords for names and parentheses of no meaning, where
    three levels are allowed. -/
def crowded : Frame where
  tokens := tokenize "set if = set fn = 1 + (; (if) -) else"
  limits := { nesting := 3 }
  hosts _ := .echo
  depth := 0
  patience := 0

private theorem crowded_outlined : Outlined crowded.tokens .expression 3 0 15 := by
  have hends (tier : Tier) : crowded.tokens[15]?.filter (·.token.isOperator tier) = none := by
    cases tier <;> decide +kernel
  have hregion : Region crowded.tokens 8 15 := region_iff_closeFrom.2 (by decide +kernel)
  have hplus : crowded.tokens[7]? = some ⟨⟨.operator, "+"⟩, ⟨20, 21⟩⟩ := by decide +kernel
  have hone : crowded.tokens[6]? = some ⟨⟨.number, "1"⟩, ⟨18, 19⟩⟩ := by decide +kernel
  have hwhole {depth p : Nat} (hoperand : Outlined crowded.tokens .operand depth p 15) :
      Outlined crowded.tokens .expression depth p 15 := by
    have hadditive : Outlined crowded.tokens (.chain .additive) (max depth 0) p 15 :=
      .chain hoperand (.tailEnd (hends .additive))
    simpa using Outlined.chain hadditive (.tailEnd (hends .multiplicative))
  have hrest : Outlined crowded.tokens (.tail .additive) (max 1 0) 7 15 :=
    .tailCons hplus (by rfl) (.list hregion) (.tailEnd (hends .additive))
  have hsum : Outlined crowded.tokens (.chain .additive) (max 1 (max 1 0)) 6 15 :=
    .chain (.literal hone (.inl rfl)) hrest
  have hvalue : Outlined crowded.tokens .expression (max (max 1 (max 1 0)) 0) 6 15 :=
    .chain hsum (.tailEnd (hends .multiplicative))
  have hname : NameAt crowded.tokens 4 "fn" ⟨13, 15⟩ := by decide +kernel
  have hinner : Outlined crowded.tokens .operand 2 3 15 := .assign (by decide +kernel) hname (by decide +kernel) hvalue
  have hname' : NameAt crowded.tokens 1 "if" ⟨4, 6⟩ := by decide +kernel
  exact hwhole (.assign (by decide +kernel) hname' (by decide +kernel) (hwhole hinner))

/-- The limit is just enough, and if one level is taken it is not. -/
theorem skipping_accepts_what_the_grammar_outlines_of_crowded :
    (∃ after, skipExpression 3 crowded {} = .done () after ∧ after.pos = 15) ∧
    ∃ located ∈ crowded.tokens, ∃ after,
      skipExpression 2 crowded {} = .failed (.atSpan located.span (.nestingDepth 3)) after :=
  ⟨((skipping_accepts_what_the_grammar_outlines crowded {} 0).1 15).2 ⟨3, crowded_outlined, by decide⟩,
    (skipping_accepts_what_the_grammar_outlines crowded {} 1).2.1 15 3 crowded_outlined (by decide)⟩

end Rewind.Eval
