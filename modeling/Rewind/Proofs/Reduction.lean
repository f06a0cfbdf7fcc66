import Rewind.Proofs.Outline
import Rewind.Proofs.Rounds

namespace Rewind.Eval

/-- From position `p` on, `x` is the same as `next b` from `q` on if the result is `b`, and fails if
    it is an error. Nothing else changes but the deepest nesting. -/
def Reduces {α β : Type} (frame : Frame) (p q : Nat) (x : Eval α) (result : Except Error β)
    (next : β → Eval α) : Prop :=
  ∀ start : Machine, start.pos = p →
    match result with
    | .ok b => ∃ depth, x frame start = next b frame { start with pos := q, deepestNesting := depth }
    | .error error => ∃ pos depth, x frame start = .failed error { start with pos, deepestNesting := depth }

namespace Reduces

variable {α β γ : Type} {frame : Frame} {p q r : Nat} {x : Eval α} {result : Except Error β} {next : β → Eval α}

theorem here (b : β) (next : β → Eval α) : Reduces frame p p (next b) (.ok b) next := by
  rintro start rfl
  exact ⟨start.deepestNesting, rfl⟩

private theorem step {y : Eval α} (hstep : ∀ start : Machine, start.pos = p → ∃ depth,
    x frame start = y frame { start with pos := q, deepestNesting := depth }) (hy : Reduces frame q r y result next) :
    Reduces frame p r x result next := by
  intro start hpos
  obtain ⟨depth, hx⟩ := hstep start hpos
  have hrest := hy { start with pos := q, deepestNesting := depth } rfl
  rw [hx]
  exact hrest

theorem stay {y : Eval α} (hsame : ∀ start : Machine, start.pos = p → x frame start = y frame start)
    (hy : Reduces frame p q y result next) : Reduces frame p q x result next := by
  intro start hpos
  rw [hsame start hpos]
  exact hy start hpos

theorem trans {k : β → Except Error γ} {next' : γ → Eval α} (hx : Reduces frame p r x result next)
    (hnext : ∀ b, result = .ok b → Reduces frame r q (next b) (k b) next') :
    Reduces frame p q x (result >>= k) next' := by
  cases result with
  | error error => exact hx
  | ok b => exact step hx (hnext b rfl)

theorem follow {next' : β → Eval α} (hx : Reduces frame p r x result next)
    (hnext : ∀ b, Reduces frame r q (next b) (.ok b) next') : Reduces frame p q x result next' := by
  rw [← bind_pure result]
  exact hx.trans fun b _ => hnext b

theorem bind {y : Eval γ} {f : γ → Eval α} {next : β → Eval γ} (hy : Reduces frame p q y result next) :
    Reduces frame p q (y >>= f) result fun b => next b >>= f := by
  intro start hpos
  have hy := hy start hpos
  cases result with
  | error error =>
    obtain ⟨pos, depth, hy⟩ := hy
    exact ⟨pos, depth, bind_of_failed hy⟩
  | ok b =>
    obtain ⟨depth, hy⟩ := hy
    refine ⟨depth, ?_⟩
    show (y >>= f) frame start = (next b >>= f) frame _
    rw [bind_apply, hy, bind_apply]

/-- What is done after something that succeeds. -/
theorem after {y : Eval γ} {f : γ → Eval α} {c : γ} (hy : Reduces frame p r y (.ok c) Pure.pure)
    (hrest : Reduces frame r q (f c) result next) : Reduces frame p q (y >>= f) result next := by
  refine step (fun start hpos => ?_) hrest
  obtain ⟨depth, hy⟩ := hy start hpos
  exact ⟨depth, bind_of_done hy⟩

/-- What is done after something that may fail. -/
theorem seq {y : Eval β} {f : β → Eval α} {k : β → Except Error γ} {next : γ → Eval α}
    (hy : Reduces frame p r y result Pure.pure) (hrest : ∀ b, Reduces frame r q (f b) (k b) next) :
    Reduces frame p q (y >>= f) (result >>= k) next := by
  refine hy.bind.trans fun b _ => ?_
  rw [pure_bind]
  exact hrest b

/-- What is done at the end succeeds, and does not change the result. -/
theorem last {y : Eval β} {f : β → Eval α} {next : β → Eval α} (hy : Reduces frame p r y result Pure.pure)
    (hrest : ∀ b, Reduces frame r q (f b) (.ok b) next) : Reduces frame p q (y >>= f) result next := by
  refine hy.bind.follow fun b => ?_
  rw [pure_bind]
  exact hrest b

section Steps

theorem advance {located : Located} (hcurrent : frame.tokens[p]? = some located) :
    Reduces frame p (p + 1) advance (.ok ()) Pure.pure := by
  rintro start rfl
  exact ⟨start.deepestNesting, advance_of_current hcurrent⟩

theorem expectPunct {lexeme : String} (hpunct : PunctAt frame.tokens p lexeme) :
    Reduces frame p (p + 1) (expectPunct lexeme) (.ok ()) Pure.pure := by
  rintro start rfl
  exact ⟨start.deepestNesting, (expectPunct_apply frame start lexeme).trans (if_pos hpunct)⟩

theorem expectName {name : String} {span : Span} (hname : NameAt frame.tokens p name span) :
    Reduces frame p (p + 1) expectName (.ok (name, span)) Pure.pure := by
  rintro start rfl
  refine ⟨start.deepestNesting, ?_⟩
  rw [expectName_apply, hname]
  rfl

theorem cursor : Reduces frame p p cursor (.ok ⟨frame.tokens, p⟩) Pure.pure := by
  rintro start rfl
  exact ⟨start.deepestNesting, rfl⟩

theorem firstToken {located : Located} (hcurrent : frame.tokens[p]? = some located) :
    Reduces frame p p firstToken (.ok located) Pure.pure := by
  rintro start rfl
  refine ⟨start.deepestNesting, ?_⟩
  rw [firstToken_apply, hcurrent]
  rfl

private theorem operator? (tier : Tier) :
    Reduces frame p p (operator? tier) (.ok (frame.tokens[p]?.filter (·.token.isOperator tier))) Pure.pure := by
  rintro start rfl
  exact ⟨start.deepestNesting, operator?_apply frame start tier⟩

theorem noteNesting (budget : Nat) : Reduces frame p p (noteNesting budget) (.ok ()) Pure.pure := by
  rintro start rfl
  exact ⟨max start.deepestNesting (frame.limits.nesting - budget), rfl⟩

theorem rounds : Reduces frame p p rounds (.ok (frame.tokens.size + 1)) Pure.pure := by
  rintro start rfl
  exact ⟨start.deepestNesting, rfl⟩

theorem skipList (hregion : Region frame.tokens p q) : Reduces frame p q skipList (.ok ()) Pure.pure := by
  rintro start rfl
  obtain ⟨hopen, hclose⟩ := region_iff_closeFrom.1 hregion
  refine ⟨start.deepestNesting, ?_⟩
  rw [skipList_apply, if_pos hopen, hclose]
  rfl

theorem tryKeyword_of {keyword : Keyword} (hkeyword : KeywordAt frame.tokens p keyword) :
    Reduces frame p (p + 1) (tryKeyword keyword) (.ok true) Pure.pure := by
  rintro start rfl
  exact ⟨start.deepestNesting, (tryKeyword_apply frame start keyword).trans (if_pos hkeyword)⟩

theorem tryKeyword_of_not {keyword : Keyword} (hkeyword : ¬ KeywordAt frame.tokens p keyword) :
    Reduces frame p p (tryKeyword keyword) (.ok false) Pure.pure := by
  rintro start rfl
  exact ⟨start.deepestNesting, (tryKeyword_apply frame start keyword).trans (if_neg hkeyword)⟩

end Steps

section Chains

variable {tier : Tier} {item : Eval α} {combine : Located → α → α → Except Error α}

/-- A chain ends where no operator of its tier follows. -/
theorem chainEnd (hend : frame.tokens[p]?.filter (·.token.isOperator tier) = none) (left : α) :
    Reduces frame p p (chainFrom tier item combine (frame.tokens.size + 1) left) (.ok left) Pure.pure := by
  rw [chainFrom]
  refine after (operator? tier) ?_
  rw [hend]
  exact here left Pure.pure

/-- A chain goes on with an operator of its tier and another item, and then it has as many rounds
    as before. -/
theorem chainRound {operator : Located} (hoperator : frame.tokens[p]? = some operator)
    (htier : operator.token.isOperator tier = true) {result : Except Error α}
    (hitem : Reduces frame (p + 1) q item result Pure.pure) (hadvances : Advances item) (hmoved : p < q) (left : α) :
    Reduces frame p q (chainFrom tier item combine (frame.tokens.size + 1) left) (result >>= combine operator left)
      (chainFrom tier item combine (frame.tokens.size + 1)) := by
  have hfilter : frame.tokens[p]?.filter (·.token.isOperator tier) = some operator := by
    simp [hoperator, htier]
  rw [chainFrom]
  refine after (operator? tier) ?_
  rw [hfilter]
  refine after (advance hoperator) (hitem.seq fun right => ?_)
  cases combine operator left right with
  | error error => exact fun start hpos => ⟨start.pos, start.deepestNesting, rfl⟩
  | ok value =>
    -- one round has been taken, and those that are left are still enough
    refine stay (fun start hpos => ?_) (here value _)
    subst hpos
    have hinside := (Array.getElem?_eq_some_iff.1 hoperator).1
    exact Settled.chainFrom hadvances value (by omega) (by omega)

end Chains

end Reduces

end Rewind.Eval
