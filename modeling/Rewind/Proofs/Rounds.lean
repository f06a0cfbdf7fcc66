import Rewind.Proofs.Agreement.EndPosition
import Rewind.Proofs.Comparison.Loop

namespace Rewind.Eval

/-- A computation that has moved on wherever it succeeds. -/
def Advances {α : Type} (x : Eval α) : Prop :=
  ∀ ⦃frame start a after⦄, x frame start = .done a after → start.pos < after.pos

namespace Advances

variable {α β : Type}

private theorem of_agrees {V : α → β → Prop} {x : Eval α} {y : Eval β} (hagrees : Agrees V x y)
    (hy : Advances y) : Advances x := by
  intro frame start a after hdone
  obtain ⟨b, after', hdone', hafter, _⟩ := hagrees rfl rfl hdone
  exact hafter ▸ hy hdone'

private theorem bind_level {x : Eval α} {f : α → Eval β} (hx : Advances x) (hf : ∀ a, Level (f a)) :
    Advances (x >>= f) := by
  intro frame start b after hdone
  obtain ⟨a, mid, hfirst, hrest⟩ := bind_eq_done_iff.1 hdone
  exact Nat.lt_of_lt_of_le (hx hfirst) (hf a hrest).forward

theorem chain {tier : Tier} {item : Eval α} {combine : Located → α → α → Except Error α} (hlevel : Level item)
    (hitem : Advances item) : Advances (chain tier item combine) :=
  bind_level hitem fun first => Level.rounds.bind fun rounds => Level.chainFrom hlevel rounds first

theorem expression {item : Eval α} {combine : Located → α → α → Except Error α} (hlevel : Level item)
    (hitem : Advances item) : Advances (expression item combine) :=
  chain (Level.chain hlevel) (chain hlevel hitem)

theorem skipOperand (budget : Nat) : Advances (skipOperand budget) :=
  fun _ _ _ _ hdone => (Level.skipOperand_from budget hdone).2

private theorem skipExpression (budget : Nat) : Advances (skipExpression budget) :=
  expression (Level.skipOperand budget) (skipOperand budget)

theorem operand (budget : Nat) : Advances (operand budget) :=
  of_agrees (.operand budget) (skipOperand budget)

theorem evaluate (budget : Nat) : Advances (evaluate budget) :=
  of_agrees (.evaluate budget) (skipExpression budget)

end Advances

/-- Wherever a round has another one after it, it began inside of the buffer and has moved
    on. -/
def Progresses {α : Type} (round : α → Eval (α ⊕ α)) : Prop :=
  ∀ ⦃frame start state next after⦄, round state frame start = .done (.inl next) after →
    start.pos < frame.tokens.size ∧ start.pos < after.pos

namespace Progresses

variable {α : Type} {tier : Tier} {item : Eval α} {combine : Located → α → α → Except Error α} {inner : Eval Value}

private theorem ofExcept_done {result : Except Error α} {a : α} {frame : Frame} {start after : Machine}
    (hdone : ofExcept result frame start = .done a after) : start = after := by
  cases result with
  | ok value =>
    cases hdone
    rfl
  | error error => cases hdone

theorem chainRound (hitem : Advances item) : Progresses (chainRound tier item combine) := by
  intro frame start left next after hdone
  simp only [Eval.chainRound, liftM_eval] at hdone
  rw [bind_of_done (operator?_apply frame start tier)] at hdone
  cases hoperator : frame.tokens[start.pos]?.filter (·.token.isOperator tier) with
  | none =>
    rw [hoperator] at hdone
    cases hdone
  | some operator =>
    rw [hoperator] at hdone
    dsimp only at hdone
    obtain ⟨hcurrent, _⟩ := Option.filter_eq_some_iff.1 hoperator
    rw [bind_of_done (advance_of_current hcurrent)] at hdone
    obtain ⟨right, mid, hright, hdone⟩ := bind_eq_done_iff.1 hdone
    obtain ⟨value, last, hvalue, hdone⟩ := bind_eq_done_iff.1 hdone
    have hmoved : start.pos + 1 < mid.pos := hitem hright
    obtain rfl := ofExcept_done hvalue
    cases hdone
    exact ⟨(Array.getElem?_eq_some_iff.1 hcurrent).1, by omega⟩

/-- Past a comma, if there is one, nothing gets further back. -/
private theorem comma_le {β : Type} {b b' : β} {frame : Frame} {start after : Machine}
    (hdone : (cursor >>= fun here => if here.isPunct "," then advance >>= fun _ => pure b else pure b) frame start =
      .done b' after) : start.pos ≤ after.pos := by
  rw [bind_of_done (show cursor frame start = .done ⟨frame.tokens, start.pos⟩ start from rfl)] at hdone
  split at hdone
  · rename_i hcomma
    obtain ⟨located, hcurrent, _⟩ := isPunct_iff.1 hcomma
    rw [bind_of_done (advance_of_current hcurrent)] at hdone
    cases hdone
    exact Nat.le_succ start.pos
  · cases hdone
    exact Nat.le_refl start.pos

theorem elementRound (hinner : Advances inner) : Progresses (elementRound inner) := by
  intro frame start values next after hdone
  simp only [Eval.elementRound, liftM_eval] at hdone
  rw [bind_of_done (show cursor frame start = .done ⟨frame.tokens, start.pos⟩ start from rfl)] at hdone
  split at hdone
  · cases hdone
  · rename_i hclosing
    obtain ⟨value, mid, hvalue, hdone⟩ := bind_eq_done_iff.1 hdone
    have hmoved := hinner hvalue
    have hlast := comma_le hdone
    simp only [Cursor.atEnd, Bool.or_eq_true, decide_eq_true_eq, not_or] at hclosing
    omega

theorem paramRound : Progresses paramRound := by
  intro frame start params next after hdone
  simp only [Eval.paramRound, liftM_eval] at hdone
  rw [bind_of_done (show cursor frame start = .done ⟨frame.tokens, start.pos⟩ start from rfl)] at hdone
  split at hdone
  · cases hdone
  · rename_i hclosing
    simp only [Cursor.atEnd, Bool.or_eq_true, decide_eq_true_eq, not_or] at hclosing
    obtain ⟨⟨param, span⟩, mid, hparam, hdone⟩ := bind_eq_done_iff.1 hdone
    dsimp only at hdone
    have hbalanced := Level.expectName hparam
    rw [bind_of_done (show cursor frame mid = .done ⟨frame.tokens, mid.pos⟩ mid from rfl)] at hdone
    split at hdone
    · rename_i hcomma
      obtain ⟨located, hcurrent, _⟩ := isPunct_iff.1 hcomma
      rw [bind_of_done (advance_of_current hcurrent)] at hdone
      cases hdone
      have := hbalanced.forward
      dsimp only
      omega
    · cases hdone

theorem programRound (hinner : Advances inner) : Progresses (programRound inner) := by
  intro frame start last next after hdone
  simp only [Eval.programRound, liftM_eval] at hdone
  rw [bind_of_done (show cursor frame start = .done ⟨frame.tokens, start.pos⟩ start from rfl)] at hdone
  split at hdone
  · cases hdone
  · rename_i hend
    obtain ⟨value, mid, hvalue, hdone⟩ := bind_eq_done_iff.1 hdone
    have hmoved := hinner hvalue
    cases hdone
    simp only [Cursor.atEnd, decide_eq_true_eq] at hend
    omega

end Progresses

/-- A loop whose bound on rounds makes no difference, once it allows for each
    token that is left. -/
def Settled {α : Type} (loop : Nat → Eval α) : Prop :=
  ∀ ⦃frame start m n⦄, frame.tokens.size - start.pos < m → frame.tokens.size - start.pos < n →
    loop m frame start = loop n frame start

namespace Settled

/-- A loop that moves past a token in each round takes no more rounds than there are tokens
    left. -/
private theorem of_progresses {α : Type} {round : α → Eval (α ⊕ α)} (hprogress : Progresses round) (a : α) :
    Settled fun rounds => within round rounds a := by
  intro frame start m n hm hn
  induction m generalizing n a start with
  | zero => cases hm
  | succ m ih =>
    obtain ⟨n, rfl⟩ : ∃ k, n = k + 1 := ⟨n - 1, by omega⟩
    dsimp only
    rw [within, within, bind_apply, bind_apply]
    cases hround : round a frame start with
    | done result after =>
      cases result with
      | inl next =>
        have hmoved := hprogress hround
        exact ih next (by omega) (by omega)
      | inr result => rfl
    | failed error after => rfl
    | unfinished => rfl

theorem chainFrom {α : Type} {tier : Tier} {item : Eval α} {combine : Located → α → α → Except Error α}
    (hitem : Advances item) (left : α) : Settled fun rounds => chainFrom tier item combine rounds left := by
  simp only [chainFrom_eq_within]
  exact of_progresses (.chainRound hitem) left

theorem elementsFrom {inner : Eval Value} (hinner : Advances inner) (values : Array Value) :
    Settled fun rounds => elementsFrom inner rounds values := by
  simp only [elementsFrom_eq_within]
  exact of_progresses (.elementRound hinner) values

theorem paramsFrom (params : Array String) : Settled fun rounds => paramsFrom rounds params := by
  simp only [paramsFrom_eq_within]
  exact of_progresses .paramRound params

theorem programFrom {inner : Eval Value} (hinner : Advances inner) (last : Value) :
    Settled fun rounds => programFrom inner rounds last := by
  simp only [programFrom_eq_within]
  exact of_progresses (.programRound hinner) last

end Settled

end Rewind.Eval
