import Rewind.Eval.Skip
import Rewind.Proofs.Balance
import Rewind.Proofs.Step

namespace Rewind.Eval

/-- A computation that, when it succeeds, has moved past as many closing
    parentheses as opening ones, each after its partner. -/
def Level {α : Type} (x : Eval α) : Prop :=
  ∀ ⦃frame start a after⦄, x frame start = .done a after → Balanced frame.tokens start.pos after.pos

namespace Level

variable {α β : Type}

theorem pure (a : α) : Level (Pure.pure a : Eval α) := by
  intro frame start _ after hdone
  cases hdone
  exact .refl _ _

theorem bind {x : Eval α} {f : α → Eval β} (hx : Level x) (hf : ∀ a, Level (f a)) : Level (x >>= f) := by
  intro frame start b after hdone
  obtain ⟨a, mid, hfirst, hrest⟩ := bind_eq_done_iff.1 hdone
  exact (hx hfirst).trans (hf a hrest)

private theorem expectPunct {lexeme : String} (hopen : lexeme ≠ "(") (hclose : lexeme ≠ ")") :
    Level (expectPunct lexeme) := by
  intro frame start _ after hdone
  rw [expectPunct_apply] at hdone
  split at hdone
  · rename_i hpunct
    cases hdone
    obtain ⟨located, hcurrent, hpunct⟩ := isPunct_iff.1 hpunct
    exact .of_punct hcurrent hpunct hopen hclose
  · cases hdone

theorem expectName : Level expectName := by
  intro frame start _ after hdone
  rw [expectName_apply] at hdone
  split at hdone
  · rename_i located hcurrent
    split at hdone
    · rename_i hkind
      cases hdone
      exact .of_kind_ne hcurrent (by simp [hkind])
    · cases hdone
  · cases hdone

theorem keyword_kind {token : Token} {keyword : Keyword} (hkeyword : token.keyword? = some keyword) :
    token.kind = .name := by
  unfold Token.keyword? at hkeyword
  split at hkeyword
  · assumption
  · cases hkeyword

private theorem tryKeyword (keyword : Keyword) : Level (tryKeyword keyword) := by
  intro frame start _ after hdone
  rw [tryKeyword_apply] at hdone
  split at hdone
  · rename_i hkeyword
    cases hdone
    obtain ⟨located, hcurrent, hkeyword⟩ := Option.bind_eq_some_iff.1 hkeyword
    exact .of_kind_ne hcurrent (by simp [keyword_kind hkeyword])
  · cases hdone
    exact .refl _ _

private theorem skipList : Level skipList := by
  intro frame start _ after hdone
  rw [skipList_apply] at hdone
  split at hdone
  · rename_i hpunct
    split at hdone
    · rename_i pos hclose
      cases hdone
      obtain ⟨located, hcurrent, hpunct⟩ := isPunct_iff.1 hpunct
      exact .of_closeFrom hcurrent hpunct hclose
    · cases hdone
  · cases hdone

/-- The same of a computation that starts at a given token, which it also moves
    past. -/
def From (located : Located) (x : Eval α) : Prop :=
  ∀ ⦃frame start a after⦄, frame.tokens[start.pos]? = some located → x frame start = .done a after →
    Balanced frame.tokens start.pos after.pos ∧ start.pos < after.pos

private theorem From.advance {located : Located} (hkind : located.token.kind ≠ .punct) : From located advance := by
  intro frame start _ after hcurrent hdone
  rw [advance_of_current hcurrent] at hdone
  cases hdone
  exact ⟨.of_kind_ne hcurrent hkind, Nat.lt_succ_self _⟩

private theorem From.skipList (located : Located) : From located Eval.skipList := by
  intro frame start _ after hcurrent hdone
  refine ⟨Level.skipList hdone, ?_⟩
  rw [skipList_apply] at hdone
  split at hdone
  · split at hdone
    · rename_i hclose
      cases hdone
      exact Nat.lt_of_succ_lt (closeFrom_bounds hclose).1
    · cases hdone
  · cases hdone

private theorem From.bind {located : Located} {x : Eval α} {f : α → Eval β} (hx : From located x)
    (hf : ∀ a, Level (f a)) : From located (x >>= f) := by
  intro frame start b after hcurrent hdone
  obtain ⟨a, mid, hfirst, hrest⟩ := bind_eq_done_iff.1 hdone
  obtain ⟨hbalanced, hmoved⟩ := hx hcurrent hfirst
  have hlevel := hf a hrest
  exact ⟨hbalanced.trans hlevel, Nat.lt_of_lt_of_le hmoved hlevel.forward⟩

theorem cursor : Level cursor := by
  intro frame start _ after hdone
  cases hdone
  exact .refl _ _

theorem rounds : Level rounds := by
  intro frame start _ after hdone
  cases hdone
  exact .refl _ _

/-- Punctuation that is no parenthesis may be moved past, if it is there. -/
theorem branch {lexeme : String} (hopen : lexeme ≠ "(") (hclose : lexeme ≠ ")") {x y : Eval α}
    (hx : Level x) (hy : Level y) :
    Level (do if (← Eval.cursor).isPunct lexeme then Eval.advance >>= fun _ => x else y) := by
  intro frame start a after hdone
  rw [bind_of_done (show Eval.cursor frame start = .done ⟨frame.tokens, start.pos⟩ start from rfl)] at hdone
  by_cases hpunct : (Cursor.mk frame.tokens start.pos).isPunct lexeme
  · rw [if_pos hpunct] at hdone
    obtain ⟨located, hcurrent, hlocated⟩ := isPunct_iff.1 hpunct
    rw [bind_of_done (advance_of_current hcurrent)] at hdone
    exact (Balanced.of_punct hcurrent hlocated hopen hclose).trans (hx hdone)
  · rw [if_neg hpunct] at hdone
    exact hy hdone

theorem chainFrom {tier : Tier} {item : Eval α} {combine : Located → α → α → Except Error α}
    (hitem : Level item) (rounds : Nat) (left : α) : Level (chainFrom tier item combine rounds left) := by
  induction rounds generalizing left with
  | zero => exact .pure left
  | succ rounds ih =>
    intro frame start a after hdone
    rw [Eval.chainFrom, bind_of_done (operator?_apply frame start tier)] at hdone
    cases hoperator : frame.tokens[start.pos]?.filter (·.token.isOperator tier) with
    | none =>
      rw [hoperator] at hdone
      exact Level.pure left hdone
    | some operator =>
      rw [hoperator] at hdone
      obtain ⟨hcurrent, hkind⟩ := Option.filter_eq_some_iff.1 hoperator
      simp only [Token.isOperator, Bool.and_eq_true, beq_iff_eq] at hkind
      refine ((From.advance (by simp [hkind.1])).bind (fun _ => hitem.bind fun right => ?_) hcurrent hdone).1
      cases combine operator left right with
      | ok value => exact ih value
      | error error => exact fun _ _ _ _ hfail => nomatch hfail

theorem chain {tier : Tier} {item : Eval α} {combine : Located → α → α → Except Error α}
    (hitem : Level item) : Level (chain tier item combine) :=
  hitem.bind fun first => Level.rounds.bind fun rounds => chainFrom hitem rounds first

private theorem expression {item : Eval α} {combine : Located → α → α → Except Error α} (hitem : Level item) :
    Level (expression item combine) :=
  chain (chain hitem)

/-- Skipping a form that begins with the current token is level. The token itself
    is no parenthesis, or it opens a list that is skipped whole. -/
private theorem From.skipForm {inner : Eval Unit} (hinner : Level inner) (located : Located) :
    From located (skipForm inner located) := by
  have hsemicolon : Level (Eval.expectPunct ";") := Level.expectPunct (by decide) (by decide)
  have hequals : Level (Eval.expectPunct "=") := Level.expectPunct (by decide) (by decide)
  unfold Eval.skipForm
  split
  · rename_i hkind
    exact .advance (by simp [hkind])
  · rename_i hkind
    exact .advance (by simp [hkind])
  · rename_i hkind
    have hadvance : From located Eval.advance := .advance (by simp [hkind])
    split
    · exact hadvance.bind fun _ => Level.expectName.bind fun _ => Level.skipList
    · refine hadvance.bind fun _ => hinner.bind fun _ => Level.skipList.bind fun _ =>
        (Level.tryKeyword _).bind fun found => ?_
      split
      · exact Level.skipList
      · exact Level.pure _
    · exact hadvance.bind fun _ => hinner.bind fun _ => hsemicolon.bind fun _ => hinner.bind fun _ =>
        hsemicolon.bind fun _ => hinner.bind fun _ => Level.skipList
    · exact hadvance.bind fun _ => hinner.bind fun _ => Level.skipList
    · refine hadvance.bind fun _ => Level.expectName.bind fun _ => Level.skipList.bind fun _ =>
        Level.cursor.bind fun here => ?_
      split
      · exact Level.skipList
      · exact Level.pure _
    · exact hadvance.bind fun _ => Level.expectName.bind fun _ => hequals.bind fun _ => hinner
    · exact hadvance
    · exact hadvance
  · split
    · exact From.skipList located
    · exact fun _ _ _ _ _ hfail => nomatch hfail
  · exact fun _ _ _ _ _ hfail => nomatch hfail

/-- Skipping moves past the first token, and stays level. -/
theorem skipOperand_from (budget : Nat) ⦃frame : Frame⦄ ⦃start after : Machine⦄ ⦃done : Unit⦄
    (hdone : skipOperand budget frame start = .done done after) :
    Balanced frame.tokens start.pos after.pos ∧ start.pos < after.pos := by
  induction budget generalizing frame start after with
  | zero =>
    obtain ⟨located, mid, _, hfail⟩ := bind_eq_done_iff.1 hdone
    cases hfail
  | succ budget ih =>
    have hinner : Level (Eval.skipOperand budget) := fun _ _ _ _ hinner => (ih hinner).1
    obtain ⟨located, mid, hfirst, hdone⟩ := bind_eq_done_iff.1 hdone
    rw [firstToken_apply] at hfirst
    split at hfirst
    · rename_i hcurrent
      cases hfirst
      rw [bind_of_done (show noteNesting budget frame start = .done () _ from rfl)] at hdone
      have hform := From.skipForm (expression hinner) located (by exact hcurrent) hdone
      exact hform
    · cases hfirst

theorem skipOperand (budget : Nat) : Level (skipOperand budget) :=
  fun _ _ _ _ hdone => (skipOperand_from budget hdone).1

theorem skipExpression (budget : Nat) : Level (skipExpression budget) := expression (skipOperand budget)

end Level

end Rewind.Eval
