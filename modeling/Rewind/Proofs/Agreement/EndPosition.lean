import Rewind.Proofs.Agreement.Forms

namespace Rewind.Eval

namespace Agrees

private theorem noteNesting (budget budget' : Nat) :
    Agrees anyResult (noteNesting budget) (noteNesting budget') := by
  intro frame frame' start start' _ hpos _ after hdone
  cases hdone
  exact ⟨(), _, rfl, hpos.symm, trivial⟩

/-- More levels of nesting do not change where skipping ends. -/
private theorem skipOperand_of_le {budget budget' : Nat} (hle : budget ≤ budget') :
    Agrees anyResult (skipOperand budget) (skipOperand budget') := by
  induction budget generalizing budget' with
  | zero =>
    intro frame frame' start start' _ _ _ after hdone
    obtain ⟨located, mid, _, hfail⟩ := bind_eq_done_iff.1 hdone
    cases hfail
  | succ budget ih =>
    obtain ⟨budget', rfl⟩ : ∃ n, budget' = n + 1 := ⟨budget' - 1, by omega⟩
    refine walks.bind walks.firstToken fun located located' halike => ?_
    refine walks.bind (noteNesting budget budget') fun _ _ _ => walks.skipForm ?_ halike
    exact walks.expression (ih (by omega)) fun _ _ _ => walks.pure trivial

private theorem skipExpression_of_le {budget budget' : Nat} (hle : budget ≤ budget') :
    Agrees anyResult (skipExpression budget) (skipExpression budget') :=
  walks.expression (skipOperand_of_le hle) fun _ _ _ => walks.pure trivial

private theorem combine_skip (op op' : Located) (left right : Value) (left' right' : Unit) :
    Agrees anyResult (ofExcept (combine op left right)) (ofExcept (skipCombine op' left' right')) := by
  cases combine op left right with
  | ok value => exact walks.pure trivial
  | error error => exact fail_any error _

theorem operand (budget : Nat) : Agrees anyResult (operand budget) (skipOperand budget) := by
  induction budget with
  | zero =>
    intro frame frame' start start' _ _ _ after hdone
    obtain ⟨located, mid, _, hfail⟩ := bind_eq_done_iff.1 hdone
    cases hfail
  | succ budget ih =>
    refine walks.bind walks.firstToken fun located located' halike => ?_
    obtain rfl := Likeness.same_located halike
    refine walks.bind (noteNesting budget budget) fun _ _ _ => ?_
    exact form (walks.expression ih fun _ _ _ => combine_skip _ _ _ _ _ _)
      (skipExpression_of_le (Nat.le_refl budget)) (Level.skipExpression budget) located

theorem evaluate (budget : Nat) : Agrees anyResult (evaluate budget) (skipExpression budget) :=
  walks.expression (operand budget) fun _ _ _ => combine_skip _ _ _ _ _ _

/-- The same of a chain of the additive tier alone. -/
private theorem additive (budget : Nat) :
    Agrees anyResult (chain .additive (Eval.operand budget) combine)
      (chain .additive (skipOperand budget) skipCombine) :=
  walks.chain .additive (operand budget) fun _ _ _ => combine_skip _ _ _ _ _ _

end Agrees

/-- Evaluating and skipping share one idea of where a construct ends. With the
    same levels of nesting left, each skipper succeeds wherever its evaluator
    does, at the same end, and parentheses are counted to where a list is
    evaluated to. So two evaluations of one place end alike, whatever they are
    bound to, may consult, have left of their limits, or come back to. -/
theorem skipping_ends_where_evaluating_ends (budget : Nat) :
    Agrees anyResult (evaluate budget) (skipExpression budget) ∧
    Agrees anyResult (chain .additive (operand budget) combine)
      (chain .additive (skipOperand budget) skipCombine) ∧
    Agrees anyResult (operand budget) (skipOperand budget) ∧
    Agrees anyResult (list (evaluate budget)) skipList ∧
    ∀ (budget' : Nat) (frame frame' : Frame) (start start' after after' : Machine) (value value' : Value),
      frame.tokens = frame'.tokens → start.pos = start'.pos →
      evaluate budget frame start = .done value after →
      evaluate budget' frame' start' = .done value' after' → after.pos = after'.pos := by
  refine ⟨.evaluate budget, .additive budget, .operand budget,
    .list (.evaluate budget) (.skipExpression budget), ?_⟩
  intro budget' frame frame' start start' after after' value value' htokens hpos hdone hdone'
  -- both are compared with one skip that has levels enough for either
  have hwide := Agrees.skipExpression_of_le (Nat.le_max_left budget budget')
  have hwide' := Agrees.skipExpression_of_le (Nat.le_max_right budget budget')
  obtain ⟨_, skipped, hskipped, hafter, _⟩ := Agrees.evaluate budget htokens hpos hdone
  obtain ⟨_, skipped', hskipped', hafter', _⟩ := Agrees.evaluate budget' rfl rfl hdone'
  obtain ⟨_, last, hlast, hend, _⟩ := hwide rfl rfl hskipped
  obtain ⟨_, last', hlast', hend', _⟩ := hwide' rfl rfl hskipped'
  have hsame : last = last' := by
    rw [hlast] at hlast'
    cases hlast'
    rfl
  rw [← hafter, ← hend, hsame, hend', hafter']

end Rewind.Eval
