import Rewind.Proofs.Comparison.Forms

namespace Rewind.Eval

/-- The comparison goes through every step of a run under the same limits, so it goes
    through whole programs. -/
structure Runs (like : Likeness) (R : Comparison Eval) : Prop extends Walks like R where
  forms : ∀ {inner inner' : Eval Value} {skip skip' : Eval Unit}, R like.values inner inner' →
    R anyResult skip skip' → Forms like R inner inner' skip skip'
  noteNesting : ∀ budget, R anyResult (noteNesting budget) (noteNesting budget)
  tooNested : ∀ {α β : Type} {V : α → β → Prop} {located located' : Located},
    Located.Alike like.spans located located' → R V (tooNested located) (tooNested located')
  combine : ∀ {op op' : Located} {l l' r r' : Value}, Located.Alike like.spans op op' → like.values l l' →
    like.values r r' → R like.values (ofExcept (combine op l r)) (ofExcept (combine op' l' r'))
  limits : R (fun left right => left.limits = right.limits) frame frame

namespace Runs

variable {like : Likeness} {R : Comparison Eval}

private theorem skipOperand (hruns : Runs like R) (budget : Nat) :
    R anyResult (skipOperand budget) (skipOperand budget) := by
  induction budget with
  | zero => exact hruns.bind hruns.firstToken fun _ _ halike => hruns.tooNested halike
  | succ budget ih =>
    refine hruns.bind hruns.firstToken fun _ _ halike => hruns.bind (hruns.noteNesting budget) fun _ _ _ => ?_
    exact hruns.skipForm (hruns.expression ih fun _ _ _ => hruns.pure trivial) halike

private theorem skipExpression (hruns : Runs like R) (budget : Nat) :
    R anyResult (skipExpression budget) (skipExpression budget) :=
  hruns.expression (hruns.skipOperand budget) fun _ _ _ => hruns.pure trivial

private theorem operand (hruns : Runs like R) (budget : Nat) : R like.values (operand budget) (operand budget) := by
  induction budget with
  | zero => exact hruns.bind hruns.firstToken fun _ _ halike => hruns.tooNested halike
  | succ budget ih =>
    refine hruns.bind hruns.firstToken fun _ _ halike => hruns.bind (hruns.noteNesting budget) fun _ _ _ => ?_
    exact (hruns.forms (hruns.expression ih hruns.combine) (hruns.skipExpression budget)).form halike

private theorem evaluate (hruns : Runs like R) (budget : Nat) : R like.values (evaluate budget) (evaluate budget) :=
  hruns.expression (hruns.operand budget) hruns.combine

theorem program (hruns : Runs like R) : R like.values program program := by
  refine hruns.bind hruns.limits fun outer outer' hlimits => hruns.bind hruns.rounds fun rounds _ hrounds => ?_
  obtain rfl := hrounds
  rw [hlimits]
  have hforms := hruns.forms (hruns.evaluate outer'.limits.nesting) (hruns.skipExpression outer'.limits.nesting)
  exact hforms.programFrom rounds hforms.nil

end Runs

end Rewind.Eval
