import Rewind.Proofs.Comparison.Loops
import Rewind.Proofs.Limits.Peaks

namespace Rewind

namespace Eval

/-- Takes rounds until one of them has a result. Their number has no bound of its own: the
    run is given up when `patience` runs out. -/
def untilDone {α : Type} (round : α → Eval (α ⊕ α)) : (patience : Nat) → α → Eval α
  | 0, _ => giveUp
  | patience + 1, a => round a >>= Sum.elim (untilDone round patience) pure

/-- Loops over tokens that go on for as long as there is a reason to, like the loops of the
    language. They take their patience from the frame. -/
def Loop.unbounded : Loop Eval where
  take round a := do untilDone round (← frame).patience a

namespace Unbounded

/-- The parts of an evaluator without a bound on any of its loops. -/
def parts (inner : Eval Value) (skip : Eval Unit) : Parts Eval where
  inner
  skip
  list := Loop.unbounded.list inner
  params := Loop.unbounded.params
  invoke := invokeBy (inBuffer · (Loop.unbounded.list inner))

def operand : (budget : Nat) → Eval Value
  | 0 => do tooNested (← firstToken)
  | budget + 1 => do
    let located ← firstToken
    noteNesting budget
    (parts (Loop.unbounded.expression (operand budget) combine) (Loop.unbounded.skipExpression budget)).form located

def program : Eval Value := do
  Loop.unbounded.program (Loop.unbounded.expression (operand (← frame).limits.nesting) combine)

end Unbounded

end Eval

/-- Two outcomes that are there, and are alike. The machine that is left is the same, and `I`
    holds of it. -/
inductive Outcome.Ends (I : Machine → Prop) {α β : Type} (V : α → β → Prop) : Outcome α → Outcome β → Prop where
  | done {a : α} {b : β} {after : Machine} (hresults : V a b) (hafter : I after) :
    Ends I V (.done a after) (.done b after)
  | failed (error : Error) {after : Machine} (hafter : I after) :
    Ends I V (.failed error after) (.failed error after)

namespace Eval

variable {I : Machine → Prop} {α β γ δ : Type} {V : α → β → Prop} {W : γ → δ → Prop} {frame frame' : Frame}
  {start : Machine}

theorem bind_ends {x : Eval α} {y : Eval β} {f : α → Eval γ} {g : β → Eval δ}
    (hx : (x frame start).Ends I V (y frame' start))
    (hf : ∀ a b mid, y frame' start = .done b mid → V a b → I mid → (f a frame mid).Ends I W (g b frame' mid)) :
    ((x >>= f) frame start).Ends I W ((y >>= g) frame' start) := by
  rw [bind_apply, bind_apply]
  generalize x frame start = left at hx
  generalize hright : y frame' start = right at hx hf
  cases hx with
  | done hresults hafter => exact hf _ _ _ rfl hresults hafter
  | failed error hafter => exact .failed error hafter

/-- Of each round it is enough to know that it ends. A round that has another one after it
    has moved on, so no more of them are taken than there are tokens left: neither patience nor
    the bound is used up. -/
theorem take_ends {round : α → Eval (α ⊕ α)} {round' : β → Eval (β ⊕ β)} (hprogress : Progresses round')
    (hround : ∀ a b start, V a b → I start → (round a frame start).Ends I (Sum.LiftRel V V) (round' b frame' start))
    (hstart : I start) {a : α} {b : β} (hab : V a b) (hpatience : frame'.tokens.size < frame.patience) :
    (Loop.unbounded.take round a frame start).Ends I V (Loop.bounded.take round' b frame' start) := by
  have hrounds {start : Machine} (hstart : I start) {a : α} {b : β} (hab : V a b) {m n : Nat}
      (hm : frame'.tokens.size - start.pos < m) (hn : frame'.tokens.size - start.pos < n) :
      (untilDone round m a frame start).Ends I V (within round' n b frame' start) := by
    induction m generalizing n a b start with
    | zero => omega
    | succ m ih =>
      obtain ⟨n, rfl⟩ : ∃ k, n = k + 1 := ⟨n - 1, by omega⟩
      refine bind_ends (hround a b start hab hstart) ?_
      rintro _ _ mid hdone (hnext | hresults) hmid
      · have hmoved := hprogress hdone
        exact ih hmid hnext (by omega) (by omega)
      · exact .done hresults hmid
  exact hrounds hstart hab (by omega) (by omega)

end Eval

/-- The run, with no bound on any loop but patience. There is no result when it runs out. -/
def Interpreter.unbounded (interpreter : Interpreter) (hosts : Hosts) (patience : Nat) :
    Option (Except Error Value × Interpreter) :=
  interpreter.report (Eval.Unbounded.program (interpreter.frame hosts patience) interpreter.machine)

end Rewind
