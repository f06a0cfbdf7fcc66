import Rewind.Proofs.Comparison.Forms
import Rewind.Proofs.Step

namespace Rewind

/-- A failure that some limit on calls or on nesting causes. -/
def Error.IsLimit (error : Error) : Prop :=
  ∃ limit, error.cause = .callDepth limit ∨ error.cause = .nestingDepth limit

/-- A failure that these limits cause. -/
def Error.Exceeds (error : Error) (limits : Limits) : Prop :=
  error.cause = .callDepth limits.calls ∨ error.cause = .nestingDepth limits.nesting

namespace Machine

/-- The peaks of the machine lie within the limits. -/
def Within (machine : Machine) (limits : Limits) : Prop :=
  machine.deepestCall ≤ limits.calls ∧ machine.deepestNesting ≤ limits.nesting

/-- The peaks of the machine are at most those of a later one. -/
structure Below (machine later : Machine) : Prop where
  calls : machine.deepestCall ≤ later.deepestCall
  nesting : machine.deepestNesting ≤ later.deepestNesting

theorem Below.refl (machine : Machine) : machine.Below machine := ⟨Nat.le_refl _, Nat.le_refl _⟩

private theorem Below.trans {first second third : Machine} (hleft : first.Below second)
    (hright : second.Below third) : first.Below third :=
  ⟨Nat.le_trans hleft.calls hright.calls, Nat.le_trans hleft.nesting hright.nesting⟩

private theorem Below.within {machine later : Machine} {limits : Limits} (hbelow : machine.Below later)
    (hwithin : later.Within limits) : machine.Within limits :=
  ⟨Nat.le_trans hbelow.calls hwithin.1, Nat.le_trans hbelow.nesting hwithin.2⟩

end Machine

/-- The same frame under other limits, and with other patience. -/
def Frame.under (frame : Frame) (limits : Limits) (patience : Nat) : Frame :=
  { frame with limits, patience }

namespace Eval

/-- What a run that stops at `after` becomes under other limits: the same run if
    its peaks lie within them, and a run that is cut off if they do not. -/
structure CutAt {α : Type} (other : Limits) (start after : Machine) (same actual : Outcome α) : Prop where
  grows : start.Below after
  keeps : after.Within other → actual = same
  stops : start.Within other → ¬ after.Within other →
    ∃ error stop, actual = .failed error stop ∧ error.Exceeds other

/-- `y` under the limits `other` does what `x` does under `limits`, up to where the
    peaks of `x` leave `other`. Nothing is said where `x` itself hits a limit, or
    runs out of patience. -/
def CutOff (limits other : Limits) {α β : Type} (V : α → β → Prop) (x : Eval α) (y : Eval β) : Prop :=
  ∀ (frame : Frame) (patience : Nat) (start : Machine), frame.limits = limits →
    frame.patience ≤ patience →
    match x frame start with
    | .done a after =>
      ∃ b, V a b ∧ CutAt other start after (.done b after) (y (frame.under other patience) start)
    | .failed error after =>
      error.IsLimit ∨ CutAt other start after (.failed error after) (y (frame.under other patience) start)
    | .unfinished => True

/-- A computation that does not depend on limits or patience and leaves the peaks as they
    are. -/
structure Unlimited {α : Type} (x : Eval α) : Prop where
  same : ∀ frame limits patience start, x (frame.under limits patience) start = x frame start
  peaks : ∀ {frame start after}, (x frame start).after? = some after →
    after.deepestCall = start.deepestCall ∧ after.deepestNesting = start.deepestNesting

namespace CutOff

variable {limits other : Limits}

theorem of_unlimited {α : Type} {x : Eval α} (hx : Unlimited x) : CutOff limits other Eq x x := by
  intro frame patience start _ _
  rw [hx.same]
  have hcut {after : Machine} (hafter : (x frame start).after? = some after) (same : Outcome α) :
      CutAt other start after same same := by
    obtain ⟨hcalls, hnesting⟩ := hx.peaks hafter
    refine ⟨⟨Nat.le_of_eq hcalls.symm, Nat.le_of_eq hnesting.symm⟩, fun _ => rfl, ?_⟩
    intro hstart hafter
    rw [Machine.Within, hcalls, hnesting] at hafter
    exact absurd hstart hafter
  cases hdone : x frame start with
  | done a after => exact ⟨a, rfl, hcut (by rw [hdone]; rfl) _⟩
  | failed error after => exact .inr (hcut (by rw [hdone]; rfl) _)
  | unfinished => trivial

theorem weaken {α β : Type} {V W : α → β → Prop} {x : Eval α} {y : Eval β} (hx : CutOff limits other V x y)
    (hVW : ∀ a b, V a b → W a b) : CutOff limits other W x y := by
  intro frame patience start hlimits hpatience
  have hcut := hx frame patience start hlimits hpatience
  cases hdone : x frame start with
  | done a after =>
    rw [hdone] at hcut
    obtain ⟨b, hab, hcut⟩ := hcut
    exact ⟨b, hVW a b hab, hcut⟩
  | failed error after => simpa [hdone] using hcut
  | unfinished => trivial

private theorem bind {α β γ δ : Type} {V : α → β → Prop} {W : γ → δ → Prop} {x : Eval α} {y : Eval β}
    {f : α → Eval γ} {g : β → Eval δ} (hx : CutOff limits other V x y)
    (hf : ∀ a b, V a b → CutOff limits other W (f a) (g b)) : CutOff limits other W (x >>= f) (y >>= g) := by
  intro frame patience start hlimits hpatience
  have hfirst := hx frame patience start hlimits hpatience
  cases hdone : x frame start with
  | unfinished => rw [bind_of_unfinished hdone]; trivial
  | failed error mid =>
    rw [hdone] at hfirst
    rw [bind_of_failed hdone]
    refine hfirst.imp_right fun hcut => ⟨hcut.grows, fun hwithin => bind_of_failed (hcut.keeps hwithin), ?_⟩
    intro hstart hafter
    obtain ⟨error, stop, hstop, hexceeds⟩ := hcut.stops hstart hafter
    exact ⟨error, stop, bind_of_failed hstop, hexceeds⟩
  | done a mid =>
    rw [hdone] at hfirst
    rw [bind_of_done hdone]
    obtain ⟨b, hab, hcut⟩ := hfirst
    have hrest := hf a b hab frame patience mid hlimits hpatience
    -- the second part counts only when the first one has stayed within the limits
    have hboth {after : Machine} {same : Outcome δ}
        (hsecond : CutAt other mid after same (g b (frame.under other patience) mid)) :
        CutAt other start after same ((y >>= g) (frame.under other patience) start) := by
      refine ⟨hcut.grows.trans hsecond.grows, fun hwithin => ?_, fun hstart hafter => ?_⟩
      · rw [bind_of_done (hcut.keeps (hsecond.grows.within hwithin))]
        exact hsecond.keeps hwithin
      · by_cases hmid : mid.Within other
        · rw [bind_of_done (hcut.keeps hmid)]
          exact hsecond.stops hmid hafter
        · obtain ⟨error, stop, hstop, hexceeds⟩ := hcut.stops hstart hmid
          exact ⟨error, stop, bind_of_failed hstop, hexceeds⟩
    cases hlast : f a frame mid with
    | done c after =>
      rw [hlast] at hrest
      obtain ⟨d, hcd, hsecond⟩ := hrest
      exact ⟨d, hcd, hboth hsecond⟩
    | failed error after =>
      rw [hlast] at hrest
      exact hrest.imp_right hboth
    | unfinished => trivial

/-- The same, where the result does not matter. -/
theorem of_unlimited' {α : Type} {x : Eval α} (hx : Unlimited x) : CutOff limits other anyResult x x :=
  (of_unlimited hx).weaken fun _ _ _ => trivial

private theorem skipList_unlimited : Unlimited skipList where
  same frame limits patience start := by
    rw [skipList_apply, skipList_apply]
    rfl
  peaks := by
    intro frame start after hafter
    rw [skipList_apply] at hafter
    split at hafter
    · split at hafter <;> cases hafter <;> exact ⟨rfl, rfl⟩
    · cases hafter
      exact ⟨rfl, rfl⟩

theorem walks : Walks .same (CutOff limits other) where
  pure := by
    intro α β V a b hab frame patience start _ _
    exact ⟨b, hab, .refl _, fun _ => rfl, fun hstart hafter => absurd hstart hafter⟩
  bind := bind
  cursor := of_unlimited ⟨fun _ _ _ _ => rfl, fun hafter => by cases hafter; exact ⟨rfl, rfl⟩⟩
  current := by
    rintro left _ rfl
    exact Likeness.same_current left
  advance := of_unlimited' ⟨fun _ _ _ _ => rfl, fun hafter => by cases hafter; exact ⟨rfl, rfl⟩⟩
  rounds := of_unlimited ⟨fun _ _ _ _ => rfl, fun hafter => by cases hafter; exact ⟨rfl, rfl⟩⟩
  unexpected := by
    intro α β V wanted frame patience start _ _
    exact .inr ⟨.refl _, fun _ => rfl, fun hstart hafter => absurd hstart hafter⟩
  skipList := of_unlimited' skipList_unlimited

end CutOff

end Eval

end Rewind
