import Rewind.Proofs.Balance.Skipping
import Rewind.Proofs.Comparison.Forms

namespace Rewind

namespace Eval

/-- Where `x` succeeds, so does `y` from the same position of the same buffer,
    and both end at the same position. Nothing else of the two frames and
    machines need be the same. -/
def Agrees {α β : Type} (V : α → β → Prop) (x : Eval α) (y : Eval β) : Prop :=
  ∀ ⦃frame frame' : Frame⦄ ⦃start start' : Machine⦄, frame.tokens = frame'.tokens →
    start.pos = start'.pos → ∀ ⦃a after⦄, x frame start = .done a after →
      ∃ b after', y frame' start' = .done b after' ∧ after'.pos = after.pos ∧ V a b

namespace Agrees

variable {α β γ δ : Type} {V : α → β → Prop} {W : γ → δ → Prop}

private theorem bind {x : Eval α} {y : Eval β} {f : α → Eval γ} {g : β → Eval δ} (hx : Agrees V x y)
    (hf : ∀ a b, V a b → Agrees W (f a) (g b)) : Agrees W (x >>= f) (y >>= g) := by
  intro frame frame' start start' htokens hpos c after hdone
  obtain ⟨a, mid, hfirst, hrest⟩ := bind_eq_done_iff.1 hdone
  obtain ⟨b, mid', hfirst', hmid, hab⟩ := hx htokens hpos hfirst
  obtain ⟨d, after', hrest', hafter, hcd⟩ := hf a b hab htokens hmid.symm hrest
  exact ⟨d, after', bind_eq_done_iff.2 ⟨b, mid', hfirst', hrest'⟩, hafter, hcd⟩

theorem walks : Walks .same Agrees where
  pure := by
    intro α β V a b hab frame frame' start start' _ hpos _ after hdone
    cases hdone
    exact ⟨b, start', rfl, hpos.symm, hab⟩
  bind := bind
  cursor := by
    intro frame frame' start start' htokens hpos _ after hdone
    cases hdone
    exact ⟨_, start', rfl, hpos.symm, by rw [htokens, hpos]; rfl⟩
  current := by
    rintro left _ rfl
    exact Likeness.same_current left
  advance := by
    intro frame frame' start start' htokens hpos _ after hdone
    cases hdone
    exact ⟨(), _, rfl, by simp only [htokens, hpos], trivial⟩
  rounds := by
    intro frame frame' start start' htokens hpos _ after hdone
    cases hdone
    exact ⟨_, start', rfl, hpos.symm, by rw [htokens]⟩
  unexpected := by
    intro α β V wanted frame frame' start start' _ _ _ after hfail
    cases hfail
  skipList := by
    intro frame frame' start start' htokens hpos _ after hdone
    rw [skipList_apply] at hdone ⊢
    rw [← htokens, ← hpos]
    split at hdone
    · rename_i hpunct
      split at hdone
      · rename_i pos _
        cases hdone
        exact ⟨(), { start' with pos }, if_pos hpunct, rfl, trivial⟩
      · cases hdone
    · cases hdone

/-- What agrees with something level is level. -/
theorem level {x : Eval α} {y : Eval β} (hagrees : Agrees V x y) (hlevel : Level y) : Level x := by
  intro frame start a after hdone
  obtain ⟨b, after', hdone', hafter, _⟩ := hagrees rfl rfl hdone
  exact hafter ▸ hlevel hdone'

/-- A step of `x` that does not move may come first. -/
theorem after_still {x : Eval α} {f : α → Eval γ} {y : Eval δ} (hx : Agrees anyResult x (pure ()))
    (hf : ∀ a, Agrees W (f a) y) : Agrees W (x >>= f) y :=
  bind (g := fun _ => y) hx fun a _ _ => hf a

/-- A step of `x` that does not move may come last. -/
theorem before_still {x : Eval α} {f : α → Eval γ} {y : Eval Unit} (hx : Agrees anyResult x y)
    (hf : ∀ a, Agrees anyResult (f a) (pure ())) : Agrees anyResult (x >>= f) y := by
  rw [← bind_pure y]
  exact bind hx fun a _ _ => hf a

/-- A region between parentheses with something level inside is what the
    parenthesis count moves past. -/
theorem region {x : Eval α} {f : α → Eval γ} {y : Eval δ} (hx : Level x) (hf : ∀ a, Agrees W (f a) y) :
    Agrees W (do expectPunct "("; let a ← x; expectPunct ")"; f a) (do skipList; y) := by
  intro frame frame' start start' htokens hpos c after hdone
  obtain ⟨_, first, hopen, hdone⟩ := bind_eq_done_iff.1 hdone
  obtain ⟨a, mid, hinside, hdone⟩ := bind_eq_done_iff.1 hdone
  obtain ⟨_, last, hclose, hdone⟩ := bind_eq_done_iff.1 hdone
  rw [expectPunct_apply] at hopen hclose
  split at hopen
  · rename_i hpunct
    cases hopen
    split at hclose
    · rename_i hpunct'
      cases hclose
      obtain ⟨located, hcurrent, hlocated⟩ := isPunct_iff.1 hpunct'
      have hstop : closeFrom frame.tokens (start.pos + 1) 0 = some (mid.pos + 1) :=
        ((hx hinside).closes 0).trans (closeFrom_of_close hcurrent hlocated)
      have hskip : skipList frame' start' = .done () { start' with pos := mid.pos + 1 } := by
        rw [skipList_apply, ← htokens, ← hpos, if_pos hpunct, hstop]
      have hmid : mid.pos + 1 = ({ start' with pos := mid.pos + 1 } : Machine).pos := rfl
      obtain ⟨d, after', hdone', hafter⟩ := hf a htokens hmid hdone
      exact ⟨d, after', (bind_of_done hskip).trans hdone', hafter⟩
    · cases hclose
  · cases hopen

end Agrees

end Eval

end Rewind
