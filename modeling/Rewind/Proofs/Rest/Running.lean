import Rewind.Proofs.Rest
import Rewind.Proofs.Rounds

namespace Rewind

/-- A buffer, and the part of it that is also read as a buffer of its own. No
    computation that is compared goes back behind `origin`. -/
structure Stretch where
  tokens : Array Located
  offset : Nat
  origin : Nat
  offset_le : offset ≤ tokens.size

/-- The tokens of the part. -/
def Stretch.rest (stretch : Stretch) : Array Located := restFrom stretch.tokens stretch.offset

/-- Positions in the buffer and in the part that stand for each other. -/
structure Stretch.Positions (stretch : Stretch) (left right : Nat) : Prop where
  shift : left = stretch.offset + right
  above : stretch.origin ≤ left
  inside : left ≤ stretch.tokens.size

/-- Cursors in the buffer and in the part that stand for each other. -/
structure Stretch.Cursors (stretch : Stretch) (left right : Cursor) : Prop where
  tokens : left.tokens = stretch.tokens
  rest : right.tokens = stretch.rest
  positions : stretch.Positions left.pos right.pos

/-- What is the same for a run over the buffer and one over the part. -/
def Stretch.likeness (stretch : Stretch) (landings : Landings) : Likeness where
  spans := Eq
  cursors := stretch.Cursors
  positions := stretch.Positions
  patience := Eq
  values := Value.Rest landings

/-- Every function that a host answers with has its body where bodies may begin. -/
def Hosts.Land (hosts : Hosts) (landings : Landings) : Prop :=
  ∀ host earlier code value, (hosts host).answer earlier code = .ok value → Value.Rest landings value value

/-- Outcomes that stand for each other, by their results and machines. -/
inductive Outcome.Alike {α β : Type} (V : α → β → Prop) (M : Machine → Machine → Prop) :
    Outcome α → Outcome β → Prop where
  | done {a : α} {b : β} {left right : Machine} (hresults : V a b) (hmachines : M left right) :
    Alike V M (.done a left) (.done b right)
  | failed {error error' : Error} {left right : Machine} (herrors : error.Alike error')
    (hmachines : M left right) : Alike V M (.failed error left) (.failed error' right)
  | unfinished : Alike V M .unfinished .unfinished

namespace Eval

/-- Machines over the buffer and over the part that stand for each other. -/
structure Standing (stretch : Stretch) (landings : Landings) (left right : Machine) : Prop where
  rest : left.Rest landings right
  positions : stretch.Positions left.pos right.pos

/-- `y` does over the part of the buffer what `x` does over the whole of it. -/
def Resumes (stretch : Stretch) (landings : Landings) {α β : Type} (V : α → β → Prop) (x : Eval α)
    (y : Eval β) : Prop :=
  ∀ (frame : Frame) (left right : Machine), frame.tokens = stretch.tokens → frame.hosts.Land landings →
    Standing stretch landings left right →
    Outcome.Alike V (Standing stretch landings) (x frame left) (y { frame with tokens := stretch.rest } right)

/-- The part of a buffer closes its regions where the buffer does. -/
private theorem closeFrom_restFrom (tokens : Array Located) (offset pos depth : Nat) :
    closeFrom tokens (offset + pos) depth =
      (closeFrom (restFrom tokens offset) pos depth).map (offset + ·) := by
  fun_induction closeFrom (restFrom tokens offset) pos depth with
  | case1 pos depth hlt token hopen ih =>
    have hcurrent : tokens[offset + pos]? = some (restFrom tokens offset)[pos] := by
      rw [← getElem?_restFrom, Array.getElem?_eq_getElem hlt]
    rw [closeFrom_of_open hcurrent hopen]
    exact ih
  | case2 pos hlt token hopen hpunct =>
    have hcurrent : tokens[offset + pos]? = some (restFrom tokens offset)[pos] := by
      rw [← getElem?_restFrom, Array.getElem?_eq_getElem hlt]
    rw [closeFrom_of_close hcurrent hpunct]
    rfl
  | case3 pos hlt token hopen hpunct depth ih =>
    have hcurrent : tokens[offset + pos]? = some (restFrom tokens offset)[pos] := by
      rw [← getElem?_restFrom, Array.getElem?_eq_getElem hlt]
    rw [closeFrom_of_close_succ hcurrent hpunct]
    exact ih
  | case4 pos depth hlt token hopen hother ih =>
    have hcurrent : tokens[offset + pos]? = some (restFrom tokens offset)[pos] := by
      rw [← getElem?_restFrom, Array.getElem?_eq_getElem hlt]
    rw [closeFrom_of_other hcurrent hopen hother]
    exact ih
  | case5 pos depth hlt =>
    rw [size_restFrom] at hlt
    rw [closeFrom.eq_def, dif_neg (by omega)]
    rfl

namespace Resumes

variable {stretch : Stretch} {landings : Landings} {α β γ δ : Type} {V : α → β → Prop} {W : γ → δ → Prop}

theorem bind {x : Eval α} {y : Eval β} {f : α → Eval γ} {g : β → Eval δ}
    (hx : Resumes stretch landings V x y) (hf : ∀ a b, V a b → Resumes stretch landings W (f a) (g b)) :
    Resumes stretch landings W (x >>= f) (y >>= g) := by
  intro frame left right htokens hhosts hstanding
  have hfirst := hx frame left right htokens hhosts hstanding
  rw [bind_apply, bind_apply]
  generalize x frame left = outcome at hfirst ⊢
  generalize y { frame with tokens := stretch.rest } right = outcome' at hfirst ⊢
  cases hfirst with
  | done hresults hmachines => exact hf _ _ hresults frame _ _ htokens hhosts hmachines
  | failed herrors hmachines => exact .failed herrors hmachines
  | unfinished => exact .unfinished

theorem fail {error error' : Error} (herrors : error.Alike error') :
    Resumes stretch landings V (fail error) (fail error') :=
  fun _ _ _ _ _ hstanding => .failed herrors hstanding

/-- A step that leaves the position alone. -/
theorem update {change change' : Machine → Machine} (hpos : ∀ machine, (change machine).pos = machine.pos)
    (hpos' : ∀ machine, (change' machine).pos = machine.pos)
    (hchange : ∀ {left right : Machine}, left.Rest landings right → (change left).Rest landings (change' right)) :
    Resumes stretch landings anyResult (update change) (update change') := by
  intro frame left right _ _ hstanding
  exact .done trivial ⟨hchange hstanding.rest, by rw [hpos, hpos']; exact hstanding.positions⟩

private theorem current {left right : Cursor} (hcursors : stretch.Cursors left right) :
    left.current? = right.current? := by
  unfold Cursor.current?
  rw [hcursors.tokens, hcursors.rest, Stretch.rest, getElem?_restFrom, hcursors.positions.shift]

private theorem current_alike {left right : Cursor} (hcursors : stretch.Cursors left right) :
    Option.Rel (Located.Alike Eq) left.current? right.current? := by
  rw [current hcursors]
  exact Likeness.same_current right

private theorem cursors_of_standing {frame : Frame} {left right : Machine} (htokens : frame.tokens = stretch.tokens)
    (hstanding : Standing stretch landings left right) :
    stretch.Cursors ⟨frame.tokens, left.pos⟩ ⟨stretch.rest, right.pos⟩ :=
  ⟨htokens, rfl, hstanding.positions⟩

private theorem skipList : Resumes stretch landings anyResult skipList skipList := by
  intro frame left right htokens _ hstanding
  have hcursors := cursors_of_standing htokens hstanding
  have hcurrent : frame.tokens[left.pos]? = stretch.rest[right.pos]? := current hcursors
  have hpositions := hstanding.positions
  rw [skipList_apply, skipList_apply, Cursor.isPunct_eq_of_alike (current_alike hcursors) "(", hcurrent]
  by_cases hopen : (Cursor.mk stretch.rest right.pos).isPunct "("
  · rw [if_pos hopen, if_pos hopen, htokens, hpositions.shift, Nat.add_assoc, closeFrom_restFrom]
    cases hclose : closeFrom (restFrom stretch.tokens stretch.offset) (right.pos + 1) 0 with
    | some pos =>
      obtain ⟨hforward, hinside⟩ := closeFrom_bounds hclose
      rw [size_restFrom] at hinside
      have habove := hpositions.above
      have hshift := hpositions.shift
      have hoffset := stretch.offset_le
      simp only [Stretch.rest, hclose, Option.map_some]
      exact .done trivial ⟨⟨hstanding.rest.env, hstanding.rest.made, hstanding.rest.calls, hstanding.rest.log⟩,
        rfl, by dsimp only; omega, by dsimp only; omega⟩
    | none =>
      have habove := hpositions.above
      have hinside := hpositions.inside
      have hoffset := stretch.offset_le
      simp only [Stretch.rest, hclose, Option.map_none, size_restFrom]
      exact .failed (.refl _) ⟨⟨hstanding.rest.env, hstanding.rest.made, hstanding.rest.calls, hstanding.rest.log⟩,
        by dsimp only; omega, by dsimp only; omega, Nat.le_refl _⟩
  · rw [if_neg hopen, if_neg hopen]
    exact .failed (.refl _) hstanding

private theorem advance : Resumes stretch landings anyResult advance advance := by
  intro frame left right htokens _ hstanding
  have hshift := hstanding.positions.shift
  have habove := hstanding.positions.above
  have hinside := hstanding.positions.inside
  have hoffset := stretch.offset_le
  refine .done trivial ⟨⟨hstanding.rest.env, hstanding.rest.made, hstanding.rest.calls, hstanding.rest.log⟩, ?_⟩
  simp only [Cursor.advance, Cursor.atEnd, htokens, Stretch.rest, size_restFrom, decide_eq_true_eq]
  by_cases hend : stretch.tokens.size ≤ left.pos
  · rw [if_pos hend, if_pos (by omega)]
    exact hstanding.positions
  · rw [if_neg hend, if_neg (by omega)]
    exact ⟨by dsimp only; omega, by dsimp only; omega, by dsimp only; omega⟩

theorem steps : Steps (stretch.likeness landings) (Resumes stretch landings) where
  pure := fun hab _ _ _ _ _ hstanding => .done hab hstanding
  bind := bind
  cursor := fun _ _ _ htokens _ hstanding => .done (cursors_of_standing htokens hstanding) hstanding
  current := current_alike
  advance := advance
  unexpected wanted := by
    intro frame left right htokens _ hstanding
    have hcurrent := current (cursors_of_standing htokens hstanding)
    simp only [unexpected, hcurrent]
    exact .failed (.refl _) hstanding
  skipList := skipList

/-- A loop over tokens may have the bound of the part for the bound of the whole,
    because only the part is left for it. -/
theorem loop {loop : Nat → Eval α} {loop' : Nat → Eval β} (hsettled : Settled loop)
    (hloop : ∀ rounds, Resumes stretch landings V (loop rounds) (loop' rounds)) :
    Resumes stretch landings V (do loop (← rounds)) (do loop' (← rounds)) := by
  intro frame left right htokens hhosts hstanding
  have hshift := hstanding.positions.shift
  have hoffset := stretch.offset_le
  have hbound : loop (frame.tokens.size + 1) frame left = loop (stretch.rest.size + 1) frame left := by
    refine hsettled (by omega) ?_
    rw [htokens, Stretch.rest, size_restFrom]
    omega
  rw [bind_of_done (show rounds frame left = .done (frame.tokens.size + 1) left from rfl), hbound]
  exact hloop _ frame left right htokens hhosts hstanding

section Chain

variable {item : Eval α} {item' : Eval β} {operate : Located → α → α → Except Error α}
  {operate' : Located → β → β → Except Error β}

theorem chain (tier : Tier) (hadvances : Advances item) (hitem : Resumes stretch landings V item item')
    (hoperate : ∀ {op op' l l' r r'}, Located.Alike Eq op op' → V l l' → V r r' →
      Resumes stretch landings V (ofExcept (operate op l r)) (ofExcept (operate' op' l' r'))) :
    Resumes stretch landings V (chain tier item operate) (chain tier item' operate') := by
  refine bind hitem fun first first' hfirst => loop (Settled.chainFrom hadvances first) fun rounds => ?_
  exact steps.chainFrom tier hitem hoperate rounds hfirst

theorem expression (hlevel : Level item) (hadvances : Advances item)
    (hitem : Resumes stretch landings V item item')
    (hoperate : ∀ {op op' l l' r r'}, Located.Alike Eq op op' → V l l' → V r r' →
      Resumes stretch landings V (ofExcept (operate op l r)) (ofExcept (operate' op' l' r'))) :
    Resumes stretch landings V (expression item operate) (expression item' operate') :=
  chain .multiplicative (.chain hlevel hadvances) (chain .additive hadvances hitem hoperate) hoperate

end Chain

theorem list {inner inner' : Eval Value} (hadvances : Advances inner)
    (hinner : Resumes stretch landings (Value.Rest landings) inner inner') :
    Resumes stretch landings (stretch.likeness landings).arrays (list inner) (list inner') := by
  have helements : Resumes stretch landings (stretch.likeness landings).arrays
      (do elementsFrom inner (← rounds) #[]) (do elementsFrom inner' (← rounds) #[]) :=
    loop (Settled.elementsFrom hadvances #[]) fun rounds => steps.elementsFrom hinner rounds .nil
  have hinside := bind helements fun values values' harrays =>
    bind (steps.expectPunct ")") fun _ _ _ => steps.pure harrays
  rw [bind_assoc, bind_assoc] at hinside
  exact bind (steps.expectPunct "(") fun _ _ _ => hinside

theorem params :
    Resumes stretch landings Eq (do paramsFrom (← rounds) #[]) (do paramsFrom (← rounds) #[]) :=
  loop (Settled.paramsFrom #[]) fun rounds => steps.paramsFrom rounds #[]

/-- Where a body begins outside of its buffer there is no list. -/
theorem list_of_outside {inner : Eval Value} {frame : Frame} {start : Machine}
    (houtside : frame.tokens.size ≤ start.pos) :
    Eval.list inner frame start = .failed (.expected (.punct "(") none) start := by
  have hcurrent : frame.tokens[start.pos]? = none := Array.getElem?_eq_none houtside
  have hopen : expectPunct "(" frame start = .failed (.expected (.punct "(") none) start := by
    rw [expectPunct_apply, hcurrent, if_neg]
    rw [isPunct_iff, hcurrent]
    rintro ⟨_, hnone, _⟩
    cases hnone
  exact bind_of_failed hopen

end Resumes

end Eval

end Rewind
