import Rewind.Proofs.Parallel

namespace Rewind.Eval

section Between

variable {α : Type} {x : Eval α} {frame : Frame} {start : Machine}

/-- What a computation between parentheses does after the opening one. -/
theorem between_of_open {located : Located} (hcurrent : frame.tokens[start.pos]? = some located)
    (hopen : located.token.isPunct "(" = true) :
    between x frame start = (x >>= fun a => expectPunct ")" >>= fun _ => pure a) frame
      { start with pos := start.pos + 1 } := by
  unfold between
  have hfirst : expectPunct "(" frame start = .done () { start with pos := start.pos + 1 } := by
    rw [expectPunct_apply, Cursor.isPunct_of_current hcurrent, if_pos hopen]
  exact bind_of_done hfirst

theorem between_of_not_open (hopen : (Cursor.mk frame.tokens start.pos).isPunct "(" = false) :
    between x frame start = .failed (.expected (.punct "(") frame.tokens[start.pos]?) start := by
  unfold between
  have hfirst : expectPunct "(" frame start = .failed (.expected (.punct "(") frame.tokens[start.pos]?) start := by
    rw [expectPunct_apply, hopen]
    rfl
  exact bind_of_failed hfirst

/-- A region that is read to its end has one. -/
theorem closeFrom_of_between {a : α} {after : Machine} (hlevel : Level x)
    (hdone : between x frame start = .done a after) :
    closeFrom frame.tokens (start.pos + 1) 0 = some after.pos := by
  have hregion := Agrees.region hlevel fun a => (Agrees.walks.pure trivial : Agrees anyResult (pure a) (pure ()))
  obtain ⟨_, after', hskip, hafter, _⟩ := hregion rfl rfl hdone
  obtain ⟨_, mid, hskip, hmid⟩ := bind_eq_done_iff.1 hskip
  cases hmid
  rw [skipList_apply] at hskip
  split at hskip
  · split at hskip
    · rename_i hclose
      cases hskip
      rw [hclose, ← hafter]
    · cases hskip
  · cases hskip

end Between

namespace Parallel

variable {h : Alignment} {α β : Type} {V : α → β → Prop} {x : Eval α} {y : Eval β}

/-- Two regions, read side by side up to a parenthesis that ends both. -/
private theorem between_matched {M : Machine → Machine → Prop} (hboth : ¬ h.oneWay) (hinside : Parallel h V x y)
    (frame : Frame) {left right : Machine} (halike : left.Alike right)
    (hopen : (Cursor.mk h.left left.pos).isPunct "(" = true)
    (hopen' : (Cursor.mk h.right right.pos).isPunct "(" = true)
    (hpaired : h.paired (left.pos + 1) (right.pos + 1))
    (hclosing : ∀ {a mid mid' located},
      x { frame with tokens := h.left } { left with pos := left.pos + 1 } = .done a mid → Aligned h mid mid' →
        h.left[mid.pos]? = some located → located.token.isPunct ")" = true →
          M { mid with pos := mid.pos + 1 } { mid' with pos := mid'.pos + 1 }) :
    Outcome.Matched False V M (Eval.between x { frame with tokens := h.left } left)
      (Eval.between y { frame with tokens := h.right } right) := by
  obtain ⟨_, hcurrent, hopen⟩ := isPunct_iff.1 hopen
  obtain ⟨_, hcurrent', hopen'⟩ := isPunct_iff.1 hopen'
  rw [between_of_open hcurrent hopen, between_of_open hcurrent' hopen', bind_apply, bind_apply]
  have hmatched := hinside frame { left with pos := left.pos + 1 } { right with pos := right.pos + 1 }
    ⟨halike.moved _ _, hpaired⟩
  generalize hdone : x { frame with tokens := h.left } _ = outcome at hmatched ⊢
  generalize y { frame with tokens := h.right } _ = outcome' at hmatched ⊢
  cases hmatched with
  | failed hmachines => exact .failed hmachines
  | unfinished => exact .unfinished
  | lost hway => exact absurd hway hboth
  | @done a b mid mid' hresults hmachines =>
    dsimp only
    rw [bind_apply, bind_apply, expectPunct_apply, expectPunct_apply]
    dsimp only
    cases h.pair hmachines.paired with
    | beyond _ _ hway => exact absurd hway hboth
    | ended hleft hright =>
      rw [Cursor.isPunct_of_ended hleft, Cursor.isPunct_of_ended hright]
      exact .failed hmachines.alike
    | @token located _ hleft hright htoken =>
      rw [Cursor.isPunct_of_current hleft, Cursor.isPunct_of_current hright, ← htoken]
      by_cases hpunct : located.token.isPunct ")" = true
      · rw [if_pos hpunct, if_pos hpunct]
        exact .done hresults (hclosing hdone hmachines hleft hpunct)
      · rw [if_neg hpunct, if_neg hpunct]
        exact .failed hmachines.alike

/-- A region with the same tokens on both sides, read by computations that are parallel
    wherever both ways count. -/
theorem between_of_region (hinside : ∀ h : Alignment, ¬ h.oneWay → Parallel h V x y) (frame : Frame)
    {left right : Machine} (halike : left.Alike right) {tokens tokens' : Array Located} {n : Nat}
    (hopen : (Cursor.mk tokens left.pos).isPunct "(" = true)
    (hopen' : (Cursor.mk tokens' right.pos).isPunct "(" = true)
    (hclose : closeFrom tokens (left.pos + 1) 0 = some (left.pos + 1 + n))
    (hsame : SameTokens tokens tokens' (left.pos + 1) (right.pos + 1) n) :
    Outcome.Matched False V
      (fun after after' => after.Alike after' ∧ after.pos = left.pos + 1 + n ∧ after'.pos = right.pos + 1 + n)
      (Eval.between x { frame with tokens := tokens } left)
        (Eval.between y { frame with tokens := tokens' } right) := by
  let h := Alignment.inside tokens tokens' (left.pos + 1 + n) (right.pos + 1 + n)
  have hpaired : h.paired (left.pos + 1) (right.pos + 1) := by
    refine ⟨hclose, by omega, ?_⟩
    rw [Nat.add_sub_cancel_left]
    exact hsame
  refine between_matched (h := h) id (hinside h id) frame halike hopen hopen' hpaired ?_
  intro a mid mid' located _ hmachines hleft hpunct
  -- the parenthesis that ends the elements is the one that closes the region
  have hleft : tokens[mid.pos]? = some located := hleft
  obtain ⟨hstop, hstop', _⟩ := hmachines.paired
  rw [closeFrom_of_close hleft hpunct] at hstop
  injection hstop with hstop
  exact ⟨hmachines.alike.moved _ _, hstop, by dsimp only; omega⟩

/-- A region that has no end is never read to one. -/
private theorem between_of_unclosed (hinside : ∀ h : Alignment, ¬ h.oneWay → Parallel h V x y) (hlevel : Level x)
    (frame : Frame) {left right : Machine} (halike : left.Alike right) {tokens tokens' : Array Located}
    {M : Machine → Machine → Prop} (hopen : (Cursor.mk tokens left.pos).isPunct "(" = true)
    (hopen' : (Cursor.mk tokens' right.pos).isPunct "(" = true)
    (hclose : closeFrom tokens (left.pos + 1) 0 = none)
    (hsame : ∀ n, SameTokens tokens tokens' (left.pos + 1) (right.pos + 1) n) :
    Outcome.Matched False V M (Eval.between x { frame with tokens := tokens } left)
      (Eval.between y { frame with tokens := tokens' } right) := by
  let h := Alignment.whole tokens tokens'
  refine between_matched (h := h) id (hinside h id) frame halike hopen hopen' hsame ?_
  intro a mid mid' located hdone _ hleft hpunct
  have hleft : tokens[mid.pos]? = some located := hleft
  have hstop : closeFrom tokens (left.pos + 1) 0 = closeFrom tokens mid.pos 0 := (hlevel hdone).closes 0
  rw [hclose, closeFrom_of_close hleft hpunct] at hstop
  cases hstop

theorem between (hinside : ∀ h : Alignment, ¬ h.oneWay → Parallel h V x y) (hlevel : Level x) :
    Parallel h V (between x) (between y) := by
  intro frame left right haligned
  have hopening := h.opening_eq haligned.paired
  cases hopen : (Cursor.mk h.left left.pos).isPunct "(" with
  | false =>
    rw [between_of_not_open hopen, between_of_not_open (hopening ▸ hopen)]
    exact .failed haligned.alike
  | true =>
    have hopen' := hopening ▸ hopen
    obtain ⟨located, hcurrent, hpunct⟩ := isPunct_iff.1 hopen
    rcases h.region haligned.paired hcurrent hpunct with ⟨n, hclose, hsame, hpaired⟩ | ⟨hclose, hway | hsame⟩
    · refine (between_of_region hinside frame haligned.alike hopen hopen' hclose hsame).mono ?_
      rintro after after' ⟨halike, hpos, hpos'⟩
      exact ⟨halike, by rw [hpos, hpos']; exact hpaired⟩
    · refine .lost hway fun a after hdone => ?_
      have hstop := closeFrom_of_between hlevel hdone
      rw [hclose] at hstop
      cases hstop
    · exact (between_of_unclosed hinside hlevel frame haligned.alike hopen hopen' hclose hsame).mono id

/-- Both sides move past a region, and past the same tokens where it closes. -/
private theorem skipList_matched (frame : Frame) {left right : Machine} (haligned : Aligned h left right)
    (hopen : (Cursor.mk h.left left.pos).isPunct "(" = true) :
    Outcome.Matched h.oneWay (fun _ _ => (Cursor.mk h.left left.pos).Alike (Cursor.mk h.right right.pos)) (Aligned h)
      (skipList { frame with tokens := h.left } left) (skipList { frame with tokens := h.right } right) := by
  have hopen' := h.opening_eq haligned.paired ▸ hopen
  rw [skipList_apply, skipList_apply]
  dsimp only
  rw [if_pos hopen, if_pos hopen']
  obtain ⟨located, hcurrent, hpunct⟩ := isPunct_iff.1 hopen
  rcases h.region haligned.paired hcurrent hpunct with ⟨n, hclose, hsame, hpaired⟩ | ⟨hclose, hway | hsame⟩
  · have hclose' : closeFrom h.right (right.pos + 1) 0 = some (right.pos + 1 + n) := by
      have hright := SameTokens.closeFrom hclose (by rw [Nat.add_sub_cancel_left]; exact hsame)
      rw [Nat.add_sub_cancel_left] at hright
      exact hright
    rw [hclose, hclose']
    exact .done (.list hopen hopen' hclose hsame) ⟨haligned.alike.moved _ _, hpaired⟩
  · rw [hclose]
    exact .lost hway fun _ _ heq => by cases heq
  · rw [hclose, SameTokens.closeFrom_eq_none hsame hclose]
    exact .failed (haligned.alike.moved _ _)

private theorem skipList : Parallel h anyResult skipList skipList := by
  intro frame left right haligned
  have hopening := h.opening_eq haligned.paired
  cases hopen : (Cursor.mk h.left left.pos).isPunct "(" with
  | false =>
    rw [skipList_apply, skipList_apply]
    dsimp only
    rw [← hopening, hopen]
    exact .failed haligned.alike
  | true =>
    have hmatched := skipList_matched frame haligned hopen
    generalize Eval.skipList _ left = outcome at hmatched ⊢
    generalize Eval.skipList _ right = outcome' at hmatched ⊢
    cases hmatched with
    | done _ hmachines => exact .done trivial hmachines
    | failed hmachines => exact .failed hmachines
    | unfinished => exact .unfinished
    | lost hway hlost => exact .lost hway hlost

/-- A body that is taken begins alike on both sides: it is a region that closes, or
    there is none. -/
theorem takeBody (name : String) (params : List String) :
    Parallel h anyResult (takeBody name params) (takeBody name params) := by
  intro frame left right haligned
  have hdefine {left' right' : Machine} (hbody : (Cursor.mk h.left left.pos).Alike ⟨h.right, right.pos⟩)
      (haligned' : Aligned h left' right') :
      Aligned h (left'.define name params ⟨h.left, left.pos⟩) (right'.define name params ⟨h.right, right.pos⟩) :=
    ⟨haligned'.alike.define name params hbody, haligned'.paired⟩
  have hopening := h.opening_eq haligned.paired
  unfold Eval.takeBody
  rw [bind_apply, bind_apply]
  dsimp only [cursor]
  cases hopen : (Cursor.mk h.left left.pos).isPunct "(" with
  | false =>
    rw [← hopening, hopen, if_neg (by simp), if_neg (by simp)]
    exact .done trivial (hdefine (.neither hopen (hopening ▸ hopen)) haligned)
  | true =>
    rw [← hopening, hopen, if_pos rfl, if_pos rfl]
    exact bind_matched (skipList_matched frame haligned hopen) fun hbody haligned' =>
      .done trivial (hdefine hbody haligned')

theorem guards : Guards (likeness h) (Parallel h) where
  pure := pure
  bind := bind
  expectPunct := expectPunct
  expectName := expectName
  tryElse := tryElse
  operator := operator
  skipList := skipList
  opening := opening

/-- Where both ways count, lists end alike. -/
theorem lists (hboth : ¬ h.oneWay) : Lists (likeness h) (Parallel h) where
  pure := pure
  bind := bind
  expectName := expectName
  closing hyes hno := by
    intro frame left right haligned
    rw [bind_apply, bind_apply]
    dsimp only [liftM_eval, cursor]
    have hclosing : ((Cursor.mk h.left left.pos).atEnd || (Cursor.mk h.left left.pos).isPunct ")") =
        ((Cursor.mk h.right right.pos).atEnd || (Cursor.mk h.right right.pos).isPunct ")") := by
      cases h.pair haligned.paired with
      | token hleft hright htoken =>
        have hlt := (Array.getElem?_eq_some_iff.1 hleft).1
        have hlt' := (Array.getElem?_eq_some_iff.1 hright).1
        rw [Cursor.isPunct_of_current hleft, Cursor.isPunct_of_current hright, htoken]
        simp [Cursor.atEnd, Nat.not_le.2 hlt, Nat.not_le.2 hlt']
      | ended hleft hright =>
        have hend := Array.getElem?_eq_none_iff.1 hleft
        have hend' := Array.getElem?_eq_none_iff.1 hright
        simp [Cursor.atEnd, hend, hend']
      | beyond _ _ hway => exact absurd hway hboth
    rw [hclosing]
    split
    · exact hyes frame left right haligned
    · exact hno frame left right haligned
  comma hyes hno := by
    intro frame left right haligned
    rw [bind_apply, bind_apply]
    dsimp only [liftM_eval, cursor]
    cases h.pair haligned.paired with
    | token hleft hright htoken =>
      rw [Cursor.isPunct_of_current hleft, Cursor.isPunct_of_current hright, ← htoken]
      split
      · rename_i hpunct
        rw [bind_of_done (advance_of_current hleft), bind_of_done (advance_of_current hright)]
        exact hyes frame _ _ (haligned.stepPunct hleft hpunct (by decide) (by decide))
      · exact hno frame left right haligned
    | ended hleft hright =>
      rw [Cursor.isPunct_of_ended hleft, Cursor.isPunct_of_ended hright]
      exact hno frame left right haligned
    | beyond _ _ hway => exact absurd hway hboth

/-- A loop over tokens may have the bound of either buffer. -/
theorem loop {loop : Nat → Eval α} {loop' : Nat → Eval β} (hsettled : Settled loop) (hsettled' : Settled loop')
    (hloop : ∀ rounds, Parallel h V (loop rounds) (loop' rounds)) :
    Parallel h V (do loop (← rounds)) (do loop' (← rounds)) := by
  intro frame left right haligned
  let bound := max h.left.size h.right.size + 1
  have hleft : loop (h.left.size + 1) { frame with tokens := h.left } left =
      loop bound { frame with tokens := h.left } left :=
    hsettled (by dsimp only; omega) (by dsimp only [bound]; omega)
  have hright : loop' (h.right.size + 1) { frame with tokens := h.right } right =
      loop' bound { frame with tokens := h.right } right :=
    hsettled' (by dsimp only; omega) (by dsimp only [bound]; omega)
  rw [bind_apply, bind_apply]
  dsimp only [rounds]
  rw [hleft, hright]
  exact hloop bound frame left right haligned

end Parallel

end Rewind.Eval
