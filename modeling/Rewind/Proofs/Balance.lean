import Rewind.Eval.Walk

namespace Rewind.Eval

section Closing

variable {tokens : Array Located} {pos : Nat} {located : Located}

theorem closeFrom_of_open (hcurrent : tokens[pos]? = some located) (hpunct : located.token.isPunct "(")
    (depth : Nat) : closeFrom tokens pos depth = closeFrom tokens (pos + 1) (depth + 1) := by
  obtain ⟨hlt, rfl⟩ := Array.getElem?_eq_some_iff.1 hcurrent
  rw [closeFrom.eq_def tokens pos depth, dif_pos hlt, if_pos hpunct]

theorem not_isPunct_open_of_close {token : Token} (hpunct : token.isPunct ")") :
    ¬ token.isPunct "(" := by
  simp only [Token.isPunct, Bool.and_eq_true, beq_iff_eq] at *
  rintro ⟨_, hopen⟩
  rw [hpunct.2] at hopen
  exact absurd hopen (by decide)

theorem closeFrom_of_close (hcurrent : tokens[pos]? = some located) (hpunct : located.token.isPunct ")") :
    closeFrom tokens pos 0 = some (pos + 1) := by
  obtain ⟨hlt, rfl⟩ := Array.getElem?_eq_some_iff.1 hcurrent
  rw [closeFrom, dif_pos hlt, if_neg (not_isPunct_open_of_close hpunct), if_pos hpunct]

theorem closeFrom_of_close_succ (hcurrent : tokens[pos]? = some located)
    (hpunct : located.token.isPunct ")") (depth : Nat) :
    closeFrom tokens pos (depth + 1) = closeFrom tokens (pos + 1) depth := by
  obtain ⟨hlt, rfl⟩ := Array.getElem?_eq_some_iff.1 hcurrent
  rw [closeFrom.eq_def tokens pos (depth + 1), dif_pos hlt, if_neg (not_isPunct_open_of_close hpunct),
    if_pos hpunct]

theorem closeFrom_of_other (hcurrent : tokens[pos]? = some located)
    (hopen : ¬ located.token.isPunct "(") (hclose : ¬ located.token.isPunct ")") (depth : Nat) :
    closeFrom tokens pos depth = closeFrom tokens (pos + 1) depth := by
  obtain ⟨hlt, rfl⟩ := Array.getElem?_eq_some_iff.1 hcurrent
  rw [closeFrom.eq_def tokens pos depth, dif_pos hlt, if_neg hopen, if_neg hclose]

/-- The closing parenthesis lies after `pos` and inside the buffer. -/
theorem closeFrom_bounds {depth stop : Nat} (hclose : closeFrom tokens pos depth = some stop) :
    pos < stop ∧ stop ≤ tokens.size := by
  fun_induction closeFrom tokens pos depth with
  | case1 pos depth hlt token hopen ih => have := ih hclose; omega
  | case2 pos hlt token hopen hpunct => cases hclose; omega
  | case3 pos hlt token hopen hpunct depth ih => have := ih hclose; omega
  | case4 pos depth hlt token hopen hother ih => have := ih hclose; omega
  | case5 pos depth hlt => cases hclose

/-- Past the end of an inner region, the scan goes on with the levels that are
    still open. -/
private theorem closeFrom_add {depth stop : Nat} (hclose : closeFrom tokens pos depth = some stop) (more : Nat) :
    closeFrom tokens pos (depth + 1 + more) = closeFrom tokens stop more := by
  fun_induction closeFrom tokens pos depth with
  | case1 pos depth hlt token hopen ih =>
    rw [closeFrom_of_open (Array.getElem?_eq_getElem hlt) hopen, ← ih hclose]
    congr 1
    omega
  | case2 pos hlt token hopen hpunct =>
    cases hclose
    rw [show 0 + 1 + more = more + 1 by omega, closeFrom_of_close_succ (Array.getElem?_eq_getElem hlt) hpunct]
  | case3 pos hlt token hopen hpunct depth ih =>
    rw [← ih hclose, show depth + 1 + 1 + more = depth + 1 + more + 1 by omega,
      closeFrom_of_close_succ (Array.getElem?_eq_getElem hlt) hpunct]
  | case4 pos depth hlt token hopen hother ih =>
    rw [closeFrom_of_other (Array.getElem?_eq_getElem hlt) hopen hother, ih hclose]
  | case5 pos depth hlt => cases hclose

/-- A scan that finds no end finds none at a greater depth. -/
private theorem closeFrom_eq_none_add {depth : Nat} (hclose : closeFrom tokens pos depth = none) (more : Nat) :
    closeFrom tokens pos (depth + more) = none := by
  fun_induction closeFrom tokens pos depth with
  | case1 pos depth hlt token hopen ih =>
    rw [closeFrom_of_open (Array.getElem?_eq_getElem hlt) hopen, Nat.add_right_comm]
    exact ih hclose
  | case2 pos hlt token hopen hpunct => cases hclose
  | case3 pos hlt token hopen hpunct depth ih =>
    rw [show depth.succ + more = depth + more + 1 by omega,
      closeFrom_of_close_succ (Array.getElem?_eq_getElem hlt) hpunct]
    exact ih hclose
  | case4 pos depth hlt token hopen hother ih =>
    rw [closeFrom_of_other (Array.getElem?_eq_getElem hlt) hopen hother]
    exact ih hclose
  | case5 pos depth hlt => rw [closeFrom.eq_def, dif_neg hlt]

/-- The end of an outer region is found past the end of an inner one. -/
theorem exists_inner_of_closeFrom {depth stop : Nat} (hclose : closeFrom tokens pos (depth + 1) = some stop) :
    ∃ inner, closeFrom tokens pos 0 = some inner ∧ closeFrom tokens inner depth = some stop := by
  cases hinner : closeFrom tokens pos 0 with
  | some inner =>
    refine ⟨inner, rfl, ?_⟩
    rw [← closeFrom_add hinner depth, Nat.zero_add, Nat.add_comm]
    exact hclose
  | none =>
    have hnone := closeFrom_eq_none_add hinner (depth + 1)
    rw [Nat.zero_add, hclose] at hnone
    cases hnone

end Closing

/-- From the first position on, the second one comes next or later in the same
    buffer, and between them every parenthesis has its partner: a scan for the end
    of a region may start at either of them. -/
structure Balanced (tokens : Array Located) (p q : Nat) : Prop where
  forward : p ≤ q
  inside : p ≤ tokens.size → q ≤ tokens.size
  closes : ∀ depth, closeFrom tokens p depth = closeFrom tokens q depth

namespace Balanced

variable {tokens : Array Located} {p q r : Nat} {located : Located}

theorem refl (tokens : Array Located) (p : Nat) : Balanced tokens p p :=
  ⟨Nat.le_refl p, id, fun _ => rfl⟩

theorem trans (hleft : Balanced tokens p q) (hright : Balanced tokens q r) : Balanced tokens p r where
  forward := Nat.le_trans hleft.forward hright.forward
  inside := hright.inside ∘ hleft.inside
  closes depth := (hleft.closes depth).trans (hright.closes depth)

/-- One token that is no parenthesis. -/
theorem of_other (hcurrent : tokens[p]? = some located) (hopen : ¬ located.token.isPunct "(")
    (hclose : ¬ located.token.isPunct ")") : Balanced tokens p (p + 1) where
  forward := Nat.le_succ p
  inside _ := (Array.getElem?_eq_some_iff.1 hcurrent).1
  closes := closeFrom_of_other hcurrent hopen hclose

theorem of_kind_ne (hcurrent : tokens[p]? = some located) (hkind : located.token.kind ≠ .punct) :
    Balanced tokens p (p + 1) :=
  of_other hcurrent (by simp [Token.isPunct, hkind]) (by simp [Token.isPunct, hkind])

theorem of_punct {lexeme : String} (hcurrent : tokens[p]? = some located)
    (hpunct : located.token.isPunct lexeme) (hopen : lexeme ≠ "(") (hclose : lexeme ≠ ")") :
    Balanced tokens p (p + 1) := by
  simp only [Token.isPunct, Bool.and_eq_true, beq_iff_eq] at hpunct
  exact of_other hcurrent (by simp [Token.isPunct, hpunct.2, hopen])
    (by simp [Token.isPunct, hpunct.2, hclose])

/-- A parenthesised region is balanced as a whole. -/
theorem of_closeFrom (hcurrent : tokens[p]? = some located) (hpunct : located.token.isPunct "(")
    (hclose : closeFrom tokens (p + 1) 0 = some q) : Balanced tokens p q where
  forward := Nat.le_of_succ_le (Nat.le_of_lt (closeFrom_bounds hclose).1)
  inside _ := (closeFrom_bounds hclose).2
  closes depth := by
    rw [closeFrom_of_open hcurrent hpunct, ← closeFrom_add hclose depth, Nat.zero_add, Nat.add_comm depth]

end Balanced

end Rewind.Eval
