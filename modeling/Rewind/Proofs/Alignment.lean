import Rewind.Proofs.Balance

namespace Rewind

/-- The next `n` tokens from two positions on are the same, or are missing at both. -/
def SameTokens (left right : Array Located) (l r n : Nat) : Prop :=
  ∀ k < n, left[l + k]?.map (·.token) = right[r + k]?.map (·.token)

namespace SameTokens

variable {left right : Array Located} {l r n : Nat}

theorem refl (tokens : Array Located) (p n : Nat) : SameTokens tokens tokens p p n := fun _ _ => rfl

private theorem symm (hsame : SameTokens left right l r n) : SameTokens right left r l n :=
  fun k hk => (hsame k hk).symm

private theorem mono {m : Nat} (hsame : SameTokens left right l r n) (hle : m ≤ n) : SameTokens left right l r m :=
  fun k hk => hsame k (Nat.lt_of_lt_of_le hk hle)

theorem drop (hsame : SameTokens left right l r n) (m : Nat) :
    SameTokens left right (l + m) (r + m) (n - m) := by
  intro k hk
  rw [Nat.add_assoc, Nat.add_assoc]
  exact hsame (m + k) (by omega)

theorem current (hsame : SameTokens left right l r n) (hpositive : 0 < n) :
    left[l]?.map (·.token) = right[r]?.map (·.token) :=
  hsame 0 hpositive

theorem exists_current (hsame : SameTokens left right l r n) (hpositive : 0 < n) {located : Located}
    (hcurrent : left[l]? = some located) :
    ∃ located', right[r]? = some located' ∧ located.token = located'.token := by
  have htokens := hsame.current hpositive
  rw [hcurrent] at htokens
  obtain ⟨located', hcurrent', htoken⟩ := Option.map_eq_some_iff.1 htokens.symm
  exact ⟨located', hcurrent', htoken.symm⟩

private theorem current_eq_none (hsame : SameTokens left right l r n) (hpositive : 0 < n) (hcurrent : left[l]? = none) :
    right[r]? = none := by
  have htokens := hsame.current hpositive
  rw [hcurrent] at htokens
  exact Option.map_eq_none_iff.1 htokens.symm

/-- The same tokens close at the same distance. -/
theorem closeFrom {depth stop : Nat} (hclose : Eval.closeFrom left l depth = some stop)
    (hsame : SameTokens left right l r (stop - l)) : Eval.closeFrom right r depth = some (r + (stop - l)) := by
  revert r
  fun_induction Eval.closeFrom left l depth with
  | case1 l depth hlt token hopen ih =>
    intro r hsame
    have hbounds := Eval.closeFrom_bounds hclose
    obtain ⟨_, hcurrent', htoken⟩ := hsame.exists_current (by omega) (Array.getElem?_eq_getElem hlt)
    rw [Eval.closeFrom_of_open hcurrent' (htoken ▸ hopen), ih hclose (hsame.drop 1)]
    congr 1
    omega
  | case2 l hlt token hopen hpunct =>
    intro r hsame
    cases hclose
    obtain ⟨_, hcurrent', htoken⟩ := hsame.exists_current (by omega) (Array.getElem?_eq_getElem hlt)
    rw [Eval.closeFrom_of_close hcurrent' (htoken ▸ hpunct)]
    congr 1
    omega
  | case3 l hlt token hopen hpunct depth ih =>
    intro r hsame
    have hbounds := Eval.closeFrom_bounds hclose
    obtain ⟨_, hcurrent', htoken⟩ := hsame.exists_current (by omega) (Array.getElem?_eq_getElem hlt)
    rw [Eval.closeFrom_of_close_succ hcurrent' (htoken ▸ hpunct), ih hclose (hsame.drop 1)]
    congr 1
    omega
  | case4 l depth hlt token hopen hother ih =>
    intro r hsame
    have hbounds := Eval.closeFrom_bounds hclose
    obtain ⟨_, hcurrent', htoken⟩ := hsame.exists_current (by omega) (Array.getElem?_eq_getElem hlt)
    rw [Eval.closeFrom_of_other hcurrent' (htoken ▸ hopen) (htoken ▸ hother), ih hclose (hsame.drop 1)]
    congr 1
    omega
  | case5 l depth hlt => cases hclose

/-- Where everything that follows is the same, an end that is missing in one buffer is
    missing in the other. -/
theorem closeFrom_eq_none {depth : Nat} (hsame : ∀ n, SameTokens left right l r n)
    (hclose : Eval.closeFrom left l depth = none) : Eval.closeFrom right r depth = none := by
  cases hright : Eval.closeFrom right r depth with
  | none => rfl
  | some stop =>
    rw [SameTokens.closeFrom hright (hsame _).symm] at hclose
    cases hclose

end SameTokens

/-- A token that cannot continue the expression before it: no operator, no `else` and no
    opening parenthesis. -/
structure Token.Fresh (token : Token) : Prop where
  operator : token.kind ≠ .operator
  keyword : token.keyword? ≠ some .otherwise
  opening : token.isPunct "(" = false

/-- Positions of two buffers that are paired because the same tokens follow them. Those past a
    token that is no parenthesis are paired again, and so are those past a region that closes. -/
structure Alignment where
  left : Array Located
  right : Array Located
  paired : Nat → Nat → Prop
  /-- Only what succeeds in the left buffer counts, because the right one goes on after
      the end of the left one. -/
  oneWay : Prop
  current : ∀ {l r located}, paired l r → left[l]? = some located →
    ∃ located', right[r]? = some located' ∧ located.token = located'.token
  ended : ∀ {l r}, paired l r → left[l]? = none →
    right[r]? = none ∨ oneWay ∧ ∀ located, right[r]? = some located → located.token.Fresh
  step : ∀ {l r located}, paired l r → left[l]? = some located → ¬ located.token.isPunct "(" →
    ¬ located.token.isPunct ")" → paired (l + 1) (r + 1)
  region : ∀ {l r located}, paired l r → left[l]? = some located → located.token.isPunct "(" →
    (∃ n, Eval.closeFrom left (l + 1) 0 = some (l + 1 + n) ∧ SameTokens left right (l + 1) (r + 1) n ∧
      paired (l + 1 + n) (r + 1 + n)) ∨
    Eval.closeFrom left (l + 1) 0 = none ∧ (oneWay ∨ ∀ n, SameTokens left right (l + 1) (r + 1) n)

namespace Alignment

/-- Everything that follows is the same, up to the ends of both buffers. -/
def whole (left right : Array Located) : Alignment where
  left
  right
  paired l r := ∀ n, SameTokens left right l r n
  oneWay := False
  current hpaired hcurrent := (hpaired 1).exists_current Nat.one_pos hcurrent
  ended hpaired hcurrent := .inl ((hpaired 1).current_eq_none Nat.one_pos hcurrent)
  step hpaired _ _ _ n := (hpaired (n + 1)).drop 1
  region := by
    intro l r located hpaired hcurrent _
    have hnext (n : Nat) : SameTokens left right (l + 1) (r + 1) n := (hpaired (n + 1)).drop 1
    cases hclose : Eval.closeFrom left (l + 1) 0 with
    | none => exact .inr ⟨rfl, .inr hnext⟩
    | some stop =>
      have hbounds := Eval.closeFrom_bounds hclose
      obtain ⟨n, rfl⟩ : ∃ n, stop = l + 1 + n := ⟨stop - (l + 1), by omega⟩
      refine .inl ⟨n, rfl, hnext n, fun m => ?_⟩
      have hrest := (hnext (m + n)).drop n
      rw [Nat.add_sub_cancel] at hrest
      exact hrest

/-- The same up to the parenthesis that closes a region. `stop` and `stop'` are the
    positions after it. -/
def inside (left right : Array Located) (stop stop' : Nat) : Alignment where
  left
  right
  paired l r := Eval.closeFrom left l 0 = some stop ∧ stop' = r + (stop - l) ∧
    SameTokens left right l r (stop - l)
  oneWay := False
  current := by
    rintro l r located ⟨hclose, _, hsame⟩ hcurrent
    have hbounds := Eval.closeFrom_bounds hclose
    exact hsame.exists_current (by omega) hcurrent
  ended := by
    rintro l r ⟨hclose, _, _⟩ hcurrent
    have hbounds := Eval.closeFrom_bounds hclose
    have hend := Array.getElem?_eq_none_iff.1 hcurrent
    omega
  step := by
    rintro l r located ⟨hclose, hstop, hsame⟩ hcurrent hopen hother
    have hrest : Eval.closeFrom left (l + 1) 0 = some stop := by
      rw [← Eval.closeFrom_of_other hcurrent hopen hother]
      exact hclose
    have hbounds := Eval.closeFrom_bounds hrest
    exact ⟨hrest, by omega, hsame.drop 1⟩
  region := by
    rintro l r located ⟨hclose, hstop, hsame⟩ hcurrent hopen
    rw [Eval.closeFrom_of_open hcurrent hopen] at hclose
    obtain ⟨inner, hinner, houter⟩ := Eval.exists_inner_of_closeFrom hclose
    have hbounds := Eval.closeFrom_bounds hinner
    have hbounds' := Eval.closeFrom_bounds houter
    obtain ⟨n, rfl⟩ : ∃ n, inner = l + 1 + n := ⟨inner - (l + 1), by omega⟩
    have hrest : SameTokens left right (l + 1) (r + 1) (stop - (l + 1)) := hsame.drop 1
    refine .inl ⟨n, hinner, hrest.mono (by omega), houter, by omega, ?_⟩
    rw [Nat.sub_add_eq]
    exact hrest.drop n

/-- The left buffer is a prefix of the right one, and the next token of the right one cannot
    continue an expression. -/
def seam (left right : Array Located) (hsame : SameTokens left right 0 0 left.size)
    (hfresh : ∀ located, right[left.size]? = some located → located.token.Fresh) : Alignment where
  left
  right
  paired l r := l = r ∧ l ≤ left.size
  oneWay := True
  current := by
    rintro l _ located ⟨rfl, _⟩ hcurrent
    have hlt : l < left.size := (Array.getElem?_eq_some_iff.1 hcurrent).1
    have hrest := hsame.drop l
    rw [Nat.zero_add] at hrest
    exact hrest.exists_current (by omega) hcurrent
  ended := by
    rintro l _ ⟨rfl, hle⟩ hcurrent
    have hend := Array.getElem?_eq_none_iff.1 hcurrent
    obtain rfl : l = left.size := by omega
    exact .inr ⟨trivial, hfresh⟩
  step := by
    rintro l _ located ⟨rfl, _⟩ hcurrent _ _
    exact ⟨rfl, (Array.getElem?_eq_some_iff.1 hcurrent).1⟩
  region := by
    rintro l _ located ⟨rfl, _⟩ hcurrent _
    cases hclose : Eval.closeFrom left (l + 1) 0 with
    | none => exact .inr ⟨rfl, .inl trivial⟩
    | some stop =>
      have hbounds := Eval.closeFrom_bounds hclose
      obtain ⟨n, rfl⟩ : ∃ n, stop = l + 1 + n := ⟨stop - (l + 1), by omega⟩
      have hrest := hsame.drop (l + 1)
      rw [Nat.zero_add] at hrest
      exact .inl ⟨n, rfl, hrest.mono (by omega), rfl, hbounds.2⟩

end Alignment

end Rewind
