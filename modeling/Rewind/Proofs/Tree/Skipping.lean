import Rewind.Proofs.Tree.Simulation

namespace Rewind.Eval.Simulates

variable {scene : Scene} {tokens : Array Located} {p q r : Nat} {item inner : Eval Unit}

/-- Skipping stands for doing nothing with trees. -/
abbrev Skips (scene : Scene) (tokens : Array Located) (p q : Nat) (x : Eval Unit) : Prop :=
  Simulates scene tokens p q anyResult x (Pure.pure ())

private theorem skipWhole (hoperand : ∀ {tree p q}, Reads tokens (.operand tree) p q → Skips scene tokens p q item)
    {tree : Tree} (hreads : Reads tokens (.expression tree) p q) :
    Skips scene tokens p q (Eval.expression item skipCombine) := by
  have hcombine {p : Nat} (operator : Located) {l r l' r' : Unit} (_ : anyResult l l') (_ : anyResult r r') :
      Skips scene tokens p p (ofExcept (skipCombine operator l r)) := pure trivial
  exact expression hcombine (fun _ _ _ => rfl) hoperand hreads

/-- The skipper walks over the same forms as the reader. -/
private theorem skipForm (hinner : ∀ {tree p q}, Reads tokens (.expression tree) p q → Skips scene tokens p q inner)
    {tree : Tree} (hreads : Reads tokens (.operand tree) p q) {located : Located}
    (hcurrent : tokens[p]? = some located) : Skips scene tokens p q (Eval.skipForm inner located) := by
  have hadvance : Moves tokens p (p + 1) () advance := .advance hcurrent
  cases hreads with
  | number htoken =>
    rw [hcurrent] at htoken
    cases htoken
    exact of_moves hadvance trivial
  | string htoken =>
    rw [hcurrent] at htoken
    cases htoken
    exact of_moves hadvance trivial
  | name htoken hplain =>
    rw [NameAt, hcurrent] at htoken
    cases htoken
    rcases hplain with hplain | hplain <;> simp only [Eval.skipForm, Token.keyword?, hplain] <;>
      exact of_moves hadvance trivial
  | call hkeyword hname harguments =>
    obtain ⟨hkind, hkeyword⟩ := hkeyword.of_current hcurrent
    simp only [Eval.skipForm, hkind, hkeyword]
    exact move hadvance (move (.expectName hname) (of_moves (.skipList harguments) trivial))
  | cond hkeyword htest hyes hno =>
    obtain ⟨hkind, hkeyword⟩ := hkeyword.of_current hcurrent
    simp only [Eval.skipForm, hkind, hkeyword]
    refine move hadvance (skipping (hinner htest) fun _ => move (.skipList hyes) (move (.tryKeyword_of_not hno) ?_))
    exact pure trivial
  | condElse hkeyword htest hyes helse hno =>
    obtain ⟨hkind, hkeyword⟩ := hkeyword.of_current hcurrent
    simp only [Eval.skipForm, hkind, hkeyword]
    refine move hadvance (skipping (hinner htest) fun _ => move (.skipList hyes) (move (.tryKeyword_of helse) ?_))
    exact of_moves (.skipList hno) trivial
  | forLoop hkeyword hfirst hsemicolon htest hsemicolon' hstep hbody =>
    obtain ⟨hkind, hkeyword⟩ := hkeyword.of_current hcurrent
    simp only [Eval.skipForm, hkind, hkeyword]
    refine move hadvance (skipping (hinner hfirst) fun _ => move (.expectPunct hsemicolon) ?_)
    refine skipping (hinner htest) fun _ => move (.expectPunct hsemicolon') ?_
    exact skipping (hinner hstep) fun _ => of_moves (.skipList hbody) trivial
  | whileLoop hkeyword htest hbody =>
    obtain ⟨hkind, hkeyword⟩ := hkeyword.of_current hcurrent
    simp only [Eval.skipForm, hkind, hkeyword]
    exact move hadvance (skipping (hinner htest) fun _ => of_moves (.skipList hbody) trivial)
  | define hkeyword hname hopen hparams hclose hbody =>
    obtain ⟨hkind, hkeyword⟩ := hkeyword.of_current hcurrent
    simp only [Eval.skipForm, hkind, hkeyword]
    have hregion := Reads.closeFrom_of_elements hparams.balanced hclose
    refine move hadvance (move (.expectName hname) (move (.skipRegion hopen hregion) (move Moves.cursor ?_)))
    rw [if_pos hbody.list_closes.1]
    exact of_moves (.skipList hbody) trivial
  | assign hkeyword hname hequals hvalue =>
    obtain ⟨hkind, hkeyword⟩ := hkeyword.of_current hcurrent
    simp only [Eval.skipForm, hkind, hkeyword]
    exact move hadvance (move (.expectName hname) (move (.expectPunct hequals) (hinner hvalue)))
  | group htoken hlist =>
    obtain ⟨hkind, hopen⟩ := hlist.opens hcurrent
    simp only [Eval.skipForm, hkind, hopen]
    exact of_moves (.skipList hlist) trivial

private theorem skipOperand (budget : Nat) {tree : Tree} (hreads : Reads tokens (.operand tree) p q) :
    Skips scene tokens p q (skipOperand budget) := by
  obtain ⟨located, hcurrent⟩ : ∃ located, tokens[p]? = some located :=
    ⟨_, Array.getElem?_eq_getElem hreads.begun_operand.inside⟩
  induction budget generalizing tree p q located with
  | zero => exact move (.firstToken hcurrent) (tooNested located)
  | succ budget ih =>
    have hoperand {tree : Tree} {p q : Nat} (hreads : Reads tokens (.operand tree) p q) :
        Skips scene tokens p q (Eval.skipOperand budget) :=
      ih hreads _ (Array.getElem?_eq_getElem hreads.begun_operand.inside)
    refine move (.firstToken hcurrent) (move (.noteNesting budget) ?_)
    exact skipForm (skipWhole hoperand) hreads hcurrent

theorem skipExpression (budget : Nat) {tree : Tree} (hreads : Reads tokens (.expression tree) p q) :
    Skips scene tokens p q (skipExpression budget) :=
  skipWhole (skipOperand budget) hreads

end Rewind.Eval.Simulates
