import Rewind.Proofs.Balance.Skipping
import Rewind.Proofs.Tree

namespace Rewind

section Tokens

variable {tokens : Array Located} {p : Nat}

theorem KeywordAt.balanced {keyword : Keyword} (hkeyword : KeywordAt tokens p keyword) :
    Eval.Balanced tokens p (p + 1) := by
  obtain ⟨located, hcurrent, hkeyword⟩ := Option.bind_eq_some_iff.1 hkeyword
  exact .of_kind_ne hcurrent (by simp [Eval.Level.keyword_kind hkeyword])

private theorem NameAt.balanced {name : String} {span : Span} (hname : NameAt tokens p name span) :
    Eval.Balanced tokens p (p + 1) :=
  .of_kind_ne hname (by simp)

theorem PunctAt.balanced {lexeme : String} (hpunct : PunctAt tokens p lexeme) (hopen : lexeme ≠ "(")
    (hclose : lexeme ≠ ")") : Eval.Balanced tokens p (p + 1) := by
  obtain ⟨located, hcurrent, hpunct⟩ := Eval.isPunct_iff.1 hpunct
  exact .of_punct hcurrent hpunct hopen hclose

theorem PunctAt.lt {lexeme : String} (hpunct : PunctAt tokens p lexeme) : p < tokens.size := by
  obtain ⟨located, hcurrent, _⟩ := Eval.isPunct_iff.1 hpunct
  exact (Array.getElem?_eq_some_iff.1 hcurrent).1

theorem KeywordAt.current {keyword : Keyword} (hkeyword : KeywordAt tokens p keyword) :
    ∃ located, tokens[p]? = some located ∧ located.token.kind = .name ∧ located.token.keyword? = some keyword := by
  obtain ⟨located, hcurrent, hkeyword⟩ := Option.bind_eq_some_iff.1 hkeyword
  exact ⟨located, hcurrent, Eval.Level.keyword_kind hkeyword, hkeyword⟩

theorem KeywordAt.of_current {keyword : Keyword} (hkeyword : KeywordAt tokens p keyword) {located : Located}
    (hcurrent : tokens[p]? = some located) :
    located.token.kind = .name ∧ located.token.keyword? = some keyword := by
  obtain ⟨other, hother, hkind, hkeyword⟩ := hkeyword.current
  rw [hcurrent] at hother
  cases hother
  exact ⟨hkind, hkeyword⟩

end Tokens

namespace Reads

variable {tokens : Array Located} {phrase : Phrase} {p q : Nat}

/-- The parentheses of a list are partners when what is between them is level. -/
theorem closeFrom_of_elements {r : Nat} (helements : Eval.Balanced tokens p r) (hclose : PunctAt tokens r ")") :
    Eval.closeFrom tokens p 0 = some (r + 1) := by
  obtain ⟨located, hcurrent, hpunct⟩ := Eval.isPunct_iff.1 hclose
  rw [helements.closes 0, Eval.closeFrom_of_close hcurrent hpunct]

/-- An operand that no operator follows is an expression. -/
theorem of_operand {tree : Tree} (hoperand : Reads tokens (.operand tree) p q)
    (hend : tokens[q]?.all (·.token.kind != .operator) = true) : Reads tokens (.expression tree) p q := by
  have hends (tier : Tier) : tokens[q]?.filter (·.token.isOperator tier) = none := by
    cases hcurrent : tokens[q]? with
    | none => rfl
    | some located =>
      rw [hcurrent] at hend
      simp_all [Token.isOperator, Option.filter]
  exact .chain (.chain hoperand (.tailEnd (hends .additive))) (.tailEnd (hends .multiplicative))

/-- Whatever is read, its parentheses are partners. -/
theorem balanced (hreads : Reads tokens phrase p q) : Eval.Balanced tokens p q := by
  induction hreads with
  | number htoken => exact .of_kind_ne htoken (by simp)
  | string htoken => exact .of_kind_ne htoken (by simp)
  | name htoken => exact htoken.balanced
  | call hkeyword hname _ ih => exact hkeyword.balanced.trans (hname.balanced.trans ih)
  | cond hkeyword _ _ _ htest hyes => exact hkeyword.balanced.trans (htest.trans hyes)
  | condElse hkeyword _ _ helse _ htest hyes hno =>
    exact hkeyword.balanced.trans (htest.trans (hyes.trans (helse.balanced.trans hno)))
  | forLoop hkeyword _ hsemicolon _ hsemicolon' _ _ hfirst htest hstep hbody =>
    have hsemicolon := hsemicolon.balanced (by decide) (by decide)
    have hsemicolon' := hsemicolon'.balanced (by decide) (by decide)
    exact hkeyword.balanced.trans (hfirst.trans (hsemicolon.trans (htest.trans
      (hsemicolon'.trans (hstep.trans hbody)))))
  | whileLoop hkeyword _ _ htest hbody => exact hkeyword.balanced.trans (htest.trans hbody)
  | define hkeyword hname hopen _ hclose _ hparams hbody =>
    obtain ⟨located, hcurrent, hpunct⟩ := Eval.isPunct_iff.1 hopen
    have hregion := Eval.Balanced.of_closeFrom hcurrent hpunct (closeFrom_of_elements hparams hclose)
    exact hkeyword.balanced.trans (hname.balanced.trans (hregion.trans hbody))
  | assign hkeyword hname hequals _ hvalue =>
    exact hkeyword.balanced.trans (hname.balanced.trans
      ((hequals.balanced (by decide) (by decide)).trans hvalue))
  | group _ _ hlist => exact hlist
  | chain _ _ hfirst hrest => exact hfirst.trans hrest
  | tailEnd => exact .refl _ _
  | tailCons htoken hoperator _ _ hitem hrest =>
    simp only [Token.isOperator, Bool.and_eq_true, beq_iff_eq] at hoperator
    exact (Eval.Balanced.of_kind_ne htoken (by simp [hoperator.1])).trans (hitem.trans hrest)
  | elementsEnd => exact .refl _ _
  | elementsComma _ hcomma _ hfirst hrest =>
    exact hfirst.trans ((hcomma.balanced (by decide) (by decide)).trans hrest)
  | elementsPlain _ _ _ hfirst hrest => exact hfirst.trans hrest
  | list hopen _ hclose helements =>
    obtain ⟨located, hcurrent, hpunct⟩ := Eval.isPunct_iff.1 hopen
    exact .of_closeFrom hcurrent hpunct (closeFrom_of_elements helements hclose)
  | paramsEnd => exact .refl _ _
  | paramsLast hname => exact hname.balanced
  | paramsComma hname hcomma _ hrest =>
    exact hname.balanced.trans ((hcomma.balanced (by decide) (by decide)).trans hrest)
  | programEnd => exact .refl _ _
  | programCons _ _ hfirst hrest => exact hfirst.trans hrest

/-- A list begins with a parenthesis, whose partner ends it. -/
theorem list_closes {trees : List Tree} (hreads : Reads tokens (.list trees) p q) :
    PunctAt tokens p "(" ∧ Eval.closeFrom tokens (p + 1) 0 = some q := by
  cases hreads with
  | list hopen helements hclose => exact ⟨hopen, closeFrom_of_elements helements.balanced hclose⟩

theorem opens {trees : List Tree} (hreads : Reads tokens (.list trees) p q) {located : Located}
    (hcurrent : tokens[p]? = some located) :
    located.token.kind = .punct ∧ (located.token.lexeme == "(") = true := by
  obtain ⟨other, hother, hpunct⟩ := Eval.isPunct_iff.1 hreads.list_closes.1
  rw [hcurrent] at hother
  cases hother
  simpa [Token.isPunct] using hpunct

/-- What an expression begins with. -/
structure Begun (tokens : Array Located) (p q : Nat) : Prop where
  moves : p < q
  inside : p < tokens.size
  notClosing : ¬ PunctAt tokens p ")"

theorem begun_of_kind {located : Located} (hcurrent : tokens[p]? = some located)
    (hkind : located.token.kind ≠ .punct) (hmoves : p < q) : Begun tokens p q := by
  refine ⟨hmoves, (Array.getElem?_eq_some_iff.1 hcurrent).1, fun hclose => ?_⟩
  obtain ⟨other, hother, hpunct⟩ := Eval.isPunct_iff.1 hclose
  rw [hcurrent] at hother
  cases hother
  simp [Token.isPunct, hkind] at hpunct

private theorem begun_of_keyword {keyword : Keyword} (hkeyword : KeywordAt tokens p keyword) (hmoves : p < q) :
    Begun tokens p q := by
  obtain ⟨located, hcurrent, hkind, _⟩ := hkeyword.current
  exact begun_of_kind hcurrent (by simp [hkind]) hmoves

private theorem begun_of_list {trees : List Tree} (hreads : Reads tokens (.list trees) p q) : Begun tokens p q := by
  obtain ⟨hopen, hclose⟩ := hreads.list_closes
  refine ⟨Nat.lt_of_succ_lt (Eval.closeFrom_bounds hclose).1, hopen.lt, fun hclose => ?_⟩
  obtain ⟨located, hcurrent, hpunct⟩ := Eval.isPunct_iff.1 hopen
  obtain ⟨other, hother, hpunct'⟩ := Eval.isPunct_iff.1 hclose
  rw [hcurrent] at hother
  cases hother
  exact Eval.not_isPunct_open_of_close hpunct' hpunct

theorem begun_operand {tree : Tree} (hreads : Reads tokens (.operand tree) p q) : Begun tokens p q := by
  cases hreads with
  | number htoken => exact begun_of_kind htoken (by simp) (Nat.lt_succ_self p)
  | string htoken => exact begun_of_kind htoken (by simp) (Nat.lt_succ_self p)
  | name htoken => exact begun_of_kind htoken (by simp) (Nat.lt_succ_self p)
  | call hkeyword hname harguments =>
    have := harguments.balanced.forward
    exact begun_of_keyword hkeyword (by omega)
  | cond hkeyword htest hyes =>
    have := (htest.balanced.trans hyes.balanced).forward
    exact begun_of_keyword hkeyword (by omega)
  | condElse hkeyword htest hyes _ hno =>
    have := (htest.balanced.trans hyes.balanced).forward
    have := hno.balanced.forward
    exact begun_of_keyword hkeyword (by omega)
  | forLoop hkeyword hfirst _ htest _ hstep hbody =>
    have := hfirst.balanced.forward
    have := htest.balanced.forward
    have := (hstep.balanced.trans hbody.balanced).forward
    exact begun_of_keyword hkeyword (by omega)
  | whileLoop hkeyword htest hbody =>
    have := (htest.balanced.trans hbody.balanced).forward
    exact begun_of_keyword hkeyword (by omega)
  | define hkeyword _ _ hparams _ hbody =>
    have := hparams.balanced.forward
    have := hbody.balanced.forward
    exact begun_of_keyword hkeyword (by omega)
  | assign hkeyword _ _ hvalue =>
    have := hvalue.balanced.forward
    exact begun_of_keyword hkeyword (by omega)
  | group _ hlist => exact begun_of_list hlist

theorem begun_chain {tier : Tier} {tree : Tree} (hreads : Reads tokens (.chain tier tree) p q) :
    Begun tokens p q := by
  have hitem {tree : Tree} {q : Nat} (hreads : Reads tokens (.chain .additive tree) p q) : Begun tokens p q := by
    cases hreads with
    | chain hfirst hrest =>
      obtain ⟨hmoves, hinside, hopen⟩ := begun_operand hfirst
      exact ⟨Nat.lt_of_lt_of_le hmoves hrest.balanced.forward, hinside, hopen⟩
  cases tier with
  | additive => exact hitem hreads
  | multiplicative =>
    cases hreads with
    | chain hfirst hrest =>
      obtain ⟨hmoves, hinside, hopen⟩ := hitem hfirst
      exact ⟨Nat.lt_of_lt_of_le hmoves hrest.balanced.forward, hinside, hopen⟩

theorem begun_item {tier : Tier} {tree : Tree} (hreads : Reads tokens (tier.item tree) p q) :
    Begun tokens p q := by
  cases tier with
  | additive => exact begun_operand hreads
  | multiplicative => exact begun_chain hreads

end Reads

end Rewind
