import Rewind.Proofs.Tree.Reading

namespace Rewind

/-- Tokens among which every parenthesis has its partner. -/
inductive Interior (tokens : Array Located) : Nat → Nat → Prop where
  | nil (p : Nat) : Interior tokens p p
  | other {p q : Nat} {located : Located} (htoken : tokens[p]? = some located)
    (hopen : ¬ located.token.isPunct "(") (hclose : ¬ located.token.isPunct ")")
    (hrest : Interior tokens (p + 1) q) : Interior tokens p q
  | nested {p r q : Nat} (hopen : PunctAt tokens p "(") (hinside : Interior tokens (p + 1) r)
    (hclose : PunctAt tokens r ")") (hrest : Interior tokens (r + 1) q) : Interior tokens p q

/-- A parenthesis with its partner, and whatever is between them. -/
inductive Region (tokens : Array Located) : Nat → Nat → Prop where
  | enclosed {p q : Nat} (hopen : PunctAt tokens p "(") (hinside : Interior tokens (p + 1) q)
    (hclose : PunctAt tokens q ")") : Region tokens p (q + 1)

section Regions

variable {tokens : Array Located} {p q : Nat}

private theorem Interior.balanced (hinterior : Interior tokens p q) : Eval.Balanced tokens p q := by
  induction hinterior with
  | nil p => exact .refl tokens p
  | other htoken hopen hclose _ ih => exact (Eval.Balanced.of_other htoken hopen hclose).trans ih
  | nested hopen _ hclose _ ihinside ihrest =>
    obtain ⟨located, hcurrent, hpunct⟩ := Eval.isPunct_iff.1 hopen
    have hclosed := Reads.closeFrom_of_elements ihinside hclose
    exact (Eval.Balanced.of_closeFrom hcurrent hpunct hclosed).trans ihrest

/-- What a scan passes over has an end, and what comes before the end is an interior. -/
private theorem Interior.exists_of_closeFrom (hclosed : Eval.closeFrom tokens p 0 = some q) :
    ∃ r, Interior tokens p r ∧ PunctAt tokens r ")" ∧ q = r + 1 := by
  -- the induction is on the tokens that are left: an inner region has fewer of them, and so has what follows it
  induction hleft : tokens.size - p using Nat.strongRecOn generalizing p q with
  | ind left ih =>
    have hbounds := Eval.closeFrom_bounds hclosed
    obtain ⟨located, hcurrent⟩ : ∃ located, tokens[p]? = some located :=
      ⟨_, Array.getElem?_eq_getElem (by omega)⟩
    by_cases hopen : located.token.isPunct "("
    · rw [Eval.closeFrom_of_open hcurrent hopen] at hclosed
      obtain ⟨inner, hinner, hrest⟩ := Eval.exists_inner_of_closeFrom hclosed
      have hlater := (Eval.closeFrom_bounds hinner).1
      obtain ⟨r, hinside, hclose, rfl⟩ := ih _ (by omega) hinner rfl
      obtain ⟨s, houtside, hend, rfl⟩ := ih _ (by omega) hrest rfl
      exact ⟨s, .nested (Eval.isPunct_iff.2 ⟨located, hcurrent, hopen⟩) hinside hclose houtside, hend, rfl⟩
    · by_cases hclose : located.token.isPunct ")"
      · rw [Eval.closeFrom_of_close hcurrent hclose] at hclosed
        cases hclosed
        exact ⟨p, .nil p, Eval.isPunct_iff.2 ⟨located, hcurrent, hclose⟩, rfl⟩
      · rw [Eval.closeFrom_of_other hcurrent hopen hclose] at hclosed
        obtain ⟨r, hrest, hend, rfl⟩ := ih _ (by omega) hclosed rfl
        exact ⟨r, .other hcurrent hopen hclose hrest, hend, rfl⟩

/-- Counting parentheses finds the regions. -/
theorem region_iff_closeFrom :
    Region tokens p q ↔ PunctAt tokens p "(" ∧ Eval.closeFrom tokens (p + 1) 0 = some q := by
  constructor
  · rintro ⟨hopen, hinside, hclose⟩
    exact ⟨hopen, Reads.closeFrom_of_elements hinside.balanced hclose⟩
  · rintro ⟨hopen, hclosed⟩
    obtain ⟨r, hinside, hclose, rfl⟩ := Interior.exists_of_closeFrom hclosed
    exact .enclosed hopen hinside hclose

private theorem Region.lt (hregion : Region tokens p q) : p < q := by
  cases hregion with
  | enclosed _ hinside _ => exact Nat.lt_succ_of_lt hinside.balanced.forward

end Regions

/-- The parts of an expression that is not looked into further than to find its end. -/
inductive Shape where
  | operand
  /-- Items with operators of the tier between them. -/
  | chain (tier : Tier)
  /-- What follows the first item of a chain. -/
  | tail (tier : Tier)

/-- An item of a chain. The additive tier is the inner one. -/
def Tier.shape : Tier → Shape
  | additive => .operand
  | multiplicative => .chain .additive

/-- An expression is a chain of the outer tier. -/
abbrev Shape.expression : Shape := .chain .multiplicative

/-- The grammar without what is inside of lists, which may be anything between parentheses, and
    with the depth of what stands in the buffer from one position to another. Of a definition the
    body may be missing, and any name will do where there has to be one. -/
inductive Outlined (tokens : Array Located) : Shape → (depth : Nat) → Nat → Nat → Prop where
  | literal {p : Nat} {located : Located} (htoken : tokens[p]? = some located)
    (hkind : located.token.kind = .number ∨ located.token.kind = .string) : Outlined tokens .operand 1 p (p + 1)
  | name {p : Nat} {name : String} {span : Span} (htoken : NameAt tokens p name span)
    (hplain : Keyword.ofSpelling? name = none ∨ Keyword.ofSpelling? name = some .otherwise) :
    Outlined tokens .operand 1 p (p + 1)
  | list {p q : Nat} (hlist : Region tokens p q) : Outlined tokens .operand 1 p q
  | call {p q : Nat} {name : String} {span : Span} (hkeyword : KeywordAt tokens p .call)
    (hname : NameAt tokens (p + 1) name span) (harguments : Region tokens (p + 2) q) :
    Outlined tokens .operand 1 p q
  | header {p q : Nat} {name : String} {span : Span} (hkeyword : KeywordAt tokens p .define)
    (hname : NameAt tokens (p + 1) name span) (hparams : Region tokens (p + 2) q) (hbody : ¬ PunctAt tokens q "(") :
    Outlined tokens .operand 1 p q
  | define {p r q : Nat} {name : String} {span : Span} (hkeyword : KeywordAt tokens p .define)
    (hname : NameAt tokens (p + 1) name span) (hparams : Region tokens (p + 2) r) (hbody : Region tokens r q) :
    Outlined tokens .operand 1 p q
  | cond {p r q depth : Nat} (hkeyword : KeywordAt tokens p .cond)
    (htest : Outlined tokens .expression depth (p + 1) r) (hyes : Region tokens r q)
    (hno : ¬ KeywordAt tokens q .otherwise) : Outlined tokens .operand (depth + 1) p q
  | condElse {p r s q depth : Nat} (hkeyword : KeywordAt tokens p .cond)
    (htest : Outlined tokens .expression depth (p + 1) r) (hyes : Region tokens r s)
    (helse : KeywordAt tokens s .otherwise) (hno : Region tokens (s + 1) q) : Outlined tokens .operand (depth + 1) p q
  | forLoop {p a b c q first test step : Nat} (hkeyword : KeywordAt tokens p .forLoop)
    (hfirst : Outlined tokens .expression first (p + 1) a) (hsemicolon : PunctAt tokens a ";")
    (htest : Outlined tokens .expression test (a + 1) b) (hsemicolon' : PunctAt tokens b ";")
    (hstep : Outlined tokens .expression step (b + 1) c) (hbody : Region tokens c q) :
    Outlined tokens .operand (max first (max test step) + 1) p q
  | whileLoop {p r q depth : Nat} (hkeyword : KeywordAt tokens p .whileLoop)
    (htest : Outlined tokens .expression depth (p + 1) r) (hbody : Region tokens r q) :
    Outlined tokens .operand (depth + 1) p q
  | assign {p q depth : Nat} {name : String} {span : Span} (hkeyword : KeywordAt tokens p .assign)
    (hname : NameAt tokens (p + 1) name span) (hequals : PunctAt tokens (p + 2) "=")
    (hvalue : Outlined tokens .expression depth (p + 3) q) : Outlined tokens .operand (depth + 1) p q
  | chain {p r q first rest : Nat} {tier : Tier} (hfirst : Outlined tokens tier.shape first p r)
    (hrest : Outlined tokens (.tail tier) rest r q) : Outlined tokens (.chain tier) (max first rest) p q
  | tailEnd {p : Nat} {tier : Tier} (hend : tokens[p]?.filter (·.token.isOperator tier) = none) :
    Outlined tokens (.tail tier) 0 p p
  | tailCons {p r q item rest : Nat} {tier : Tier} {operator : Located} (htoken : tokens[p]? = some operator)
    (hoperator : operator.token.isOperator tier = true) (hitem : Outlined tokens tier.shape item (p + 1) r)
    (hrest : Outlined tokens (.tail tier) rest r q) : Outlined tokens (.tail tier) (max item rest) p q

/-- How many tokens there are at least, and how many levels. -/
def Shape.least : Shape → Nat
  | operand => 1
  | chain _ => 1
  | tail _ => 0

@[simp]
theorem Tier.least_shape (tier : Tier) : tier.shape.least = 1 := by
  cases tier <;> rfl

namespace Outlined

variable {tokens : Array Located} {shape : Shape} {depth p q : Nat}

theorem bounds (houtlined : Outlined tokens shape depth p q) : p + shape.least ≤ q ∧ shape.least ≤ depth := by
  induction houtlined with
  | literal => simp [Shape.least]
  | name => simp [Shape.least]
  | list hlist =>
    have := hlist.lt
    exact ⟨this, Nat.le_refl 1⟩
  | call _ _ harguments =>
    have := harguments.lt
    exact ⟨show _ + 1 ≤ _ by omega, Nat.le_refl 1⟩
  | header _ _ hparams =>
    have := hparams.lt
    exact ⟨show _ + 1 ≤ _ by omega, Nat.le_refl 1⟩
  | define _ _ hparams hbody =>
    have := hparams.lt
    have := hbody.lt
    exact ⟨show _ + 1 ≤ _ by omega, Nat.le_refl 1⟩
  | cond _ _ hyes _ ih =>
    have := hyes.lt
    simp only [Shape.least] at ih ⊢
    omega
  | condElse _ _ hyes _ hno ih =>
    have := hyes.lt
    have := hno.lt
    simp only [Shape.least] at ih ⊢
    omega
  | forLoop _ _ _ _ _ _ hbody ihfirst ihtest ihstep =>
    have := hbody.lt
    simp only [Shape.least] at ihfirst ihtest ihstep ⊢
    omega
  | whileLoop _ _ hbody ih =>
    have := hbody.lt
    simp only [Shape.least] at ih ⊢
    omega
  | assign _ _ _ _ ih =>
    simp only [Shape.least] at ih ⊢
    omega
  | chain _ _ ihfirst ihrest =>
    rw [Tier.least_shape] at ihfirst
    simp only [Shape.least] at ihrest ⊢
    omega
  | tailEnd => simp [Shape.least]
  | tailCons _ _ _ _ ihitem ihrest =>
    rw [Tier.least_shape] at ihitem
    simp only [Shape.least] at ihrest ⊢
    omega

theorem lt_of_item {tier : Tier} (houtlined : Outlined tokens tier.shape depth p q) : p < q := by
  have hbounds := houtlined.bounds
  rw [Tier.least_shape] at hbounds
  exact hbounds.1

end Outlined

end Rewind
