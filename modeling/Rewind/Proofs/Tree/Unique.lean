import Rewind.Proofs.Tree.Reading

namespace Rewind

/-- The keyword that a token introduces a form with, and its class. -/
def Token.opening (token : Token) : Token.Kind × Option Keyword :=
  (token.kind, token.keyword?.filter (· != .otherwise))

/-- What the first token of an operand is like. -/
def Tree.opening : Tree → Token.Kind × Option Keyword
  | .number _ => (.number, none)
  | .string _ => (.string, none)
  | .name _ _ => (.name, none)
  | .binary _ _ _ => (.operator, none)
  | .call _ _ _ => (.name, some .call)
  | .cond _ _ _ => (.name, some .cond)
  | .forLoop _ _ _ _ => (.name, some .forLoop)
  | .whileLoop _ _ => (.name, some .whileLoop)
  | .define _ _ _ => (.name, some .define)
  | .assign _ _ => (.name, some .assign)
  | .group _ _ => (.punct, none)

/-- Phrases of the same constructor, and chains and tails of the same tier. -/
inductive Phrase.Alike : Phrase → Phrase → Prop where
  | operand (tree tree' : Tree) : Alike (.operand tree) (.operand tree')
  | chain (tier : Tier) (tree tree' : Tree) : Alike (.chain tier tree) (.chain tier tree')
  | tail (tier : Tier) (rest rest' : List (Located × Tree)) : Alike (.tail tier rest) (.tail tier rest')
  | elements (trees trees' : List Tree) : Alike (.elements trees) (.elements trees')
  | list (trees trees' : List Tree) : Alike (.list trees) (.list trees')
  | params (names names' : List String) : Alike (.params names) (.params names')
  | program (trees trees' : List Tree) : Alike (.program trees) (.program trees')

private theorem Tier.item_alike (tier : Tier) (tree tree' : Tree) : (tier.item tree).Alike (tier.item tree') := by
  cases tier with
  | additive => exact .operand tree tree'
  | multiplicative => exact .chain .additive tree tree'

private theorem Tier.item_injective {tier : Tier} {tree tree' : Tree} (hitem : tier.item tree = tier.item tree') :
    tree = tree' := by
  cases tier with
  | additive => exact Phrase.operand.inj hitem
  | multiplicative => exact (Phrase.chain.inj hitem).2

section Tokens

variable {tokens : Array Located} {p : Nat}

private theorem KeywordAt.opening {keyword : Keyword} (hkeyword : KeywordAt tokens p keyword)
    (hform : keyword ≠ .otherwise) :
    tokens[p]?.map (·.token.opening) = some (.name, some keyword) := by
  obtain ⟨located, hcurrent, hkind, hkeyword⟩ := hkeyword.current
  rw [hcurrent]
  simp [Token.opening, hkind, hkeyword, hform, Option.filter]

private theorem NameAt.unique {name name' : String} {span span' : Span} (hname : NameAt tokens p name span)
    (hname' : NameAt tokens p name' span') : name = name' ∧ span = span' := by
  rw [NameAt, hname] at hname'
  cases hname'
  exact ⟨rfl, rfl⟩

private theorem NameAt.notClosing {name : String} {span : Span} (hname : NameAt tokens p name span) :
    ¬ PunctAt tokens p ")" :=
  (Reads.begun_of_kind hname (by simp) (Nat.lt_succ_self p)).notClosing

end Tokens

/-- The first token determines the form of an operand. -/
private theorem Reads.opening {tokens : Array Located} {tree : Tree} {p q : Nat}
    (hreads : Reads tokens (.operand tree) p q) :
    tokens[p]?.map (·.token.opening) = some tree.opening := by
  cases hreads with
  | number htoken => simp [htoken, Token.opening, Token.keyword?, Tree.opening]
  | string htoken => simp [htoken, Token.opening, Token.keyword?, Tree.opening]
  | name htoken hplain =>
    rw [NameAt] at htoken
    rcases hplain with hplain | hplain <;>
      simp [htoken, hplain, Token.opening, Token.keyword?, Tree.opening, Option.filter]
  | call hkeyword => exact hkeyword.opening (by decide)
  | cond hkeyword => exact hkeyword.opening (by decide)
  | condElse hkeyword => exact hkeyword.opening (by decide)
  | forLoop hkeyword => exact hkeyword.opening (by decide)
  | whileLoop hkeyword => exact hkeyword.opening (by decide)
  | define hkeyword => exact hkeyword.opening (by decide)
  | assign hkeyword => exact hkeyword.opening (by decide)
  | group htoken hlist =>
    obtain ⟨hkind, _⟩ := hlist.opens htoken
    simp [htoken, hkind, Token.opening, Token.keyword?, Tree.opening]

/-- The phrase is the only one of its kind that is read from `p`, and it ends at `q` only. -/
structure Sole (tokens : Array Located) (phrase : Phrase) (p q : Nat) : Prop where
  only : ∀ {phrase' : Phrase} {q' : Nat}, phrase.Alike phrase' → Reads tokens phrase' p q' →
    phrase = phrase' ∧ q = q'

namespace Sole

variable {tokens : Array Located} {p q r s : Nat}

section Operands

/-- An operand is compared with operands of its own form. -/
private theorem operand {tree : Tree} (hopening : tokens[p]?.map (·.token.opening) = some tree.opening)
    (hsame : ∀ {tree' : Tree} {q' : Nat}, tree'.opening = tree.opening → Reads tokens (.operand tree') p q' →
      tree = tree' ∧ q = q') : Sole tokens (.operand tree) p q := by
  refine ⟨fun halike hreads => ?_⟩
  cases halike with
  | operand =>
    obtain ⟨rfl, rfl⟩ := hsame (Option.some.inj (hreads.opening.symm.trans hopening)) hreads
    exact ⟨rfl, rfl⟩

private theorem number {lexeme : String} {span : Span} (htoken : tokens[p]? = some ⟨⟨.number, lexeme⟩, span⟩) :
    Sole tokens (.operand (.number lexeme)) p (p + 1) := by
  refine operand (Reads.number htoken).opening fun hopening hreads => ?_
  cases hreads with
  | number htoken' =>
    rw [htoken] at htoken'
    cases htoken'
    exact ⟨rfl, rfl⟩
  | _ => cases hopening

private theorem string {text : String} {span : Span} (htoken : tokens[p]? = some ⟨⟨.string, text⟩, span⟩) :
    Sole tokens (.operand (.string text)) p (p + 1) := by
  refine operand (Reads.string htoken).opening fun hopening hreads => ?_
  cases hreads with
  | string htoken' =>
    rw [htoken] at htoken'
    cases htoken'
    exact ⟨rfl, rfl⟩
  | _ => cases hopening

private theorem name {name : String} {span : Span} (htoken : NameAt tokens p name span)
    (hplain : Keyword.ofSpelling? name = none ∨ Keyword.ofSpelling? name = some .otherwise) :
    Sole tokens (.operand (.name name span)) p (p + 1) := by
  refine operand (Reads.name htoken hplain).opening fun hopening hreads => ?_
  cases hreads with
  | name htoken' =>
    obtain ⟨rfl, rfl⟩ := htoken.unique htoken'
    exact ⟨rfl, rfl⟩
  | _ => cases hopening

private theorem call {name : String} {span : Span} {arguments : List Tree} (hkeyword : KeywordAt tokens p .call)
    (hname : NameAt tokens (p + 1) name span) (harguments : Sole tokens (.list arguments) (p + 2) q) :
    Sole tokens (.operand (.call name span arguments)) p q := by
  refine operand (hkeyword.opening (by decide)) fun hopening hreads => ?_
  cases hreads with
  | call _ hname' harguments' =>
    obtain ⟨rfl, rfl⟩ := hname.unique hname'
    obtain ⟨⟨⟩, rfl⟩ := harguments.only (.list _ _) harguments'
    exact ⟨rfl, rfl⟩
  | _ => cases hopening

private theorem cond {test : Tree} {yes : List Tree} (hkeyword : KeywordAt tokens p .cond)
    (htest : Sole tokens (.expression test) (p + 1) r) (hyes : Sole tokens (.list yes) r q)
    (hno : ¬ KeywordAt tokens q .otherwise) : Sole tokens (.operand (.cond test yes [])) p q := by
  refine operand (hkeyword.opening (by decide)) fun hopening hreads => ?_
  cases hreads with
  | cond _ htest' hyes' =>
    obtain ⟨⟨⟩, rfl⟩ := htest.only (.chain _ _ _) htest'
    obtain ⟨⟨⟩, rfl⟩ := hyes.only (.list _ _) hyes'
    exact ⟨rfl, rfl⟩
  | condElse _ htest' hyes' helse =>
    obtain ⟨⟨⟩, rfl⟩ := htest.only (.chain _ _ _) htest'
    obtain ⟨⟨⟩, rfl⟩ := hyes.only (.list _ _) hyes'
    exact absurd helse hno
  | _ => cases hopening

private theorem condElse {test : Tree} {yes no : List Tree} (hkeyword : KeywordAt tokens p .cond)
    (htest : Sole tokens (.expression test) (p + 1) r) (hyes : Sole tokens (.list yes) r s)
    (helse : KeywordAt tokens s .otherwise) (hno : Sole tokens (.list no) (s + 1) q) :
    Sole tokens (.operand (.cond test yes no)) p q := by
  refine operand (hkeyword.opening (by decide)) fun hopening hreads => ?_
  cases hreads with
  | cond _ htest' hyes' hno' =>
    obtain ⟨⟨⟩, rfl⟩ := htest.only (.chain _ _ _) htest'
    obtain ⟨⟨⟩, rfl⟩ := hyes.only (.list _ _) hyes'
    exact absurd helse hno'
  | condElse _ htest' hyes' _ hno' =>
    obtain ⟨⟨⟩, rfl⟩ := htest.only (.chain _ _ _) htest'
    obtain ⟨⟨⟩, rfl⟩ := hyes.only (.list _ _) hyes'
    obtain ⟨⟨⟩, rfl⟩ := hno.only (.list _ _) hno'
    exact ⟨rfl, rfl⟩
  | _ => cases hopening

private theorem forLoop {a b c : Nat} {first test step : Tree} {body : List Tree}
    (hkeyword : KeywordAt tokens p .forLoop)
    (hfirst : Sole tokens (.expression first) (p + 1) a) (htest : Sole tokens (.expression test) (a + 1) b)
    (hstep : Sole tokens (.expression step) (b + 1) c) (hbody : Sole tokens (.list body) c q) :
    Sole tokens (.operand (.forLoop first test step body)) p q := by
  refine operand (hkeyword.opening (by decide)) fun hopening hreads => ?_
  cases hreads with
  | forLoop _ hfirst' _ htest' _ hstep' hbody' =>
    obtain ⟨⟨⟩, rfl⟩ := hfirst.only (.chain _ _ _) hfirst'
    obtain ⟨⟨⟩, rfl⟩ := htest.only (.chain _ _ _) htest'
    obtain ⟨⟨⟩, rfl⟩ := hstep.only (.chain _ _ _) hstep'
    obtain ⟨⟨⟩, rfl⟩ := hbody.only (.list _ _) hbody'
    exact ⟨rfl, rfl⟩
  | _ => cases hopening

private theorem whileLoop {test : Tree} {body : List Tree} (hkeyword : KeywordAt tokens p .whileLoop)
    (htest : Sole tokens (.expression test) (p + 1) r) (hbody : Sole tokens (.list body) r q) :
    Sole tokens (.operand (.whileLoop test body)) p q := by
  refine operand (hkeyword.opening (by decide)) fun hopening hreads => ?_
  cases hreads with
  | whileLoop _ htest' hbody' =>
    obtain ⟨⟨⟩, rfl⟩ := htest.only (.chain _ _ _) htest'
    obtain ⟨⟨⟩, rfl⟩ := hbody.only (.list _ _) hbody'
    exact ⟨rfl, rfl⟩
  | _ => cases hopening

private theorem define {name : String} {span : Span} {params : List String} {body : List Tree}
    (hkeyword : KeywordAt tokens p .define) (hname : NameAt tokens (p + 1) name span)
    (hparams : Sole tokens (.params params) (p + 3) r) (hbody : Sole tokens (.list body) (r + 1) q) :
    Sole tokens (.operand (.define name params body)) p q := by
  refine operand (hkeyword.opening (by decide)) fun hopening hreads => ?_
  cases hreads with
  | define _ hname' _ hparams' _ hbody' =>
    obtain ⟨rfl, rfl⟩ := hname.unique hname'
    obtain ⟨⟨⟩, rfl⟩ := hparams.only (.params _ _) hparams'
    obtain ⟨⟨⟩, rfl⟩ := hbody.only (.list _ _) hbody'
    exact ⟨rfl, rfl⟩
  | _ => cases hopening

private theorem assign {name : String} {span : Span} {value : Tree} (hkeyword : KeywordAt tokens p .assign)
    (hname : NameAt tokens (p + 1) name span) (hvalue : Sole tokens (.expression value) (p + 3) q) :
    Sole tokens (.operand (.assign name value)) p q := by
  refine operand (hkeyword.opening (by decide)) fun hopening hreads => ?_
  cases hreads with
  | assign _ hname' _ hvalue' =>
    obtain ⟨rfl, rfl⟩ := hname.unique hname'
    obtain ⟨⟨⟩, rfl⟩ := hvalue.only (.chain _ _ _) hvalue'
    exact ⟨rfl, rfl⟩
  | _ => cases hopening

private theorem group {located : Located} {elements : List Tree} (htoken : tokens[p]? = some located)
    (hreads : Reads tokens (.list elements) p q) (hlist : Sole tokens (.list elements) p q) :
    Sole tokens (.operand (.group located.span elements)) p q := by
  refine operand (Reads.group htoken hreads).opening fun hopening hreads => ?_
  cases hreads with
  | group htoken' hlist' =>
    rw [htoken] at htoken'
    cases htoken'
    obtain ⟨⟨⟩, rfl⟩ := hlist.only (.list _ _) hlist'
    exact ⟨rfl, rfl⟩
  | _ => cases hopening

end Operands

section Chains

variable {tier : Tier}

private theorem chain {first : Tree} {rest : List (Located × Tree)} (hfirst : Sole tokens (tier.item first) p r)
    (hrest : Sole tokens (.tail tier rest) r q) : Sole tokens (.chain tier (first.chained rest)) p q := by
  refine ⟨fun halike hreads => ?_⟩
  cases halike
  cases hreads with
  | chain hfirst' hrest' =>
    obtain ⟨hitem, rfl⟩ := hfirst.only (tier.item_alike _ _) hfirst'
    obtain rfl := Tier.item_injective hitem
    obtain ⟨⟨⟩, rfl⟩ := hrest.only (.tail _ _ _) hrest'
    exact ⟨rfl, rfl⟩

private theorem tailEnd (hend : tokens[p]?.filter (·.token.isOperator tier) = none) :
    Sole tokens (.tail tier []) p p := by
  refine ⟨fun halike hreads => ?_⟩
  cases halike
  cases hreads with
  | tailEnd => exact ⟨rfl, rfl⟩
  | tailCons htoken hoperator => simp [htoken, hoperator, Option.filter] at hend

private theorem tailCons {operator : Located} {item : Tree} {rest : List (Located × Tree)}
    (htoken : tokens[p]? = some operator) (hoperator : operator.token.isOperator tier = true)
    (hitem : Sole tokens (tier.item item) (p + 1) r) (hrest : Sole tokens (.tail tier rest) r q) :
    Sole tokens (.tail tier ((operator, item) :: rest)) p q := by
  refine ⟨fun halike hreads => ?_⟩
  cases halike
  cases hreads with
  | tailEnd hend => simp [htoken, hoperator, Option.filter] at hend
  | tailCons htoken' _ hitem' hrest' =>
    rw [htoken] at htoken'
    cases htoken'
    obtain ⟨hsame, rfl⟩ := hitem.only (tier.item_alike _ _) hitem'
    obtain rfl := Tier.item_injective hsame
    obtain ⟨⟨⟩, rfl⟩ := hrest.only (.tail _ _ _) hrest'
    exact ⟨rfl, rfl⟩

end Chains

section Lists

variable {tree : Tree} {trees : List Tree}

private theorem elementsEnd (hclose : PunctAt tokens p ")") : Sole tokens (.elements []) p p := by
  refine ⟨fun halike hreads => ?_⟩
  cases halike
  cases hreads with
  | elementsEnd => exact ⟨rfl, rfl⟩
  | elementsComma hfirst => exact absurd hclose hfirst.begun_chain.notClosing
  | elementsPlain hfirst => exact absurd hclose hfirst.begun_chain.notClosing

private theorem elementsComma (hopen : ¬ PunctAt tokens p ")") (hfirst : Sole tokens (.expression tree) p r)
    (hcomma : PunctAt tokens r ",") (hrest : Sole tokens (.elements trees) (r + 1) q) :
    Sole tokens (.elements (tree :: trees)) p q := by
  refine ⟨fun halike hreads => ?_⟩
  cases halike
  cases hreads with
  | elementsEnd hclose => exact absurd hclose hopen
  | elementsComma hfirst' _ hrest' =>
    obtain ⟨⟨⟩, rfl⟩ := hfirst.only (.chain _ _ _) hfirst'
    obtain ⟨⟨⟩, rfl⟩ := hrest.only (.elements _ _) hrest'
    exact ⟨rfl, rfl⟩
  | elementsPlain hfirst' hcomma' =>
    obtain ⟨⟨⟩, rfl⟩ := hfirst.only (.chain _ _ _) hfirst'
    exact absurd hcomma hcomma'

private theorem elementsPlain (hopen : ¬ PunctAt tokens p ")") (hfirst : Sole tokens (.expression tree) p r)
    (hcomma : ¬ PunctAt tokens r ",") (hrest : Sole tokens (.elements trees) r q) :
    Sole tokens (.elements (tree :: trees)) p q := by
  refine ⟨fun halike hreads => ?_⟩
  cases halike
  cases hreads with
  | elementsEnd hclose => exact absurd hclose hopen
  | elementsComma hfirst' hcomma' =>
    obtain ⟨⟨⟩, rfl⟩ := hfirst.only (.chain _ _ _) hfirst'
    exact absurd hcomma' hcomma
  | elementsPlain hfirst' _ hrest' =>
    obtain ⟨⟨⟩, rfl⟩ := hfirst.only (.chain _ _ _) hfirst'
    obtain ⟨⟨⟩, rfl⟩ := hrest.only (.elements _ _) hrest'
    exact ⟨rfl, rfl⟩

private theorem list (helements : Sole tokens (.elements trees) (p + 1) q) : Sole tokens (.list trees) p (q + 1) := by
  refine ⟨fun halike hreads => ?_⟩
  cases halike
  cases hreads with
  | list _ helements' =>
    obtain ⟨⟨⟩, rfl⟩ := helements.only (.elements _ _) helements'
    exact ⟨rfl, rfl⟩

private theorem programEnd (hend : tokens[p]? = none) : Sole tokens (.program []) p p := by
  refine ⟨fun halike hreads => ?_⟩
  cases halike
  cases hreads with
  | programEnd => exact ⟨rfl, rfl⟩
  | programCons hfirst =>
    exact absurd hfirst.begun_chain.inside (Nat.not_lt.2 (Array.getElem?_eq_none_iff.1 hend))

private theorem programCons (hinside : p < tokens.size) (hfirst : Sole tokens (.expression tree) p r)
    (hrest : Sole tokens (.program trees) r q) : Sole tokens (.program (tree :: trees)) p q := by
  refine ⟨fun halike hreads => ?_⟩
  cases halike
  cases hreads with
  | programEnd hend => exact absurd hinside (Nat.not_lt.2 (Array.getElem?_eq_none_iff.1 hend))
  | programCons hfirst' hrest' =>
    obtain ⟨⟨⟩, rfl⟩ := hfirst.only (.chain _ _ _) hfirst'
    obtain ⟨⟨⟩, rfl⟩ := hrest.only (.program _ _) hrest'
    exact ⟨rfl, rfl⟩

end Lists

section Params

variable {name : String} {span : Span}

private theorem paramsEnd (hclose : PunctAt tokens p ")") : Sole tokens (.params []) p p := by
  refine ⟨fun halike hreads => ?_⟩
  cases halike
  cases hreads with
  | paramsEnd => exact ⟨rfl, rfl⟩
  | paramsLast hname => exact absurd hclose hname.notClosing
  | paramsComma hname => exact absurd hclose hname.notClosing

private theorem paramsLast (hname : NameAt tokens p name span) (hcomma : ¬ PunctAt tokens (p + 1) ",") :
    Sole tokens (.params [name]) p (p + 1) := by
  refine ⟨fun halike hreads => ?_⟩
  cases halike
  cases hreads with
  | paramsEnd hclose => exact absurd hclose hname.notClosing
  | paramsLast hname' =>
    obtain ⟨rfl, rfl⟩ := hname.unique hname'
    exact ⟨rfl, rfl⟩
  | paramsComma _ hcomma' => exact absurd hcomma' hcomma

private theorem paramsComma {names : List String} (hname : NameAt tokens p name span)
    (hcomma : PunctAt tokens (p + 1) ",")
    (hrest : Sole tokens (.params names) (p + 2) q) : Sole tokens (.params (name :: names)) p q := by
  refine ⟨fun halike hreads => ?_⟩
  cases halike
  cases hreads with
  | paramsEnd hclose => exact absurd hclose hname.notClosing
  | paramsLast _ hcomma' => exact absurd hcomma hcomma'
  | paramsComma hname' _ hrest' =>
    obtain ⟨rfl, rfl⟩ := hname.unique hname'
    obtain ⟨⟨⟩, rfl⟩ := hrest.only (.params _ _) hrest'
    exact ⟨rfl, rfl⟩

end Params

end Sole

/-- The reader has no choice: what is read at a place, and where it ends, are
    determined by the tokens. -/
theorem Reads.sole {tokens : Array Located} {phrase : Phrase} {p q : Nat} (hreads : Reads tokens phrase p q) :
    Sole tokens phrase p q := by
  induction hreads with
  | number htoken => exact .number htoken
  | string htoken => exact .string htoken
  | name htoken hplain => exact .name htoken hplain
  | call hkeyword hname _ harguments => exact .call hkeyword hname harguments
  | cond hkeyword _ _ hno htest hyes => exact .cond hkeyword htest hyes hno
  | condElse hkeyword _ _ helse _ htest hyes hno => exact .condElse hkeyword htest hyes helse hno
  | forLoop hkeyword _ _ _ _ _ _ hfirst htest hstep hbody => exact .forLoop hkeyword hfirst htest hstep hbody
  | whileLoop hkeyword _ _ htest hbody => exact .whileLoop hkeyword htest hbody
  | define hkeyword hname _ _ _ _ hparams hbody => exact .define hkeyword hname hparams hbody
  | assign hkeyword hname _ _ hvalue => exact .assign hkeyword hname hvalue
  | group htoken hreads hlist => exact .group htoken hreads hlist
  | chain _ _ hfirst hrest => exact .chain hfirst hrest
  | tailEnd hend => exact .tailEnd hend
  | tailCons htoken hoperator _ _ hitem hrest => exact .tailCons htoken hoperator hitem hrest
  | elementsEnd hclose => exact .elementsEnd hclose
  | elementsComma hreads hcomma _ hfirst hrest =>
    exact .elementsComma hreads.begun_chain.notClosing hfirst hcomma hrest
  | elementsPlain hreads hcomma _ hfirst hrest =>
    exact .elementsPlain hreads.begun_chain.notClosing hfirst hcomma hrest
  | list _ _ _ helements => exact .list helements
  | paramsEnd hclose => exact .paramsEnd hclose
  | paramsLast hname hcomma => exact .paramsLast hname hcomma
  | paramsComma hname hcomma _ hrest => exact .paramsComma hname hcomma hrest
  | programEnd hend => exact .programEnd hend
  | programCons hreads _ hfirst hrest => exact .programCons hreads.begun_chain.inside hfirst hrest

end Rewind
