import Rewind.Proofs.Balance
import Rewind.Value.Operator

namespace Rewind

/-- A program as a tree. The parentheses, commas and keywords of the source are
    gone, and the places that a failure can point at are kept. -/
inductive Tree where
  | number (lexeme : String)
  | string (text : String)
  | name (name : String) (span : Span)
  | binary (operator : Located) (left right : Tree)
  | call (name : String) (span : Span) (arguments : List Tree)
  /-- A branch that is not there is one without expressions. -/
  | cond (test : Tree) (yes no : List Tree)
  | forLoop (first test step : Tree) (body : List Tree)
  | whileLoop (test : Tree) (body : List Tree)
  | define (name : String) (params : List String) (body : List Tree)
  | assign (name : String) (value : Tree)
  | group (span : Span) (elements : List Tree)

/-- A chain of operators applied from the left. -/
def Tree.chained (first : Tree) (rest : List (Located × Tree)) : Tree :=
  rest.foldl (fun left next => .binary next.1 left next.2) first

/-- What can be read from a stretch of tokens. -/
inductive Phrase where
  | operand (tree : Tree)
  /-- Items with operators of the tier between them. -/
  | chain (tier : Tier) (tree : Tree)
  /-- What follows the first item of a chain. -/
  | tail (tier : Tier) (rest : List (Located × Tree))
  /-- The expressions between the parentheses of a list. -/
  | elements (trees : List Tree)
  | list (trees : List Tree)
  /-- The names between the parentheses of a definition. -/
  | params (names : List String)
  /-- Expressions up to the end of the buffer. -/
  | program (trees : List Tree)

/-- An item of a chain. The additive tier is the inner one. -/
def Tier.item : Tier → Tree → Phrase
  | additive, tree => .operand tree
  | multiplicative, tree => .chain .additive tree

/-- An expression is a chain of the outer tier. -/
abbrev Phrase.expression (tree : Tree) : Phrase := .chain .multiplicative tree

/-- The current token is the punctuation `lexeme`. -/
abbrev PunctAt (tokens : Array Located) (pos : Nat) (lexeme : String) : Prop :=
  (Cursor.mk tokens pos).isPunct lexeme = true

/-- The current token is the keyword. -/
abbrev KeywordAt (tokens : Array Located) (pos : Nat) (keyword : Keyword) : Prop :=
  (Cursor.mk tokens pos).keyword? = some keyword

/-- The current token is a name, possibly a keyword. -/
abbrev NameAt (tokens : Array Located) (pos : Nat) (name : String) (span : Span) : Prop :=
  tokens[pos]? = some ⟨⟨.name, name⟩, span⟩

/-- The grammar: what stands in a buffer from one position to another. Chains go on
    for as long as an operator of their tier follows, and `else` belongs to the list
    that it follows. A comma may follow each element of a list. -/
inductive Reads (tokens : Array Located) : Phrase → Nat → Nat → Prop where
  | number {p : Nat} {lexeme : String} {span : Span} (htoken : tokens[p]? = some ⟨⟨.number, lexeme⟩, span⟩) :
    Reads tokens (.operand (.number lexeme)) p (p + 1)
  | string {p : Nat} {text : String} {span : Span} (htoken : tokens[p]? = some ⟨⟨.string, text⟩, span⟩) :
    Reads tokens (.operand (.string text)) p (p + 1)
  | name {p : Nat} {name : String} {span : Span} (htoken : NameAt tokens p name span)
    (hplain : Keyword.ofSpelling? name = none ∨ Keyword.ofSpelling? name = some .otherwise) :
    Reads tokens (.operand (.name name span)) p (p + 1)
  | call {p q : Nat} {name : String} {span : Span} {arguments : List Tree} (hkeyword : KeywordAt tokens p .call)
    (hname : NameAt tokens (p + 1) name span) (harguments : Reads tokens (.list arguments) (p + 2) q) :
    Reads tokens (.operand (.call name span arguments)) p q
  | cond {p r q : Nat} {test : Tree} {yes : List Tree} (hkeyword : KeywordAt tokens p .cond)
    (htest : Reads tokens (.expression test) (p + 1) r) (hyes : Reads tokens (.list yes) r q)
    (hno : ¬ KeywordAt tokens q .otherwise) : Reads tokens (.operand (.cond test yes [])) p q
  | condElse {p r s q : Nat} {test : Tree} {yes no : List Tree} (hkeyword : KeywordAt tokens p .cond)
    (htest : Reads tokens (.expression test) (p + 1) r) (hyes : Reads tokens (.list yes) r s)
    (helse : KeywordAt tokens s .otherwise) (hno : Reads tokens (.list no) (s + 1) q) :
    Reads tokens (.operand (.cond test yes no)) p q
  | forLoop {p a b c q : Nat} {first test step : Tree} {body : List Tree}
    (hkeyword : KeywordAt tokens p .forLoop) (hfirst : Reads tokens (.expression first) (p + 1) a)
    (hsemicolon : PunctAt tokens a ";") (htest : Reads tokens (.expression test) (a + 1) b)
    (hsemicolon' : PunctAt tokens b ";") (hstep : Reads tokens (.expression step) (b + 1) c)
    (hbody : Reads tokens (.list body) c q) : Reads tokens (.operand (.forLoop first test step body)) p q
  | whileLoop {p r q : Nat} {test : Tree} {body : List Tree} (hkeyword : KeywordAt tokens p .whileLoop)
    (htest : Reads tokens (.expression test) (p + 1) r) (hbody : Reads tokens (.list body) r q) :
    Reads tokens (.operand (.whileLoop test body)) p q
  | define {p r q : Nat} {name : String} {span : Span} {params : List String} {body : List Tree}
    (hkeyword : KeywordAt tokens p .define) (hname : NameAt tokens (p + 1) name span)
    (hopen : PunctAt tokens (p + 2) "(") (hparams : Reads tokens (.params params) (p + 3) r)
    (hclose : PunctAt tokens r ")") (hbody : Reads tokens (.list body) (r + 1) q) :
    Reads tokens (.operand (.define name params body)) p q
  | assign {p q : Nat} {name : String} {span : Span} {value : Tree} (hkeyword : KeywordAt tokens p .assign)
    (hname : NameAt tokens (p + 1) name span) (hequals : PunctAt tokens (p + 2) "=")
    (hvalue : Reads tokens (.expression value) (p + 3) q) : Reads tokens (.operand (.assign name value)) p q
  | group {p q : Nat} {located : Located} {elements : List Tree} (htoken : tokens[p]? = some located)
    (hlist : Reads tokens (.list elements) p q) : Reads tokens (.operand (.group located.span elements)) p q
  | chain {p r q : Nat} {tier : Tier} {first : Tree} {rest : List (Located × Tree)}
    (hfirst : Reads tokens (tier.item first) p r) (hrest : Reads tokens (.tail tier rest) r q) :
    Reads tokens (.chain tier (first.chained rest)) p q
  | tailEnd {p : Nat} {tier : Tier} (hend : tokens[p]?.filter (·.token.isOperator tier) = none) :
    Reads tokens (.tail tier []) p p
  | tailCons {p r q : Nat} {tier : Tier} {operator : Located} {item : Tree} {rest : List (Located × Tree)}
    (htoken : tokens[p]? = some operator) (hoperator : operator.token.isOperator tier = true)
    (hitem : Reads tokens (tier.item item) (p + 1) r) (hrest : Reads tokens (.tail tier rest) r q) :
    Reads tokens (.tail tier ((operator, item) :: rest)) p q
  | elementsEnd {p : Nat} (hclose : PunctAt tokens p ")") : Reads tokens (.elements []) p p
  | elementsComma {p r q : Nat} {tree : Tree} {trees : List Tree} (hfirst : Reads tokens (.expression tree) p r)
    (hcomma : PunctAt tokens r ",") (hrest : Reads tokens (.elements trees) (r + 1) q) :
    Reads tokens (.elements (tree :: trees)) p q
  | elementsPlain {p r q : Nat} {tree : Tree} {trees : List Tree} (hfirst : Reads tokens (.expression tree) p r)
    (hcomma : ¬ PunctAt tokens r ",") (hrest : Reads tokens (.elements trees) r q) :
    Reads tokens (.elements (tree :: trees)) p q
  | list {p q : Nat} {trees : List Tree} (hopen : PunctAt tokens p "(")
    (helements : Reads tokens (.elements trees) (p + 1) q) (hclose : PunctAt tokens q ")") :
    Reads tokens (.list trees) p (q + 1)
  | paramsEnd {p : Nat} (hclose : PunctAt tokens p ")") : Reads tokens (.params []) p p
  | paramsLast {p : Nat} {name : String} {span : Span} (hname : NameAt tokens p name span)
    (hcomma : ¬ PunctAt tokens (p + 1) ",") : Reads tokens (.params [name]) p (p + 1)
  | paramsComma {p q : Nat} {name : String} {span : Span} {names : List String}
    (hname : NameAt tokens p name span) (hcomma : PunctAt tokens (p + 1) ",")
    (hrest : Reads tokens (.params names) (p + 2) q) : Reads tokens (.params (name :: names)) p q
  | programEnd {p : Nat} (hend : tokens[p]? = none) : Reads tokens (.program []) p p
  | programCons {p r q : Nat} {tree : Tree} {trees : List Tree} (hfirst : Reads tokens (.expression tree) p r)
    (hrest : Reads tokens (.program trees) r q) : Reads tokens (.program (tree :: trees)) p q

end Rewind
