import Rewind.Error
import Rewind.Number.Numeral
import Rewind.Proofs.Lexing
import Rewind.Value.Operator

namespace Rewind

/-- A number as it is written: digits and dots. -/
structure Digits where
  chars : List Char
  nonempty : chars ≠ []
  digits : ∀ c ∈ chars, isNumberChar c = true

/-- A string as it is written, between two marks that it does not contain. -/
structure Quotation where
  mark : Char
  contents : List Char
  quote : isQuote mark = true
  closed : mark ∉ contents

/-- What may stand between two tokens. -/
structure Gap where
  chars : List Char
  skipped : ∀ c ∈ chars, CharClass.of c = .skipped

/-- A binary operator. -/
inductive Operator where
  | plus
  | minus
  | times
  | divide
  | modulo
deriving DecidableEq

namespace Operator

def sign : Operator → Char
  | plus => '+'
  | minus => '-'
  | times => '*'
  | divide => '/'
  | modulo => '%'

def tier : Operator → Tier
  | plus | minus => .additive
  | times | divide | modulo => .multiplicative

def token (operator : Operator) : Token := ⟨.operator, String.ofList [operator.sign]⟩

/-- The operator on two numbers. -/
def arithmetic : Operator → Float → Float → Float
  | plus, x, y => x + y
  | minus, x, y => x - y
  | times, x, y => x * y
  | divide, x, y => x / y
  | modulo, x, y => Number.remainder x y

/-- What the operator yields, if it is defined on these operands: numbers take every operator,
    and a sum with a string is the two texts in a row. -/
def value? : Operator → Value → Value → Option Value
  | operator, .number x, .number y => some (.number (operator.arithmetic x y))
  | plus, .string a, right => some (.string (a ++ right.text))
  | plus, left, .string b => some (.string (left.text ++ b))
  | _, _, _ => none

theorem operate?_eq (operator : Operator) (left right : Value) :
    Value.operate? operator.token.lexeme left right = operator.value? left right := by
  cases operator <;> cases left <;> cases right <;> rfl

theorem isOperator_token (operator : Operator) (tier : Tier) :
    operator.token.isOperator tier = true ↔ operator.tier = tier := by
  cases operator <;> cases tier <;> decide

private theorem spelled (operator : Operator) : operator.token.Spelled [operator.sign] :=
  .operator (by cases operator <;> decide)

end Operator

/-- A tree of operators over written numbers and strings. -/
inductive Formula where
  | number (digits : Digits)
  | string (quotation : Quotation)
  | binary (operator : Operator) (left right : Formula)

namespace Formula

/-- The tier of the outermost operator. A literal has none. -/
def tier? : Formula → Option Tier
  | number _ | string _ => none
  | binary operator _ _ => some operator.tier

/-- Whether a left operand needs parentheses. Additive operators bind tighter, and each tier
    groups to the left. -/
def wrapsLeft (operator : Operator) (left : Formula) : Bool :=
  operator.tier == .additive && left.tier? == some .multiplicative

/-- Whether a right operand needs parentheses. -/
def wrapsRight (operator : Operator) (right : Formula) : Bool :=
  match operator.tier with
  | .additive => right.tier?.isSome
  | .multiplicative => right.tier? == some .multiplicative

/-- Text between parentheses, if they are needed. -/
def enclose (wrapped : Bool) (text : List Char) : List Char := if wrapped then '(' :: (text ++ [')']) else text

/-- Where the text inside of the parentheses begins, if there are any. -/
def inside (wrapped : Bool) (offset : Nat) : Nat := if wrapped then offset + 1 else offset

/-- How many parentheses are open at once at most. -/
def nesting : Formula → Nat
  | number _ | string _ => 0
  | binary operator left right =>
    max (left.nesting + (wrapsLeft operator left).toNat) (right.nesting + (wrapsRight operator right).toNat)

section Gaps

variable (gap : Gap)

/-- The formula with parentheses only where they are needed. -/
def text : Formula → List Char
  | number digits => digits.chars
  | string quotation => quotation.mark :: quotation.contents ++ [quotation.mark]
  | binary operator left right =>
    enclose (wrapsLeft operator left) left.text ++ (gap.chars ++ operator.sign ::
      (gap.chars ++ enclose (wrapsRight operator right) right.text))

/-- Where the operator stands in a text that begins at `offset`. -/
def signOffset (operator : Operator) (left : Formula) (offset : Nat) : Nat :=
  offset + byteWidth (enclose (wrapsLeft operator left) (left.text gap)) + byteWidth gap.chars

/-- Where the right operand begins, with its parentheses. -/
def rightOffset (operator : Operator) (left : Formula) (offset : Nat) : Nat :=
  signOffset gap operator left offset + operator.sign.utf8Size + byteWidth gap.chars

/-- The value of the formula, whose text begins at `offset`: the left side, the right side, and
    then the operator, which fails where it stands. -/
def eval : Formula → (offset : Nat) → Except Error Value
  | number digits, _ => .ok (.number (Number.ofNumeral (String.ofList digits.chars)))
  | string quotation, _ => .ok (.string (String.ofList quotation.contents))
  | binary operator left right, offset => do
    let x ← left.eval (inside (wrapsLeft operator left) offset)
    let y ← right.eval (inside (wrapsRight operator right) (rightOffset gap operator left offset))
    match operator.value? x y with
    | some value => .ok value
    | none => .error (.operands (.spanning (signOffset gap operator left offset) operator.token [operator.sign]) x y)

/-- Tokens between parentheses, if they are needed. -/
def encloseTokens (wrapped : Bool) (text : List Char) (tokens : Nat → List Located) (offset : Nat) : List Located :=
  if wrapped then .spanning offset ⟨.punct, "("⟩ ['('] :: (tokens (offset + 1) ++
    [.spanning (offset + 1 + byteWidth text) ⟨.punct, ")"⟩ [')']])
  else tokens offset

/-- The tokens of the formula, whose text begins at `offset`. -/
def tokens : Formula → (offset : Nat) → List Located
  | number digits, offset => [.spanning offset ⟨.number, String.ofList digits.chars⟩ digits.chars]
  | string quotation, offset =>
    [.spanning offset ⟨.string, String.ofList quotation.contents⟩
      (quotation.mark :: quotation.contents ++ [quotation.mark])]
  | binary operator left right, offset =>
    encloseTokens (wrapsLeft operator left) (left.text gap) left.tokens offset ++
      .spanning (signOffset gap operator left offset) operator.token [operator.sign] ::
      encloseTokens (wrapsRight operator right) (right.text gap) right.tokens (rightOffset gap operator left offset)

end Gaps

end Formula

/-- A character that does not go on with a number. -/
def EndsNumber (rest : List Char) : Prop := ∀ c, rest.head? = some c → isNumberChar c = false

namespace Gap

variable {offset : Nat} {rest : List Char} {tokens : List Located}

private theorem laid (gap : Gap) (hrest : Laid (offset + byteWidth gap.chars) rest tokens) :
    Laid offset (gap.chars ++ rest) tokens := by
  obtain ⟨chars, hskipped⟩ := gap
  induction chars generalizing offset with
  | nil => exact hrest
  | cons c chars ih =>
    refine .gap (hskipped c List.mem_cons_self) (ih (fun d hd => hskipped d (List.mem_cons_of_mem c hd)) ?_)
    rwa [byteWidth_cons, ← Nat.add_assoc] at hrest

private theorem endsNumber (gap : Gap) (hrest : EndsNumber rest) : EndsNumber (gap.chars ++ rest) := by
  obtain ⟨chars, hskipped⟩ := gap
  cases chars with
  | nil => exact hrest
  | cons c chars =>
    rintro d ⟨⟩
    exact (CharClass.not_of_skipped (hskipped c List.mem_cons_self)).1

end Gap

namespace Formula

variable {gap : Gap} {rest : List Char} {tokens' : List Located}

private theorem endsNumber_cons {c : Char} (hc : isNumberChar c = false) : EndsNumber (c :: rest) := by
  rintro d ⟨⟩
  exact hc

/-- Parentheses are tokens of their own. -/
private theorem laid_enclose (wrapped : Bool) {text : List Char} {tokens : Nat → List Located}
    (hlaid : ∀ {offset rest tokens'}, Laid (offset + byteWidth text) rest tokens' → EndsNumber rest →
      Laid offset (text ++ rest) (tokens offset ++ tokens')) {offset : Nat}
    (hrest : Laid (offset + byteWidth (enclose wrapped text)) rest tokens') (hends : EndsNumber rest) :
    Laid offset (enclose wrapped text ++ rest) (encloseTokens wrapped text tokens offset ++ tokens') := by
  cases wrapped with
  | false => exact hlaid hrest hends
  | true =>
    have hclose : Token.Spelled ⟨.punct, ")"⟩ [')'] := .punct (c := ')') rfl
    have hopen : Token.Spelled ⟨.punct, "("⟩ ['('] := .punct (c := '(') rfl
    have hwidth : offset + byteWidth (enclose true text) = offset + 1 + byteWidth text + byteWidth [')'] := by
      simp only [enclose, if_true, byteWidth_cons, byteWidth_append, byteWidth_nil]
      have hone : '('.utf8Size = 1 := rfl
      omega
    rw [hwidth] at hrest
    have hinside := hlaid (.token hclose (fun _ _ => rfl) hrest) (endsNumber_cons rfl)
    have hwhole : Laid offset (['('] ++ _) (_ :: _) := .token hopen (fun _ _ => rfl) hinside
    simpa [enclose, encloseTokens] using hwhole

private theorem laid (f : Formula) {offset : Nat} (hrest : Laid (offset + byteWidth (f.text gap)) rest tokens')
    (hends : EndsNumber rest) : Laid offset (f.text gap ++ rest) (f.tokens gap offset ++ tokens') := by
  induction f generalizing offset rest tokens' with
  | number digits => exact .token (.run digits.nonempty digits.digits) hends hrest
  | string quotation => exact .token (.string quotation.quote quotation.closed) (fun _ _ => rfl) hrest
  | binary operator left right ihleft ihright =>
    have hsign : isNumberChar operator.sign = false := by cases operator <;> rfl
    have hright : Laid (rightOffset gap operator left offset)
        (enclose (wrapsRight operator right) (right.text gap) ++ rest)
        (encloseTokens (wrapsRight operator right) (right.text gap) (right.tokens gap)
          (rightOffset gap operator left offset) ++ tokens') := by
      refine laid_enclose _ ihright ?_ hends
      simp only [text, byteWidth_append, byteWidth_cons, ← Nat.add_assoc] at hrest
      exact hrest
    have hoperator : Laid (signOffset gap operator left offset) ([operator.sign] ++ _) (_ :: _) :=
      .token operator.spelled (fun _ _ => rfl) (gap.laid hright)
    have hleft := laid_enclose (wrapsLeft operator left) ihleft (gap.laid hoperator)
      (gap.endsNumber (endsNumber_cons hsign))
    simpa [text, tokens] using hleft

/-- The tokens of the formula are what its text is read as. -/
theorem tokenize_text (f : Formula) : (tokenize (String.ofList (f.text gap))).toList = f.tokens gap 0 := by
  have hlaid : Laid 0 (f.text gap ++ []) (f.tokens gap 0 ++ []) :=
    f.laid .done (fun c hhead => by cases hhead)
  rw [List.append_nil, List.append_nil, ← String.toList_ofList (l := f.text gap)] at hlaid
  exact ((Laid.iff_tokenize _).1 hlaid).symm

end Formula

end Rewind
