import Rewind.Text.Cased
import Rewind.Token

namespace Rewind

/-- What a character does to the lexer when it stands at the start of a token. -/
inductive CharClass where
  | number
  | quote
  | name
  | punct
  | operator
  | skipped
deriving DecidableEq, Repr

/-- Digits and dots run together into numbers. -/
def isNumberChar (c : Char) : Bool := c.isDigit || c == '.'

/-- The three marks that open a string. It ends at the next mark of the same
    sort. -/
def isQuote (c : Char) : Bool := c == '\x27' || c == '\x22' || c == '\x60'

/-- Letters with case, underscores and question marks run together into names. -/
def isNameChar (c : Char) : Bool := c == '_' || c == '?' || Text.isCased c

def isPunctChar (c : Char) : Bool := c == '(' || c == ')' || c == ',' || c == '=' || c == ';'

def isOperatorChar (c : Char) : Bool := c == '+' || c == '-' || c == '*' || c == '/' || c == '%'

/-- The class of a character. Whatever belongs to no token is skipped. -/
def CharClass.of (c : Char) : CharClass :=
  if isNumberChar c then .number
  else if isQuote c then .quote
  else if isPunctChar c then .punct
  else if isOperatorChar c then .operator
  else if isNameChar c then .name
  else .skipped

/-- A token that covers the characters `chars` from `offset` on. -/
def Located.over (offset : Nat) (kind : Token.Kind) (lexeme chars : List Char) : Located where
  token := ⟨kind, String.ofList lexeme⟩
  span := ⟨offset, offset + byteWidth chars⟩

/-- Reads `first` and the longest run of characters after it that satisfy
    `accept` as one token. -/
def readRun (offset : Nat) (kind : Token.Kind) (accept : Char → Bool) (first : Char)
    (rest : List Char) : Located × List Char :=
  let lexeme := first :: rest.takeWhile accept
  (.over offset kind lexeme lexeme, rest.dropWhile accept)

/-- Reads a string after its opening quote. It ends at the next quote of the same
    sort, or with the source. -/
def readString (offset : Nat) (opening : Char) (rest : List Char) : Located × List Char :=
  let contents := rest.takeWhile (· != opening)
  match rest.dropWhile (· != opening) with
  | [] => (.over offset .string contents (opening :: contents), [])
  | closing :: rest => (.over offset .string contents (opening :: contents ++ [closing]), rest)

/-- Reads the token at the start of `first :: rest`, if `first` opens one, and
    what follows it. -/
def readToken (offset : Nat) (first : Char) (rest : List Char) : Option (Located × List Char) :=
  match CharClass.of first with
  | .number => some (readRun offset .number isNumberChar first rest)
  | .name => some (readRun offset .name isNameChar first rest)
  | .quote => some (readString offset first rest)
  | .punct => some (.over offset .punct [first] [first], rest)
  | .operator => some (.over offset .operator [first] [first], rest)
  | .skipped => none

/-- The first token of `chars` and what follows it. `offset` is where `chars`
    begins in the source. -/
def nextToken? (offset : Nat) : (chars : List Char) → Option (Located × List Char)
  | [] => none
  | c :: rest => (readToken offset c rest).or (nextToken? (offset + c.utf8Size) rest)

theorem length_dropWhile_le (accept : Char → Bool) (chars : List Char) :
    (chars.dropWhile accept).length ≤ chars.length :=
  (List.dropWhile_suffix accept).length_le

private theorem length_readString_le (offset : Nat) (opening : Char) (rest : List Char) :
    (readString offset opening rest).2.length ≤ rest.length := by
  have hdrop := length_dropWhile_le (· != opening) rest
  unfold readString
  split
  · simp
  · simp_all
    omega

/-- A token takes at least its first character. -/
private theorem length_le_of_readToken {offset : Nat} {first : Char} {rest after : List Char}
    {token : Located} (hread : readToken offset first rest = some (token, after)) :
    after.length ≤ rest.length := by
  unfold readToken at hread
  have hstring := length_readString_le offset first rest
  have hnumber := length_dropWhile_le isNumberChar rest
  have hname := length_dropWhile_le isNameChar rest
  split at hread <;> grind [readRun]

private theorem length_lt_of_nextToken? {offset : Nat} {chars after : List Char} {token : Located}
    (hnext : nextToken? offset chars = some (token, after)) : after.length < chars.length := by
  induction chars generalizing offset with
  | nil => simp [nextToken?] at hnext
  | cons c rest ih =>
    rw [nextToken?, Option.or_eq_some_iff] at hnext
    rcases hnext with hread | ⟨_, hrest⟩
    · exact Nat.lt_succ_of_le (length_le_of_readToken hread)
    · exact Nat.lt_succ_of_lt (ih hrest)

/-- The tokens of `chars`, which begins at `offset`, after those already found. -/
def tokensFrom (offset : Nat) (chars : List Char) (found : Array Located) : Array Located :=
  match _hnext : nextToken? offset chars with
  | none => found
  | some (token, rest) => tokensFrom token.span.stop rest (found.push token)
termination_by chars.length
decreasing_by exact length_lt_of_nextToken? _hnext

/-- The tokens of a source, in order. Every text has tokens: characters that
    belong to none are skipped, and an unclosed string runs to the end. -/
def tokenize (source : String) : Array Located := tokensFrom 0 source.toList #[]

end Rewind
