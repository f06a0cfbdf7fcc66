import Rewind.Span

namespace Rewind

/-- An identifier that introduces a form of its own instead of a look-up. -/
inductive Keyword where
  | call
  | cond
  | otherwise
  | forLoop
  | whileLoop
  | define
  | assign
deriving DecidableEq, Repr

namespace Keyword

/-- The identifier that is this keyword. -/
def spelling : Keyword → String
  | call => "call"
  | cond => "if"
  | otherwise => "else"
  | forLoop => "for"
  | whileLoop => "while"
  | define => "fn"
  | assign => "set"

/-- Every keyword. -/
def all : List Keyword := [call, cond, otherwise, forLoop, whileLoop, define, assign]

/-- The keyword with this spelling, if there is one. -/
def ofSpelling? (text : String) : Option Keyword := all.find? (·.spelling == text)

theorem mem_all (k : Keyword) : k ∈ all := by
  cases k <;> simp [all]

theorem spelling_injective {j k : Keyword} (hspelling : j.spelling = k.spelling) : j = k := by
  cases j <;> cases k <;> first | rfl | simp [spelling] at hspelling

end Keyword

namespace Token

/-- The lexical class of a token. -/
inductive Kind where
  /-- A run of digits and dots. -/
  | number
  /-- The contents of a string literal, without its quotes. -/
  | string
  /-- An identifier or a keyword. -/
  | name
  /-- One of `( ) , = ;`. -/
  | punct
  /-- One of `+ - * / %`. -/
  | operator
deriving DecidableEq, Repr

/-- The word for the class in a diagnostic. -/
def Kind.word : Kind → String
  | number => "number"
  | string => "string"
  | name => "identifier"
  | punct => "punctuation"
  | operator => "operator"

end Token

/-- A lexical unit of a source. -/
structure Token where
  kind : Token.Kind
  lexeme : String
deriving DecidableEq, Repr

namespace Token

/-- Whether the token is the punctuation `lexeme`. A string literal with the
    same text is not. -/
def isPunct (token : Token) (lexeme : String) : Bool :=
  token.kind == .punct && token.lexeme == lexeme

/-- The keyword that the token is. Only an identifier can be one. -/
def keyword? (token : Token) : Option Keyword :=
  match token.kind with
  | .name => Keyword.ofSpelling? token.lexeme
  | _ => none

/-- The token the way a diagnostic mentions it: a string between quotes. -/
def text (token : Token) : String :=
  match token.kind with
  | .string => "\"" ++ token.lexeme ++ "\""
  | _ => token.lexeme

end Token

/-- A token and where it stands in its source. -/
structure Located where
  token : Token
  span : Span
deriving DecidableEq, Repr

end Rewind
