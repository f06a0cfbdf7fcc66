import Rewind.Token.Lexer

namespace Rewind

/-- A read position in a token buffer. -/
structure Cursor where
  tokens : Array Located
  pos : Nat
deriving DecidableEq, Repr

namespace Cursor

/-- The start of a source. -/
def ofSource (source : String) : Cursor := ⟨tokenize source, 0⟩

/-- The token under the cursor, if it is not past the last one. -/
@[inline]
def current? (cursor : Cursor) : Option Located := cursor.tokens[cursor.pos]?

/-- Whether no token is left. -/
@[inline]
def atEnd (cursor : Cursor) : Bool := cursor.tokens.size ≤ cursor.pos

/-- Moves past the current token. At the end it stays. -/
@[inline]
def advance (cursor : Cursor) : Cursor :=
  if cursor.atEnd then cursor else { cursor with pos := cursor.pos + 1 }

/-- Moves past `n` tokens, or to the end. -/
def advanceBy (cursor : Cursor) : (n : Nat) → Cursor
  | 0 => cursor
  | n + 1 => cursor.advance.advanceBy n

/-- Whether the current token is the punctuation `lexeme`. -/
@[inline]
def isPunct (cursor : Cursor) (lexeme : String) : Bool :=
  match cursor.current? with
  | some located => located.token.isPunct lexeme
  | none => false

/-- The keyword under the cursor. -/
@[inline]
def keyword? (cursor : Cursor) : Option Keyword :=
  cursor.current?.bind (·.token.keyword?)

theorem atEnd_iff_current? (cursor : Cursor) : cursor.atEnd ↔ cursor.current? = none := by
  simp [atEnd, current?]

end Cursor

end Rewind
