import Rewind.Cursor

namespace Rewind

/-- Several cursors side by side, some of them in the same buffer. -/
structure Desk where
  buffers : Array (Array Located)
  /-- For each cursor the number of its buffer and its position. -/
  cursors : Array (Nat × Nat)
  /-- The positions that were marked, over all cursors. -/
  marks : Array Nat := #[]

namespace Desk

/-- One cursor at the start of each source, each in a buffer of its own. -/
def ofSources (sources : List String) : Desk where
  buffers := (sources.map tokenize).toArray
  cursors := ((List.range sources.length).map fun n => (n, 0)).toArray

/-- What can be done with a cursor. -/
inductive Action where
  | look
  | advance
  | isPunct (lexeme : String)
  | keyword
  | count
  | mark
  | rewind (mark : Nat)
  | copy
  | shares (other : Nat)

/-- What an action tells. -/
inductive Answer where
  | nothing
  | flag (value : Bool)
  | keyword (keyword : Option Keyword)
  | number (n : Nat)

/-- The buffer number and position of a cursor. -/
def place (desk : Desk) (n : Nat) : Nat × Nat := desk.cursors[n]?.getD (0, 0)

/-- The cursor with number `n`. -/
def cursor (desk : Desk) (n : Nat) : Cursor :=
  ⟨desk.buffers[(desk.place n).1]?.getD #[], (desk.place n).2⟩

/-- Moves a cursor within its buffer. -/
def move (desk : Desk) (n pos : Nat) : Desk :=
  { desk with cursors := desk.cursors.setIfInBounds n ((desk.place n).1, pos) }

/-- Does something with the cursor with number `n`. Two cursors share a buffer
    when one is a copy of the other, not when their sources are alike. -/
def act (desk : Desk) (n : Nat) : Action → Answer × Desk
  | .look => (.nothing, desk)
  | .advance => (.nothing, desk.move n (desk.cursor n).advance.pos)
  | .isPunct lexeme => (.flag ((desk.cursor n).isPunct lexeme), desk)
  | .keyword => (.keyword (desk.cursor n).keyword?, desk)
  | .count => (.number (desk.cursor n).tokens.size, desk)
  | .mark => (.number desk.marks.size, { desk with marks := desk.marks.push (desk.cursor n).pos })
  | .rewind mark =>
    let pos := desk.marks[mark]?.getD 0
    (.flag (pos == (desk.cursor n).pos), desk.move n pos)
  | .copy => (.number desk.cursors.size, { desk with cursors := desk.cursors.push (desk.place n) })
  | .shares other => (.flag ((desk.place n).1 == (desk.place other).1), desk)

end Desk

end Rewind
