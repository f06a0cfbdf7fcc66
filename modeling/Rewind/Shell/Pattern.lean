namespace Rewind.Shell

/-- A character of a field, with what is known of where it came from. -/
structure Glyph where
  char : Char
  /-- Whether it stands for itself, also where a pattern is read. -/
  quoted : Bool
deriving DecidableEq

/-- The text of a field. -/
def textOf (glyphs : List Glyph) : String := String.ofList (glyphs.map (·.char))

namespace Pattern

/-- An element of a pattern. -/
inductive Element where
  | char (c : Char)
  | one
  | many
  | set (negated : Bool) (ranges : List (Char × Char))

/-- Reads the ranges of a bracketed set up to its closing bracket, which is not
    the first character. -/
def readRanges : List Glyph → (first : Bool) → Option (List (Char × Char) × List Glyph)
  | [], _ => none
  | ⟨']', false⟩ :: rest, false => some ([], rest)
  | low :: ⟨'-', false⟩ :: high :: rest, _ =>
    if high.char == ']' && !high.quoted then
      (readRanges (high :: rest) false).map fun (ranges, after) =>
        ((low.char, low.char) :: ('-', '-') :: ranges, after)
    else (readRanges rest false).map fun (ranges, after) => ((low.char, high.char) :: ranges, after)
  | c :: rest, _ => (readRanges rest false).map fun (ranges, after) => ((c.char, c.char) :: ranges, after)

/-- Reads a set after its opening bracket. -/
def readSet (glyphs : List Glyph) : Option (Element × List Glyph) :=
  match glyphs with
  | ⟨'!', false⟩ :: rest => (readRanges rest true).map fun (ranges, after) => (.set true ranges, after)
  | rest => (readRanges rest true).map fun (ranges, after) => (.set false ranges, after)

/-- Reads a pattern. A bracket that is not closed stands for itself. -/
def read : (fuel : Nat) → List Glyph → List Element
  | 0, _ => []
  | _, [] => []
  | fuel + 1, glyph :: rest =>
    if glyph.quoted then .char glyph.char :: read fuel rest
    else if glyph.char == '?' then .one :: read fuel rest
    else if glyph.char == '*' then .many :: read fuel rest
    else if glyph.char == '[' then
      match readSet rest with
      | some (element, after) => element :: read fuel after
      | none => .char '[' :: read fuel rest
    else .char glyph.char :: read fuel rest

/-- Whether an element matches a single character. -/
def Element.accepts : Element → Char → Bool
  | char c, d => c == d
  | one, _ => true
  | many, _ => false
  | set negated ranges, d => (ranges.any fun (low, high) => low ≤ d && d ≤ high) != negated

/-- Whether a pattern matches a text as a whole. -/
def fits : List Element → List Char → Bool
  | [], text => text.isEmpty
  | .many :: rest, [] => fits rest []
  | .many :: rest, c :: text => fits rest (c :: text) || fits (.many :: rest) text
  | _ :: _, [] => false
  | element :: rest, c :: text => element.accepts c && fits rest text
termination_by elements text => elements.length + text.length

/-- Whether the glyphs hold anything that is read as a pattern. -/
def isPattern (glyphs : List Glyph) : Bool :=
  glyphs.any fun glyph => !glyph.quoted && (glyph.char == '*' || glyph.char == '?' || glyph.char == '[')

/-- The pattern that glyphs spell. -/
def ofGlyphs (glyphs : List Glyph) : List Element := read (glyphs.length + 1) glyphs

/-- The text without a match of the pattern at its start. -/
def dropHead (pattern : List Element) (longest : Bool) (text : List Char) : List Char :=
  let lengths := List.range (text.length + 1)
  let lengths := if longest then lengths.reverse else lengths
  match lengths.find? fun n => fits pattern (text.take n) with
  | some n => text.drop n
  | none => text

/-- The text without a match of the pattern at its end. -/
def dropTail (pattern : List Element) (longest : Bool) (text : List Char) : List Char :=
  let lengths := List.range (text.length + 1)
  let lengths := if longest then lengths else lengths.reverse
  match lengths.find? fun n => fits pattern (text.drop n) with
  | some n => text.take n
  | none => text

end Pattern

end Rewind.Shell
