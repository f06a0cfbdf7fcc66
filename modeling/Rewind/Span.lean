namespace Rewind

/-- A region of source text, counted in bytes of its UTF-8 form. `stop` is
    exclusive. -/
structure Span where
  start : Nat
  stop : Nat
deriving DecidableEq, Repr

/-- The number of bytes that characters take in UTF-8. -/
def byteWidth (chars : List Char) : Nat := chars.foldr (fun c n => c.utf8Size + n) 0

@[simp]
theorem byteWidth_nil : byteWidth [] = 0 := rfl

@[simp]
theorem byteWidth_cons (c : Char) (chars : List Char) :
    byteWidth (c :: chars) = c.utf8Size + byteWidth chars := rfl

theorem byteWidth_append (before after : List Char) :
    byteWidth (before ++ after) = byteWidth before + byteWidth after := by
  induction before with
  | nil => simp
  | cons c before ih => simp [ih, Nat.add_assoc]

/-- What is left of `chars` after its first `n` bytes, if a character ends
    there. -/
def dropBytes? : (n : Nat) → (chars : List Char) → Option (List Char)
  | 0, chars => some chars
  | _ + 1, [] => none
  | n + 1, c :: chars => if c.utf8Size ≤ n + 1 then dropBytes? (n + 1 - c.utf8Size) chars else none

private theorem dropBytes?_zero (chars : List Char) : dropBytes? 0 chars = some chars := by
  cases chars <;> rfl

/-- Dropping the bytes of a character drops the character. -/
private theorem dropBytes?_cons (c : Char) (n : Nat) (chars : List Char) :
    dropBytes? (c.utf8Size + n) (c :: chars) = dropBytes? n chars := by
  have hpositive := c.utf8Size_pos
  obtain ⟨k, hk⟩ : ∃ k, c.utf8Size + n = k + 1 := ⟨c.utf8Size + n - 1, by omega⟩
  rw [hk, dropBytes?, if_pos (by omega)]
  congr 1
  omega

private theorem dropBytes?_append (before after : List Char) :
    dropBytes? (byteWidth before) (before ++ after) = some after := by
  induction before with
  | nil => exact dropBytes?_zero after
  | cons c before ih => rw [byteWidth_cons, List.cons_append, dropBytes?_cons, ih]

/-- The characters in the first `n` bytes of `chars`, if a character ends
    there. -/
def takeBytes? : (n : Nat) → (chars : List Char) → Option (List Char)
  | 0, _ => some []
  | _ + 1, [] => none
  | n + 1, c :: chars =>
    if c.utf8Size ≤ n + 1 then (takeBytes? (n + 1 - c.utf8Size) chars).map (c :: ·) else none

private theorem takeBytes?_zero (chars : List Char) : takeBytes? 0 chars = some [] := by
  cases chars <;> rfl

private theorem takeBytes?_cons (c : Char) (n : Nat) (chars : List Char) :
    takeBytes? (c.utf8Size + n) (c :: chars) = (takeBytes? n chars).map (c :: ·) := by
  have hpositive := c.utf8Size_pos
  obtain ⟨k, hk⟩ : ∃ k, c.utf8Size + n = k + 1 := ⟨c.utf8Size + n - 1, by omega⟩
  rw [hk, takeBytes?, if_pos (by omega)]
  congr 2
  omega

private theorem takeBytes?_append (before after : List Char) :
    takeBytes? (byteWidth before) (before ++ after) = some before := by
  induction before with
  | nil => exact takeBytes?_zero after
  | cons c before ih => rw [byteWidth_cons, List.cons_append, takeBytes?_cons, ih, Option.map_some]

namespace Span

/-- The span as `start:stop`. -/
def text (span : Span) : String := toString span.start ++ ":" ++ toString span.stop

/-- The span the way a diagnostic mentions it, as `(at start:stop)`. -/
def mention (span : Span) : String := "(at " ++ span.text ++ ")"

/-- The text that the span covers in `source`. There is none when the span runs
    backwards, past the end, or into the middle of a character. -/
def slice? (span : Span) (source : String) : Option String :=
  if span.start ≤ span.stop then
    (dropBytes? span.start source.toList).bind fun rest =>
      (takeBytes? (span.stop - span.start) rest).map String.ofList
  else none

/-- A span that begins after `before` and is as wide as `middle` covers it. -/
theorem slice?_append (before middle after : List Char) :
    slice? ⟨byteWidth before, byteWidth before + byteWidth middle⟩
      (String.ofList (before ++ middle ++ after)) = some (String.ofList middle) := by
  rw [slice?, if_pos (Nat.le_add_right _ _), String.toList_ofList, List.append_assoc,
    dropBytes?_append, Option.bind_some, Nat.add_sub_cancel_left, takeBytes?_append, Option.map_some]

end Span

end Rewind
