import Rewind.Text.CharSet

namespace Rewind.Text

/-- The code points of white space: blanks, tabs, line ends and the fixed-width
    spaces of typography. -/
def blankTable : CharSet where
  ranges := #[
    (0x9, 0xd), (0x20, 0x20), (0x85, 0x85), (0xa0, 0xa0), (0x1680, 0x1680),
    (0x2000, 0x200a), (0x2028, 0x2029), (0x202f, 0x202f), (0x205f, 0x205f), (0x3000, 0x3000)
  ]

/-- Whether `c` is white space. -/
def isBlank (c : Char) : Bool := blankTable.contains c

/-- `text` without its longest tail of characters that satisfy `drop`. -/
def trimEndWhile (drop : Char → Bool) (text : List Char) : List Char :=
  (text.reverse.dropWhile drop).reverse

/-- `text` without the white space around it. -/
def trim (text : List Char) : List Char :=
  trimEndWhile isBlank (text.dropWhile isBlank)

/-- What is trimmed off the end is the longest tail of dropped characters. -/
theorem trimEndWhile_append_tail (drop : Char → Bool) (text : List Char) :
    trimEndWhile drop text ++ (text.reverse.takeWhile drop).reverse = text := by
  rw [trimEndWhile, ← List.reverse_append, List.takeWhile_append_dropWhile, List.reverse_reverse]

end Rewind.Text
