namespace Rewind.Text

/-- A set of characters, as inclusive ranges of code points. -/
structure CharSet where
  ranges : Array (Nat × Nat)

/-- Whether one of the ranges holds `c`. The ranges need not be in order. -/
def CharSet.contains (set : CharSet) (c : Char) : Bool :=
  set.ranges.any fun range => range.1 ≤ c.toNat && c.toNat ≤ range.2

end Rewind.Text
