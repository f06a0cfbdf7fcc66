namespace Rewind.Text

/-- Bytes as text, one character below 256 for each of them. -/
def ofBytes (bytes : ByteArray) : String :=
  String.ofList (bytes.data.toList.map fun b => Char.ofNat b.toNat)

/-- The bytes that text stands for, in which every character is below 256. -/
def toBytes (text : String) : ByteArray := ⟨(text.toList.map fun c => UInt8.ofNat c.toNat).toArray⟩

/-- The bytes of a text in UTF-8, one character for each of them. -/
def widen (text : String) : String := ofBytes text.toByteArray

end Rewind.Text
