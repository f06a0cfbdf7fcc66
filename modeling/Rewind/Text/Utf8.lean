namespace Rewind.Text.Utf8

/-- A character that has been begun: the bits read so far and the ranges in
    which its remaining bytes must lie. -/
structure Begun where
  bits : Nat
  tail : List (Nat × Nat)

/-- Any continuation byte. -/
def continuation : Nat × Nat := (0x80, 0xbf)

/-- What byte `b` begins, if a character can begin with it. Overlong forms,
    surrogates and code points past the last one are ruled out by the range of
    the second byte. -/
def begin? (b : Nat) : Option Begun :=
  if b < 0x80 then some ⟨b, []⟩
  else if b < 0xc2 then none
  else if b < 0xe0 then some ⟨b - 0xc0, [continuation]⟩
  else if b < 0xf0 then
    let second := if b == 0xe0 then (0xa0, 0xbf) else if b == 0xed then (0x80, 0x9f) else continuation
    some ⟨b - 0xe0, [second, continuation]⟩
  else if b < 0xf5 then
    let second := if b == 0xf0 then (0x90, 0xbf) else if b == 0xf4 then (0x80, 0x8f) else continuation
    some ⟨b - 0xf0, [second, continuation, continuation]⟩
  else none

/-- The character that stands for bytes that are not part of any character. -/
def replacement : Char := '\ufffd'

/-- Decodes `bytes` in the middle of `begun`. A begun character that cannot go
    on, and a byte that begins none, each become one replacement character. -/
def decodeFrom : Option Begun → List UInt8 → List Char
  | none, [] => []
  | some _, [] => [replacement]
  | begun, byte :: bytes =>
    let b := byte.toNat
    let fresh (before : List Char) : List Char :=
      match begin? b with
      | none => before ++ replacement :: decodeFrom none bytes
      | some ⟨bits, []⟩ => before ++ Char.ofNat bits :: decodeFrom none bytes
      | some next => before ++ decodeFrom (some next) bytes
    match begun with
    | some ⟨bits, range :: tail⟩ =>
      if range.1 ≤ b && b ≤ range.2 then
        let bits := bits * 64 + (b - 0x80)
        match tail with
        | [] => Char.ofNat bits :: decodeFrom none bytes
        | tail => decodeFrom (some ⟨bits, tail⟩) bytes
      else fresh [replacement]
    | _ => fresh []

/-- The text of `bytes`, with replacement characters for what is not text. -/
def decodeLossy (bytes : ByteArray) : String :=
  String.ofList (decodeFrom none bytes.data.toList)

end Rewind.Text.Utf8
