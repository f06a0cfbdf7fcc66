import Mathlib
import Rewind.Host.Shell
import Rewind.Proofs.Spelling

namespace Rewind

namespace Number

open Float.Model

/-- The bits are those of a number unless the exponent field is full and the fraction is not zero. -/
private theorem isNaN_ofBits {bits : UInt64}
    (hfraction : bits.toNat / fieldUnit % 2048 = 2047 → bits.toNat % fieldUnit = 0) :
    (Float.ofBits bits).isNaN = false := by
  have hmantissa : @UnpackedFloat.unpackExponent .binary64 bits.toBitVec = -1#_ →
      @UnpackedFloat.unpackMantissa .binary64 bits.toBitVec = 0#_ := by
    rw [UnpackedFloat.unpackExponent_def, UnpackedFloat.unpackMantissa_def]
    intro hexponent
    have hfull := congrArg BitVec.toNat hexponent
    rw [BitVec.extractLsb'_toNat, Nat.shiftRight_eq_div_pow] at hfull
    apply BitVec.eq_of_toNat_eq
    rw [BitVec.extractLsb'_toNat]
    exact hfraction hfull
  have hbits : @UnpackedFloat.isNaNBits .binary64 bits.toBitVec = false := by
    simpa [UnpackedFloat.isNaNBits] using hmantissa
  unfold Float.isNaN Float.ofBits Float.Model.isNaN Float.Model.ofBits Float.Model.pack Float.Model.unpack
  dsimp only
  rw [UnpackedFloat.pack_unpack, hbits, if_neg Bool.false_ne_true]
  unfold UnpackedFloat.unpack
  dsimp only
  split
  · rename_i hexponent
    rw [if_pos (hmantissa hexponent)]
    rfl
  · split
    · split <;> rfl
    · rfl

private theorem nearestBits_le (num den : Nat) : nearestBits num den ≤ 2047 * fieldUnit := by
  unfold nearestBits
  split
  · exact Nat.zero_le _
  · exact Nat.min_le_right ..

/-- What is too great for a double rounds to an infinity and never runs into the NaNs behind it. -/
private theorem isNaN_nearest (negative : Bool) (num den : Nat) : (nearest negative num den).isNaN = false := by
  apply isNaN_ofBits
  have hle := nearestBits_le num den
  generalize nearestBits num den = n at hle
  unfold fieldUnit at *
  unfold signUnit
  have hsize : UInt64.size = 0x10000000000000000 := rfl
  rw [UInt64.toNat_ofNat_of_lt' (by split <;> omega)]
  split <;> omega

private theorem Literal.isNaN_value (literal : Literal) : literal.value.isNaN = false := by
  unfold Literal.value
  dsimp only
  split
  · exact isNaN_nearest ..
  · split <;> exact isNaN_nearest ..

variable {text : List Char} {negative : Bool}

private theorem Literal.starts_of_ofUnsigned? {literal : Literal} (hread : ofUnsigned? negative text = some literal) :
    text.head?.any startsNumber = true := by
  obtain ⟨mantissa, power, whole, fraction, _, rfl, hmantissa, _, _⟩ := exists_of_ofUnsigned? hread
  cases hmantissa with
  | whole hwhole =>
    obtain ⟨c, rest, rfl⟩ := List.exists_cons_of_ne_nil hwhole.1
    simp [startsNumber, hwhole.2 c List.mem_cons_self]
  | point hwhole _ _ =>
    cases whole with
    | nil => rfl
    | cons c rest => simp [startsNumber, hwhole c List.mem_cons_self]

private theorem toNat_le_of_startsNumber {c : Char} (hstarts : startsNumber c = true) : c.toNat ≤ 57 := by
  unfold startsNumber at hstarts
  rcases Bool.or_eq_true_iff.1 hstarts with hdigit | hpoint
  · have hrange : 48 ≤ c.toNat ∧ c.toNat ≤ 57 := by
      simpa [Char.isDigit, UInt32.le_iff_toNat_le] using hdigit
    exact hrange.2
  · rw [beq_iff_eq.1 hpoint]
    decide

/-- No name of a special double begins with a digit or a point. -/
private theorem named?_of_starts (hstarts : text.head?.any startsNumber = true) : named? negative text = none := by
  cases text with
  | nil => cases hstarts
  | cons c text =>
    have hle : c.toNat ≤ 57 := toNat_le_of_startsNumber hstarts
    have hlower : c.toLower = c := by
      unfold Char.toLower
      rw [dif_neg]
      rintro ⟨hge, _⟩
      have hge : 65 ≤ c.toNat := hge
      omega
    have hne (d : Char) (hd : 57 < d.toNat) : c ≠ d := by
      rintro rfl
      omega
    simp [named?, hlower, hne 'i' (by decide), hne 'n' (by decide)]

/-- The test of the first character leaves nothing to read but a number. -/
private theorem guarded_eq :
    (if text.head?.any startsNumber then
      (named? negative text).or ((Literal.ofUnsigned? negative text).map Literal.value) else none) =
      (Literal.ofUnsigned? negative text).map Literal.value := by
  by_cases hstarts : text.head?.any startsNumber = true
  · rw [if_pos hstarts, named?_of_starts hstarts, Option.none_or]
  · rw [if_neg hstarts]
    cases hread : Literal.ofUnsigned? negative text with
    | none => rfl
    | some literal => exact absurd (Literal.starts_of_ofUnsigned? hread) hstarts

end Number

namespace Text

/-- `kept` is the text without its longest tail of characters that satisfy `drop`. -/
structure CutsTo (drop : Char → Bool) (text kept : List Char) : Prop where
  tail : ∃ tail, text = kept ++ tail ∧ ∀ c ∈ tail, drop c = true
  longest : ∀ c, kept.getLast? = some c → drop c = false

/-- `middle` is the text without the white space around it. -/
structure TrimsTo (text middle : List Char) : Prop where
  around : ∃ before after, text = before ++ (middle ++ after) ∧ (∀ c ∈ before, isBlank c = true) ∧
    ∀ c ∈ after, isBlank c = true
  first : ∀ c, middle.head? = some c → isBlank c = false
  last : ∀ c, middle.getLast? = some c → isBlank c = false

variable {drop : Char → Bool} {text middle kept : List Char}

private theorem cutsTo_trimEndWhile (drop : Char → Bool) (text : List Char) :
    CutsTo drop text (trimEndWhile drop text) where
  tail := by
    refine ⟨_, (trimEndWhile_append_tail drop text).symm, fun c hc => ?_⟩
    exact List.all_eq_true.1 List.all_takeWhile c (List.mem_reverse.1 hc)
  longest c hlast := by
    rw [trimEndWhile, List.getLast?_reverse] at hlast
    have hstop := List.head?_dropWhile_not drop text.reverse
    rw [hlast] at hstop
    simpa using hstop

private theorem CutsTo.trimEndWhile_eq (hcut : CutsTo drop text kept) : trimEndWhile drop text = kept := by
  obtain ⟨⟨tail, rfl, htail⟩, hlongest⟩ := hcut
  have hrun : ∀ c ∈ tail.reverse, drop c = true := fun c hc => htail c (List.mem_reverse.1 hc)
  have hstop : ∀ c, kept.reverse.head? = some c → drop c = false := by
    rw [List.head?_reverse]
    exact hlongest
  rw [trimEndWhile, List.reverse_append, (takeWhile_append_of_run hrun hstop).2, List.reverse_reverse]

private theorem trimsTo_trim (text : List Char) : TrimsTo text (trim text) := by
  obtain ⟨⟨after, hafter, hblank⟩, hlast⟩ := cutsTo_trimEndWhile isBlank (text.dropWhile isBlank)
  refine ⟨⟨text.takeWhile isBlank, after, ?_, List.all_eq_true.1 List.all_takeWhile, hblank⟩, fun c hc => ?_, hlast⟩
  · rw [trim, ← hafter, List.takeWhile_append_dropWhile]
  · have hhead : (text.dropWhile isBlank).head? = some c := by
      rw [hafter, List.head?_append]
      exact Option.or_eq_some_iff.2 (.inl hc)
    exact head?_dropWhile_eq_false hhead

private theorem TrimsTo.trim_eq (htrims : TrimsTo text middle) : trim text = middle := by
  obtain ⟨⟨before, after, rfl, hbefore, hafter⟩, hfirst, hlast⟩ := htrims
  unfold trim
  by_cases hempty : middle = []
  · subst hempty
    rw [List.nil_append, List.dropWhile_append_of_pos hbefore, List.dropWhile_eq_nil_iff.2 hafter]
    rfl
  · have hstop : ∀ c, (middle ++ after).head? = some c → isBlank c = false := by
      rw [List.head?_append_of_ne_nil _ hempty]
      exact hfirst
    rw [(takeWhile_append_of_run hbefore hstop).2]
    exact CutsTo.trimEndWhile_eq ⟨⟨after, rfl, hafter⟩, hlast⟩

private theorem trim_trimEndWhile (hblank : ∀ c, drop c = true → isBlank c = true) :
    trim (trimEndWhile drop text) = trim text := by
  obtain ⟨⟨tail, htext, htail⟩, _⟩ := cutsTo_trimEndWhile drop text
  obtain ⟨⟨before, after, hkept, hbefore, hafter⟩, hfirst, hlast⟩ := trimsTo_trim (trimEndWhile drop text)
  refine (TrimsTo.trim_eq ⟨⟨before, after ++ tail, ?_, hbefore, ?_⟩, hfirst, hlast⟩).symm
  · rw [← List.append_assoc _ after, ← List.append_assoc before, ← hkept, ← htext]
  · intro c hc
    rcases List.mem_append.1 hc with hc | hc
    · exact hafter c hc
    · exact hblank c (htail c hc)

end Text

namespace Host

variable {text : List Char}

/-- The host reads the numbers that are spelled, and nothing else. -/
private theorem numeric?_eq : numeric? text = (Number.Literal.parse? text).map Number.Literal.value := by
  by_cases hminus : text.head? = some '-'
  · obtain ⟨text, rfl⟩ := List.head?_eq_some_iff.1 hminus
    exact Number.guarded_eq
  · have hguard : numeric? text = if text.head?.any Number.startsNumber then Number.double? text else none := by
      unfold numeric?
      split
      · exact absurd rfl hminus
      · rfl
    rw [hguard, Number.Literal.parse?_plain hminus, ← Number.guarded_eq]
    refine ite_congr rfl (fun hstarts => ?_) fun _ => rfl
    unfold Number.double?
    split
    rename_i hsplit
    split at hsplit <;> cases hsplit
    · exact absurd rfl hminus
    · cases hstarts
    · rfl

private theorem isBlank_of_isLineEnd {c : Char} (hend : isLineEnd c = true) : Text.isBlank c = true := by
  unfold isLineEnd at hend
  rcases Bool.or_eq_true_iff.1 hend with hc | hc <;> rw [beq_iff_eq.1 hc] <;> decide +kernel

/-- The text that a shell has printed. -/
def printed (output : Shell.Output) : List Char := (Text.Utf8.decodeLossy output.stdout).toList

private theorem valueOfOutput_eq (output : Shell.Output) :
    valueOfOutput output.stdout =
      match Number.Literal.parse? (Text.trim (printed output)) with
      | some literal => .number literal.value
      | none => .string (String.ofList (Text.trimEndWhile isLineEnd (printed output))) := by
  unfold valueOfOutput printed
  dsimp only
  rw [numeric?_eq, Text.trim_trimEndWhile fun _ => isBlank_of_isLineEnd]
  cases Number.Literal.parse? (Text.trim (Text.Utf8.decodeLossy output.stdout).toList) <;> rfl

/-- What any shell prints is read as a number exactly if that is what it spells between
    white space, and as the one that it spells, which is never a NaN. It is the text
    without the line ends at its end otherwise. -/
theorem shell_output_is_a_number_iff_spelled_as_one (output : Shell.Output) (hfinish : output.finish = .exited 0) :
    ∃ value, answerOfShell output = .ok value ∧
      (∀ (run : List String → String → Shell.Output) (earlier : List String) (code : String),
        isRunnable code = true → run earlier code = output → (ofShell run).answer earlier code = .ok value) ∧
      Text.TrimsTo (printed output) (Text.trim (printed output)) ∧
      Text.CutsTo isLineEnd (printed output) (Text.trimEndWhile isLineEnd (printed output)) ∧
      ((∃ x, value = .number x) ↔ Text.trim (printed output) ∈ Number.numeral.matches') ∧
      (∀ x, value = .number x → x.isNaN = false ∧
        ∃ literal : Number.Literal, literal.Spells (Text.trim (printed output)) ∧ x = literal.value) ∧
      (Text.trim (printed output) ∉ Number.numeral.matches' →
        value = .string (String.ofList (Text.trimEndWhile isLineEnd (printed output)))) := by
  have hanswer : answerOfShell output = .ok (valueOfOutput output.stdout) := by
    unfold answerOfShell
    rw [hfinish]
    rfl
  refine ⟨_, hanswer, ?_, Text.trimsTo_trim _, Text.cutsTo_trimEndWhile _ _, ?_⟩
  · intro run earlier code hrunnable hrun
    subst hrun
    exact (if_pos hrunnable).trans hanswer
  · rw [valueOfOutput_eq, Number.mem_numeral_iff]
    cases hread : Number.Literal.parse? (Text.trim (printed output)) with
    | some literal =>
      have hliteral := Number.Literal.parse?_eq_some_iff.1 hread
      refine ⟨⟨fun _ => ⟨literal, hliteral⟩, fun _ => ⟨_, rfl⟩⟩, ?_, fun hnot => absurd ⟨literal, hliteral⟩ hnot⟩
      rintro _ ⟨⟩
      exact ⟨literal.isNaN_value, literal, hliteral, rfl⟩
    | none =>
      have hnot : ¬∃ literal : Number.Literal, literal.Spells (Text.trim (printed output)) := by
        rintro ⟨literal, hliteral⟩
        rw [Number.Literal.parse?_eq_some_iff.2 hliteral] at hread
        cases hread
      refine ⟨⟨?_, fun hsome => absurd hsome hnot⟩, ?_, fun _ => rfl⟩
      · rintro ⟨_, ⟨⟩⟩
      · rintro _ ⟨⟩

/-- A shell that has printed a negative number among blanks and line ends. -/
def chilly : Shell.Output where
  finish := .exited 0
  stdout := " -.5e+1\r\n\n".toUTF8
  stderr := .empty
  files := {}

theorem shell_output_is_a_number_iff_spelled_as_one_of_chilly :
    ∃ x : Float, answerOfShell chilly = .ok (.number x) ∧ x.isNaN = false := by
  have htrim : Text.trim (printed chilly) = ['-', '.', '5', 'e', '+', '1'] := by decide +kernel
  obtain ⟨value, hanswer, _, _, _, hnumber, hnumbers, _⟩ := shell_output_is_a_number_iff_spelled_as_one chilly rfl
  have hspelled : Text.trim (printed chilly) ∈ Number.numeral.matches' := by
    rw [htrim, Number.mem_numeral_iff]
    exact ⟨⟨true, [], ['5'], 1⟩, Number.Literal.parse?_eq_some_iff.1 rfl⟩
  obtain ⟨x, rfl⟩ := hnumber.2 hspelled
  exact ⟨x, hanswer, (hnumbers x rfl).1⟩

end Host

end Rewind
