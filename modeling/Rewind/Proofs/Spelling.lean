import Mathlib.Computability.RegularExpressions
import Rewind.Number.Literal
import Rewind.Proofs.Lexing

namespace Rewind.Number

/-- The text consists of digits, and of one at least. -/
def Digits (text : List Char) : Prop := text ≠ [] ∧ ∀ c ∈ text, c.isDigit = true

/-- Digits after a sign that may be missing. -/
inductive SignedDigits : List Char → Int → Prop where
  | plain {text : List Char} (hdigits : Digits text) : SignedDigits text (digitsValue text)
  | plus {text : List Char} (hdigits : Digits text) : SignedDigits ('+' :: text) (digitsValue text)
  | minus {text : List Char} (hdigits : Digits text) : SignedDigits ('-' :: text) (-digitsValue text)

/-- The power of ten at the end of a number, which may be missing. -/
inductive PowerOfTen : List Char → Int → Prop where
  | missing : PowerOfTen [] 0
  | written {mark : Char} {text : List Char} {exponent : Int} (hmark : mark = 'e' ∨ mark = 'E')
    (hsigned : SignedDigits text exponent) : PowerOfTen (mark :: text) exponent

/-- Digits before and after a point. Without a point there are none after it, and one side
    may be empty but not both. -/
inductive Mantissa : List Char → List Char → List Char → Prop where
  | whole {whole : List Char} (hwhole : Digits whole) : Mantissa whole whole []
  | point {whole fraction : List Char} (hwhole : ∀ c ∈ whole, c.isDigit = true)
    (hfraction : ∀ c ∈ fraction, c.isDigit = true) (hsome : whole ≠ [] ∨ fraction ≠ []) :
    Mantissa (whole ++ '.' :: fraction) whole fraction

/-- The text spells the number. -/
inductive Literal.Spells : Literal → List Char → Prop where
  | plain {whole fraction mantissa power : List Char} {exponent : Int} (hmantissa : Mantissa mantissa whole fraction)
    (hpower : PowerOfTen power exponent) : Spells ⟨false, whole, fraction, exponent⟩ (mantissa ++ power)
  | minus {whole fraction mantissa power : List Char} {exponent : Int} (hmantissa : Mantissa mantissa whole fraction)
    (hpower : PowerOfTen power exponent) : Spells ⟨true, whole, fraction, exponent⟩ ('-' :: (mantissa ++ power))

section Reading

variable {text : List Char} {exponent : Int}

private theorem digits_iff : (text.isEmpty || !text.all Char.isDigit) = false ↔ Digits text := by
  simp [Digits]

private theorem Digits.not_mem {c : Char} (hdigits : Digits text) (hc : c.isDigit = false) : c ∉ text := by
  intro hmem
  rw [hdigits.2 c hmem] at hc
  cases hc

private theorem SignedDigits.of_signedDigits? (hread : signedDigits? text = some exponent) :
    SignedDigits text exponent := by
  unfold signedDigits? at hread
  split at hread
  rename_i hsplit
  split at hread <;> cases hread
  rename_i hdigits
  have hdigits := digits_iff.1 (Bool.eq_false_iff.2 hdigits)
  split at hsplit <;> cases hsplit
  · exact .minus hdigits
  · exact .plus hdigits
  · exact .plain hdigits

private theorem SignedDigits.signedDigits? (hsigned : SignedDigits text exponent) :
    signedDigits? text = some exponent := by
  cases hsigned with
  | plain hdigits =>
    have hminus : '-' ∉ text := hdigits.not_mem (by decide)
    have hplus : '+' ∉ text := hdigits.not_mem (by decide)
    unfold Number.signedDigits?
    split
    rename_i hsplit
    split at hsplit <;> cases hsplit
    · exact absurd List.mem_cons_self hminus
    · exact absurd List.mem_cons_self hplus
    · simp [digits_iff.2 hdigits]
  | plus hdigits => simp [Number.signedDigits?, digits_iff.2 hdigits]
  | minus hdigits => simp [Number.signedDigits?, digits_iff.2 hdigits]

private theorem exponent?_eq_some_iff : exponent? text = some exponent ↔ PowerOfTen text exponent := by
  constructor
  · intro hread
    unfold exponent? at hread
    split at hread
    · cases hread
      exact .missing
    · split at hread
      · rename_i hmark
        exact .written (by simpa using hmark) (.of_signedDigits? hread)
      · cases hread
  · rintro (_ | ⟨rfl | rfl, hsigned⟩)
    · rfl
    · exact hsigned.signedDigits?
    · exact hsigned.signedDigits?

/-- A power of ten does not go on with digits or with a point. -/
private theorem PowerOfTen.head? (hpower : PowerOfTen text exponent) {c : Char} (hc : text.head? = some c) :
    c.isDigit = false ∧ c ≠ '.' := by
  cases hpower with
  | missing => cases hc
  | written hmark _ =>
    cases hc
    rcases hmark with rfl | rfl <;> decide

/-- A number without its sign begins with a digit or with a point. -/
private theorem Mantissa.head?_append_ne {mantissa whole fraction : List Char}
    (hmantissa : Mantissa mantissa whole fraction) :
    (mantissa ++ text).head? ≠ some '-' := by
  cases hmantissa with
  | whole hwhole =>
    obtain ⟨c, rest, rfl⟩ := List.exists_cons_of_ne_nil hwhole.1
    rintro ⟨⟩
    exact absurd (hwhole.2 '-' List.mem_cons_self) (by decide)
  | point hwhole _ _ =>
    cases whole with
    | nil => simp
    | cons c rest =>
      rintro ⟨⟩
      exact absurd (hwhole '-' List.mem_cons_self) (by decide)

end Reading

namespace Literal

variable {text : List Char} {literal : Literal}

private theorem fraction?_of_ne (hne : text.head? ≠ some '.') : fraction? text = ([], text) := by
  unfold fraction?
  split
  · exact absurd rfl hne
  · rfl

private theorem parse?_minus : parse? ('-' :: text) = ofUnsigned? true text := rfl

theorem parse?_plain (hplain : text.head? ≠ some '-') : parse? text = ofUnsigned? false text := by
  unfold parse?
  split
  · exact absurd rfl hplain
  · rfl

/-- A number is read in the parts that it is spelled in. -/
private theorem ofUnsigned?_of_spelled {mantissa whole fraction power : List Char} {exponent : Int}
    (hmantissa : Mantissa mantissa whole fraction) (hpower : PowerOfTen power exponent) (negative : Bool) :
    ofUnsigned? negative (mantissa ++ power) = some ⟨negative, whole, fraction, exponent⟩ := by
  have hend : ∀ c, power.head? = some c → c.isDigit = false := fun c hc => (hpower.head? hc).1
  have hpoint : power.head? ≠ some '.' := fun hc => (hpower.head? hc).2 rfl
  unfold ofUnsigned?
  cases hmantissa with
  | whole hwhole =>
    obtain ⟨htake, hdrop⟩ := takeWhile_append_of_run hwhole.2 hend
    rw [htake, hdrop, fraction?_of_ne hpoint]
    simp [hwhole.1, exponent?_eq_some_iff.2 hpower]
  | point hwhole hfraction hsome =>
    have hdot : ∀ c, ('.' :: (fraction ++ power)).head? = some c → c.isDigit = false := by
      rintro c ⟨⟩
      decide
    obtain ⟨htake, hdrop⟩ := takeWhile_append_of_run hwhole hdot
    obtain ⟨htake', hdrop'⟩ := takeWhile_append_of_run hfraction hend
    rw [List.append_assoc, List.cons_append, htake, hdrop]
    simp only [fraction?, htake', hdrop', exponent?_eq_some_iff.2 hpower]
    simpa [imp_iff_not_or] using hsome

/-- What is read as a number is spelled as one. -/
theorem exists_of_ofUnsigned? {negative : Bool} (hread : ofUnsigned? negative text = some literal) :
    ∃ mantissa power whole fraction exponent, text = mantissa ++ power ∧ Mantissa mantissa whole fraction ∧
      PowerOfTen power exponent ∧ literal = ⟨negative, whole, fraction, exponent⟩ := by
  have hwhole : ∀ c ∈ text.takeWhile Char.isDigit, c.isDigit = true := List.all_eq_true.1 List.all_takeWhile
  have hbody := List.takeWhile_append_dropWhile (p := Char.isDigit) (l := text)
  unfold ofUnsigned? at hread
  dsimp only at hread
  generalize text.takeWhile Char.isDigit = whole at hread hwhole hbody
  generalize text.dropWhile Char.isDigit = rest at hread hbody
  split at hread
  · cases hread
  · rename_i hsome
    obtain ⟨exponent, hexponent, rfl⟩ := Option.map_eq_some_iff.1 hread
    rw [exponent?_eq_some_iff] at hexponent
    by_cases hpoint : rest.head? = some '.'
    · obtain ⟨rest, rfl⟩ := List.head?_eq_some_iff.1 hpoint
      have hfraction : ∀ c ∈ rest.takeWhile Char.isDigit, c.isDigit = true := List.all_eq_true.1 List.all_takeWhile
      refine ⟨_, _, whole, _, exponent, ?_, .point hwhole hfraction ?_, hexponent, rfl⟩
      · rw [← hbody, fraction?, List.append_assoc, List.cons_append, List.takeWhile_append_dropWhile]
      · simpa [fraction?, imp_iff_not_or] using hsome
    · rw [fraction?_of_ne hpoint] at hsome hexponent ⊢
      exact ⟨whole, rest, whole, [], exponent, hbody.symm, .whole ⟨by simpa using hsome, hwhole⟩, hexponent, rfl⟩

/-- Reading finds the number that is spelled. -/
theorem parse?_eq_some_iff : parse? text = some literal ↔ literal.Spells text := by
  constructor
  · intro hread
    by_cases hminus : text.head? = some '-'
    · obtain ⟨text, rfl⟩ := List.head?_eq_some_iff.1 hminus
      rw [parse?_minus] at hread
      obtain ⟨mantissa, power, whole, fraction, exponent, rfl, hmantissa, hpower, rfl⟩ := exists_of_ofUnsigned? hread
      exact .minus hmantissa hpower
    · rw [parse?_plain hminus] at hread
      obtain ⟨mantissa, power, whole, fraction, exponent, rfl, hmantissa, hpower, rfl⟩ := exists_of_ofUnsigned? hread
      exact .plain hmantissa hpower
  · rintro (⟨hmantissa, hpower⟩ | ⟨hmantissa, hpower⟩)
    · rw [parse?_plain hmantissa.head?_append_ne]
      exact ofUnsigned?_of_spelled hmantissa hpower false
    · rw [parse?_minus]
      exact ofUnsigned?_of_spelled hmantissa hpower true

end Literal

section Language

open RegularExpression

/-- One of the ten digits. -/
def digit : RegularExpression Char := ("0123456789".toList.map char).sum

/-- One digit or more. -/
def digits : RegularExpression Char := digit * digit.star

/-- The expression, or nothing. -/
def optional (r : RegularExpression Char) : RegularExpression Char := 1 + r

/-- `[+-]?D+`. -/
def signed : RegularExpression Char := optional (char '+' + char '-') * digits

/-- `D+(.D*)?|.D+`, where `.` is a dot. -/
def mantissa : RegularExpression Char := digits * optional (char '.' * digit.star) + char '.' * digits

/-- `[eE][+-]?D+`. -/
def power : RegularExpression Char := (char 'e' + char 'E') * signed

/-- Numbers as they are spelled: `-?(D+(.D*)?|.D+)([eE][+-]?D+)?`. -/
def numeral : RegularExpression Char := optional (char '-') * (mantissa * optional power)

variable {text : List Char}

private theorem isDigit_iff_mem {c : Char} : c.isDigit = true ↔ c ∈ "0123456789".toList := by
  constructor
  · intro hdigit
    obtain ⟨hlower, hupper⟩ : 48 ≤ c.toNat ∧ c.toNat ≤ 57 := by
      simpa [Char.isDigit, UInt32.le_iff_toNat_le] using hdigit
    have hall : ∀ n ≤ 57, 48 ≤ n → Char.ofNat n ∈ "0123456789".toList := by decide
    rw [← Char.ofNat_toNat c]
    exact hall _ hupper hlower
  · intro hmem
    simp only [String.reduceToList, List.mem_cons, List.not_mem_nil, or_false] at hmem
    rcases hmem with rfl | rfl | rfl | rfl | rfl | rfl | rfl | rfl | rfl | rfl <;> decide

private theorem mem_sum_char_iff {chars : List Char} :
    text ∈ (chars.map char).sum.matches' ↔ ∃ c ∈ chars, text = [c] := by
  induction chars with
  | nil => simp
  | cons c chars ih =>
    rw [List.map_cons, List.sum_cons, matches'_add, Language.mem_add, matches'_char, ih, List.exists_mem_cons_iff]
    rfl

private theorem mem_digit_iff : text ∈ digit.matches' ↔ ∃ c, c.isDigit = true ∧ text = [c] := by
  rw [digit, mem_sum_char_iff]
  simp only [isDigit_iff_mem]

private theorem mem_star_digit_iff : text ∈ digit.star.matches' ↔ ∀ c ∈ text, c.isDigit = true := by
  rw [matches'_star, Language.mem_kstar]
  constructor
  · rintro ⟨parts, rfl, hparts⟩ c hmem
    obtain ⟨part, hpart, hc⟩ := List.mem_flatten.1 hmem
    obtain ⟨d, hd, rfl⟩ := mem_digit_iff.1 (hparts part hpart)
    rwa [List.mem_singleton.1 hc]
  · intro hdigits
    refine ⟨text.map ([·]), ?_, fun part hpart => ?_⟩
    · rw [← List.flatMap_def, List.flatMap_singleton']
    obtain ⟨c, hc, rfl⟩ := List.mem_map.1 hpart
    exact mem_digit_iff.2 ⟨c, hdigits c hc, rfl⟩

private theorem mem_digits_iff : text ∈ digits.matches' ↔ Digits text := by
  rw [digits, matches'_mul, Language.mem_mul]
  simp only [mem_digit_iff, mem_star_digit_iff]
  constructor
  · rintro ⟨_, ⟨c, hc, rfl⟩, rest, hrest, rfl⟩
    exact ⟨by simp, List.forall_mem_cons.2 ⟨hc, hrest⟩⟩
  · rintro ⟨hne, hdigits⟩
    obtain ⟨c, rest, rfl⟩ := List.exists_cons_of_ne_nil hne
    obtain ⟨hc, hrest⟩ := List.forall_mem_cons.1 hdigits
    exact ⟨[c], ⟨c, hc, rfl⟩, rest, hrest, rfl⟩

private theorem mem_optional_iff {r : RegularExpression Char} :
    text ∈ (optional r).matches' ↔ text = [] ∨ text ∈ r.matches' := by
  rw [optional, matches'_add, matches'_epsilon, Language.mem_add, Language.mem_one]

private theorem mem_char_mul_iff {c : Char} {r : RegularExpression Char} :
    text ∈ (char c * r).matches' ↔ ∃ rest ∈ r.matches', text = c :: rest := by
  rw [matches'_mul, matches'_char, Language.mem_mul]
  constructor
  · rintro ⟨_, rfl, rest, hrest, rfl⟩
    exact ⟨rest, hrest, rfl⟩
  · rintro ⟨rest, hrest, rfl⟩
    exact ⟨[c], rfl, rest, hrest, rfl⟩

private theorem mem_signed_iff : text ∈ signed.matches' ↔ ∃ exponent, SignedDigits text exponent := by
  rw [signed, matches'_mul, Language.mem_mul]
  simp only [mem_optional_iff, matches'_add, matches'_char, Language.mem_add, mem_digits_iff]
  constructor
  · rintro ⟨_, rfl | rfl | rfl, rest, hrest, rfl⟩
    · exact ⟨_, .plain hrest⟩
    · exact ⟨_, .plus hrest⟩
    · exact ⟨_, .minus hrest⟩
  · rintro ⟨_, hdigits | hdigits | hdigits⟩
    · exact ⟨[], .inl rfl, _, hdigits, rfl⟩
    · exact ⟨['+'], .inr (.inl rfl), _, hdigits, rfl⟩
    · exact ⟨['-'], .inr (.inr rfl), _, hdigits, rfl⟩

private theorem mem_power_iff : text ∈ (optional power).matches' ↔ ∃ exponent, PowerOfTen text exponent := by
  rw [mem_optional_iff, power, matches'_mul, Language.mem_mul]
  simp only [matches'_add, matches'_char, Language.mem_add, mem_signed_iff]
  constructor
  · rintro (rfl | ⟨_, rfl | rfl, rest, ⟨exponent, hrest⟩, rfl⟩)
    · exact ⟨0, .missing⟩
    · exact ⟨exponent, .written (.inl rfl) hrest⟩
    · exact ⟨exponent, .written (.inr rfl) hrest⟩
  · rintro ⟨exponent, _ | ⟨rfl | rfl, hsigned⟩⟩
    · exact .inl rfl
    · exact .inr ⟨['e'], .inl rfl, _, ⟨exponent, hsigned⟩, rfl⟩
    · exact .inr ⟨['E'], .inr rfl, _, ⟨exponent, hsigned⟩, rfl⟩

private theorem mem_mantissa_iff : text ∈ mantissa.matches' ↔ ∃ whole fraction, Mantissa text whole fraction := by
  rw [mantissa, matches'_add, Language.mem_add, matches'_mul, Language.mem_mul]
  simp only [mem_optional_iff, mem_char_mul_iff, mem_digits_iff, mem_star_digit_iff]
  constructor
  · rintro (⟨whole, hwhole, rest, rfl | ⟨fraction, hfraction, rfl⟩, rfl⟩ | ⟨fraction, hfraction, rfl⟩)
    · exact ⟨whole, [], by simpa using .whole hwhole⟩
    · exact ⟨whole, fraction, .point hwhole.2 hfraction (.inl hwhole.1)⟩
    · exact ⟨[], fraction, .point (List.forall_mem_nil _) hfraction.2 (.inr hfraction.1)⟩
  · rintro ⟨whole, fraction, hwhole | ⟨hwhole, hfraction, hsome⟩⟩
    · exact .inl ⟨_, hwhole, [], .inl rfl, List.append_nil _⟩
    · by_cases hempty : whole = []
      · subst hempty
        exact .inr ⟨fraction, ⟨hsome.resolve_left (· rfl), hfraction⟩, rfl⟩
      · exact .inl ⟨whole, ⟨hempty, hwhole⟩, _, .inr ⟨fraction, hfraction, rfl⟩, rfl⟩

/-- The expression describes the texts that spell a number. -/
theorem mem_numeral_iff : text ∈ numeral.matches' ↔ ∃ literal : Literal, literal.Spells text := by
  rw [numeral, matches'_mul, Language.mem_mul]
  simp only [matches'_mul, Language.mem_mul, mem_optional_iff, matches'_char, mem_mantissa_iff]
  constructor
  · rintro ⟨_, rfl | rfl, _, ⟨_, ⟨whole, fraction, hmantissa⟩, _, hpower, rfl⟩, rfl⟩ <;>
      obtain ⟨exponent, hpower⟩ := mem_power_iff.1 (mem_optional_iff.2 hpower)
    · rw [List.nil_append]
      exact ⟨_, .plain hmantissa hpower⟩
    · rw [List.singleton_append]
      exact ⟨_, .minus hmantissa hpower⟩
  · rintro ⟨_, ⟨hmantissa, hpower⟩ | ⟨hmantissa, hpower⟩⟩ <;>
      have hpower := mem_optional_iff.1 (mem_power_iff.2 ⟨_, hpower⟩)
    · exact ⟨[], .inl rfl, _, ⟨_, ⟨_, _, hmantissa⟩, _, hpower, rfl⟩, rfl⟩
    · exact ⟨['-'], .inr rfl, _, ⟨_, ⟨_, _, hmantissa⟩, _, hpower, rfl⟩, rfl⟩

end Language

end Rewind.Number
