import Rewind.Token.Lexer

namespace Rewind

namespace CharClass

variable {c : Char}

/-- No character before the capital letters has case. -/
private theorem isCased_eq_false_of_lt (hlt : c.toNat < 0x41) : Text.isCased c = false := by
  have hranges : Text.casedTable.ranges.all (fun range => 0x41 ≤ range.1) = true := by decide +kernel
  unfold Text.isCased Text.CharSet.contains
  generalize Text.casedTable.ranges = ranges at hranges
  rw [Array.all_eq_true'] at hranges
  refine Array.any_eq_false'.2 fun range hmem => ?_
  have hrange := of_decide_eq_true (hranges range hmem)
  simp only [Bool.and_eq_true, decide_eq_true_eq, not_and]
  omega

private theorem isNameChar_eq_false_of_lt (hlt : c.toNat < 0x41) (hne : c ≠ '?') : isNameChar c = false := by
  have hne' : c ≠ '_' := by
    rintro rfl
    exact absurd hlt (by decide)
  simp [isNameChar, hne, hne', isCased_eq_false_of_lt hlt]

private theorem isNameChar_eq_false_of_number (hnumber : isNumberChar c = true) : isNameChar c = false := by
  simp only [isNumberChar, Char.isDigit, Bool.or_eq_true, Bool.and_eq_true, decide_eq_true_eq, beq_iff_eq]
    at hnumber
  rcases hnumber with ⟨_, hle⟩ | rfl
  · have hle : c.toNat ≤ 57 := hle
    refine isNameChar_eq_false_of_lt (by omega) ?_
    rintro rfl
    exact absurd hle (by decide)
  · exact isNameChar_eq_false_of_lt (by decide) (by decide)

private theorem isNameChar_eq_false_of_quote (hquote : isQuote c = true) : isNameChar c = false := by
  simp only [isQuote, Bool.or_eq_true, beq_iff_eq] at hquote
  rcases hquote with (rfl | rfl) | rfl
  · exact isNameChar_eq_false_of_lt (by decide) (by decide)
  · exact isNameChar_eq_false_of_lt (by decide) (by decide)
  · -- the one mark that stands between the letters
    decide +kernel

private theorem isNameChar_eq_false_of_punct (hpunct : isPunctChar c = true) : isNameChar c = false := by
  simp only [isPunctChar, Bool.or_eq_true, beq_iff_eq] at hpunct
  rcases hpunct with (((rfl | rfl) | rfl) | rfl) | rfl <;>
    exact isNameChar_eq_false_of_lt (by decide) (by decide)

private theorem isNameChar_eq_false_of_operator (hoperator : isOperatorChar c = true) : isNameChar c = false := by
  simp only [isOperatorChar, Bool.or_eq_true, beq_iff_eq] at hoperator
  rcases hoperator with (((rfl | rfl) | rfl) | rfl) | rfl <;>
    exact isNameChar_eq_false_of_lt (by decide) (by decide)

theorem of_number (hnumber : isNumberChar c = true) : of c = .number := if_pos hnumber

theorem of_quote (hquote : isQuote c = true) : of c = .quote := by
  simp only [isQuote, Bool.or_eq_true, beq_iff_eq] at hquote
  rcases hquote with (rfl | rfl) | rfl <;> decide

theorem of_punct (hpunct : isPunctChar c = true) : of c = .punct := by
  simp only [isPunctChar, Bool.or_eq_true, beq_iff_eq] at hpunct
  rcases hpunct with (((rfl | rfl) | rfl) | rfl) | rfl <;> decide

theorem of_operator (hoperator : isOperatorChar c = true) : of c = .operator := by
  simp only [isOperatorChar, Bool.or_eq_true, beq_iff_eq] at hoperator
  rcases hoperator with (((rfl | rfl) | rfl) | rfl) | rfl <;> decide

/-- A letter is of no other class, so the order in which the classes are tried does
    not matter. -/
theorem of_name (hname : isNameChar c = true) : of c = .name := by
  have hother {test : Char → Bool} (htest : test c = true → isNameChar c = false) : test c = false := by
    rw [← Bool.not_eq_true]
    intro htrue
    rw [htest htrue] at hname
    cases hname
  unfold of
  simp [hother isNameChar_eq_false_of_number, hother isNameChar_eq_false_of_quote,
    hother isNameChar_eq_false_of_punct, hother isNameChar_eq_false_of_operator, hname]

theorem of_skipped (hnumber : isNumberChar c = false) (hquote : isQuote c = false) (hname : isNameChar c = false)
    (hpunct : isPunctChar c = false) (hoperator : isOperatorChar c = false) : of c = .skipped := by
  simp [of, hnumber, hquote, hname, hpunct, hoperator]

/-- A character that is skipped belongs to no other class. -/
theorem not_of_skipped (hskipped : of c = .skipped) :
    isNumberChar c = false ∧ isQuote c = false ∧ isNameChar c = false ∧ isPunctChar c = false ∧
      isOperatorChar c = false := by
  refine ⟨?_, ?_, ?_, ?_, ?_⟩ <;> rw [← Bool.not_eq_true] <;> intro htrue
  · rw [of_number htrue] at hskipped; cases hskipped
  · rw [of_quote htrue] at hskipped; cases hskipped
  · rw [of_name htrue] at hskipped; cases hskipped
  · rw [of_punct htrue] at hskipped; cases hskipped
  · rw [of_operator htrue] at hskipped; cases hskipped

end CharClass

namespace Token

/-- Whether `c` next to a token of this kind would be part of it. -/
def Kind.runsOn : Kind → Char → Bool
  | .number, c => isNumberChar c
  | .name, c => isNameChar c
  | _, _ => false

/-- The text that a token is spelled with: the lexeme itself, or the lexeme between
    two quotes that it does not contain. -/
inductive Spelled : Token → List Char → Prop where
  | run {kind : Kind} {text : List Char} (hnonempty : text ≠ [])
    (hall : ∀ c ∈ text, kind.runsOn c = true) : Spelled ⟨kind, String.ofList text⟩ text
  | punct {c : Char} (hpunct : isPunctChar c = true) : Spelled ⟨.punct, String.ofList [c]⟩ [c]
  | operator {c : Char} (hoperator : isOperatorChar c = true) : Spelled ⟨.operator, String.ofList [c]⟩ [c]
  | string {quote : Char} {contents : List Char} (hquote : isQuote quote = true) (hnot : quote ∉ contents) :
    Spelled ⟨.string, String.ofList contents⟩ (quote :: contents ++ [quote])

/-- The text of a string without a closing quote. -/
def Unclosed (token : Token) (text : List Char) : Prop :=
  ∃ quote contents, isQuote quote = true ∧ quote ∉ contents ∧
    token = ⟨.string, String.ofList contents⟩ ∧ text = quote :: contents

end Token

/-- The token that stands at `offset` with the text `text`. -/
def Located.spanning (offset : Nat) (token : Token) (text : List Char) : Located :=
  ⟨token, ⟨offset, offset + byteWidth text⟩⟩

/-- How tokens are laid out in a text that begins at `offset`: between them stand
    skipped characters only, each has its whole run, and an unclosed string is the
    last one. -/
inductive Laid : Nat → List Char → List Located → Prop where
  | done {offset : Nat} : Laid offset [] []
  | gap {offset : Nat} {c : Char} {rest : List Char} {tokens : List Located}
    (hskipped : CharClass.of c = .skipped) (hrest : Laid (offset + c.utf8Size) rest tokens) :
    Laid offset (c :: rest) tokens
  | token {offset : Nat} {token : Token} {text rest : List Char} {tokens : List Located}
    (hspelled : token.Spelled text) (hlongest : ∀ c, rest.head? = some c → token.kind.runsOn c = false)
    (hrest : Laid (offset + byteWidth text) rest tokens) :
    Laid offset (text ++ rest) (.spanning offset token text :: tokens)
  | unclosed {offset : Nat} {token : Token} {text : List Char} (hunclosed : token.Unclosed text) :
    Laid offset text [.spanning offset token text]

section Reading

variable {offset : Nat} {c : Char} {rest : List Char}

theorem head?_dropWhile_eq_false {accept : Char → Bool} {chars : List Char} {c : Char}
    (hhead : (chars.dropWhile accept).head? = some c) : accept c = false := by
  have hnot := List.head?_dropWhile_not accept chars
  rw [hhead] at hnot
  exact hnot

/-- A run of accepted characters before one that is not accepted. -/
theorem takeWhile_append_of_run {accept : Char → Bool} {run : List Char} (hall : ∀ c ∈ run, accept c = true)
    (hstop : ∀ c, rest.head? = some c → accept c = false) :
    (run ++ rest).takeWhile accept = run ∧ (run ++ rest).dropWhile accept = rest := by
  rw [List.takeWhile_append_of_pos hall, List.dropWhile_append_of_pos hall]
  cases rest with
  | nil => simp
  | cons c rest => simp [hstop c rfl]

private theorem readToken_of_run {kind : Token.Kind} {text : List Char} (hall : ∀ d ∈ c :: text, kind.runsOn d = true)
    (hstop : ∀ d, rest.head? = some d → kind.runsOn d = false) :
    readToken offset c (text ++ rest) =
      some (.spanning offset ⟨kind, String.ofList (c :: text)⟩ (c :: text), rest) := by
  have hfirst := hall c (List.mem_cons_self ..)
  have hrun := takeWhile_append_of_run (fun d hd => hall d (List.mem_cons_of_mem _ hd)) hstop
  unfold readToken readRun
  cases kind with
  | number =>
    have hrun : (text ++ rest).takeWhile isNumberChar = text ∧ (text ++ rest).dropWhile isNumberChar = rest := hrun
    rw [CharClass.of_number hfirst]
    simp only [hrun.1, hrun.2]
    rfl
  | name =>
    have hrun : (text ++ rest).takeWhile isNameChar = text ∧ (text ++ rest).dropWhile isNameChar = rest := hrun
    rw [CharClass.of_name hfirst]
    simp only [hrun.1, hrun.2]
    rfl
  | string => cases hfirst
  | punct => cases hfirst
  | operator => cases hfirst

private theorem ne_of_not_mem {quote : Char} {contents : List Char} (hnot : quote ∉ contents) :
    ∀ d ∈ contents, (d != quote) = true :=
  fun _ hmem => bne_iff_ne.2 fun heq => hnot (heq ▸ hmem)

private theorem readToken_of_string {quote : Char} {contents : List Char} (hquote : isQuote quote = true)
    (hnot : quote ∉ contents) :
    readToken offset quote (contents ++ quote :: rest) =
      some (.spanning offset ⟨.string, String.ofList contents⟩ (quote :: contents ++ [quote]), rest) := by
  have hstop : ∀ d, (quote :: rest).head? = some d → (d != quote) = false := by simp
  have hrun := takeWhile_append_of_run (ne_of_not_mem hnot) hstop
  unfold readToken readString
  rw [CharClass.of_quote hquote]
  simp only [hrun.1, hrun.2]
  rfl

private theorem readToken_of_unclosed {quote : Char} {contents : List Char} (hquote : isQuote quote = true)
    (hnot : quote ∉ contents) :
    readToken offset quote contents =
      some (.spanning offset ⟨.string, String.ofList contents⟩ (quote :: contents), []) := by
  have hstop : ∀ d, ([] : List Char).head? = some d → (d != quote) = false := by simp
  have hrun := takeWhile_append_of_run (ne_of_not_mem hnot) hstop
  rw [List.append_nil] at hrun
  unfold readToken readString
  rw [CharClass.of_quote hquote]
  simp only [hrun.1, hrun.2]
  rfl

private theorem readToken_of_spelled {token : Token} {text : List Char} (hspelled : token.Spelled (c :: text))
    (hlongest : ∀ d, rest.head? = some d → token.kind.runsOn d = false) :
    readToken offset c (text ++ rest) = some (.spanning offset token (c :: text), rest) := by
  cases hspelled with
  | run _ hall => exact readToken_of_run hall hlongest
  | punct hpunct =>
    unfold readToken
    rw [CharClass.of_punct hpunct]
    rfl
  | operator hoperator =>
    unfold readToken
    rw [CharClass.of_operator hoperator]
    rfl
  | @string _ contents hquote hnot =>
    have hwhole : contents ++ [c] ++ rest = contents ++ c :: rest := by simp
    change readToken offset c (contents ++ [c] ++ rest) = _
    rw [hwhole]
    exact readToken_of_string hquote hnot

private theorem tokensFrom_eq_match (chars : List Char) (found : Array Located) :
    tokensFrom offset chars found =
      match nextToken? offset chars with
      | none => found
      | some (token, after) => tokensFrom token.span.stop after (found.push token) := by
  rw [tokensFrom]
  split <;> rename_i hnext <;> rw [hnext]

/-- One character of the text at a time: it begins a token or is skipped. -/
private theorem tokensFrom_cons (found : Array Located) :
    tokensFrom offset (c :: rest) found =
      match readToken offset c rest with
      | some (token, after) => tokensFrom token.span.stop after (found.push token)
      | none => tokensFrom (offset + c.utf8Size) rest found := by
  rw [tokensFrom_eq_match, nextToken?]
  cases readToken offset c rest with
  | some read => rfl
  | none => rw [Option.none_or, ← tokensFrom_eq_match]

end Reading

namespace Laid

variable {offset : Nat} {chars : List Char} {tokens : List Located}

/-- There is only one way to lay tokens out, and it is the one that reading
    finds. -/
private theorem tokensFrom_eq (hlaid : Laid offset chars tokens) (found : Array Located) :
    (tokensFrom offset chars found).toList = found.toList ++ tokens := by
  induction hlaid generalizing found with
  | done =>
    rw [tokensFrom]
    simp [nextToken?]
  | gap hskipped _ ih =>
    rw [tokensFrom_cons]
    simp only [readToken, hskipped, ih]
  | @token offset token text rest tokens hspelled hlongest _ ih =>
    obtain ⟨c, text, rfl⟩ : ∃ c text', text = c :: text' := by
      cases hspelled with
      | run hnonempty _ => exact List.exists_cons_of_ne_nil hnonempty
      | punct | operator | string => exact ⟨_, _, rfl⟩
    rw [List.cons_append, tokensFrom_cons, readToken_of_spelled hspelled hlongest]
    dsimp only
    rw [show (Located.spanning offset token (c :: text)).span.stop = offset + byteWidth (c :: text) from rfl, ih]
    simp
  | unclosed hunclosed =>
    obtain ⟨quote, contents, hquote, hnot, rfl, rfl⟩ := hunclosed
    rw [tokensFrom_cons, readToken_of_unclosed hquote hnot]
    dsimp only
    rw [tokensFrom]
    simp [nextToken?]

/-- Every text is laid out in some way. -/
private theorem exists_tokens (offset : Nat) (chars : List Char) : ∃ tokens, Laid offset chars tokens := by
  match chars with
  | [] => exact ⟨[], .done⟩
  | c :: rest =>
    -- a token of one kind of characters takes as many of them as there are
    have hrun {kind : Token.Kind} (hfirst : kind.runsOn c = true) : ∃ tokens, Laid offset (c :: rest) tokens := by
      have hshorter := length_dropWhile_le kind.runsOn rest
      have hall : ∀ d ∈ c :: rest.takeWhile kind.runsOn, kind.runsOn d = true := by
        rintro d (_ | ⟨_, hmem⟩)
        · exact hfirst
        · exact (List.all_eq_true.1 List.all_takeWhile) d hmem
      obtain ⟨tokens, hrest⟩ := exists_tokens (offset + byteWidth (c :: rest.takeWhile kind.runsOn))
        (rest.dropWhile kind.runsOn)
      have hlaid := token (.run (List.cons_ne_nil _ _) hall) (fun _ hhead => head?_dropWhile_eq_false hhead) hrest
      rw [List.cons_append, List.takeWhile_append_dropWhile] at hlaid
      exact ⟨_, hlaid⟩
    have hsingle {kind : Token.Kind} (hkind : ∀ d, kind.runsOn d = false)
        (hspelled : Token.Spelled ⟨kind, String.ofList [c]⟩ [c]) : ∃ tokens, Laid offset (c :: rest) tokens := by
      obtain ⟨tokens, hrest⟩ := exists_tokens (offset + byteWidth [c]) rest
      exact ⟨_, token hspelled (fun d _ => hkind d) hrest⟩
    by_cases hnumber : isNumberChar c = true
    · exact @hrun .number hnumber
    by_cases hname : isNameChar c = true
    · exact @hrun .name hname
    by_cases hpunct : isPunctChar c = true
    · exact hsingle (fun _ => rfl) (.punct hpunct)
    by_cases hoperator : isOperatorChar c = true
    · exact hsingle (fun _ => rfl) (.operator hoperator)
    by_cases hquote : isQuote c = true
    · have hnot : c ∉ rest.takeWhile (· != c) := fun hmem => by
        simpa using (List.all_eq_true.1 List.all_takeWhile) c hmem
      have hshorter := length_dropWhile_le (· != c) rest
      have hwhole : rest.takeWhile (· != c) ++ rest.dropWhile (· != c) = rest := List.takeWhile_append_dropWhile
      cases hdrop : rest.dropWhile (· != c) with
      | nil =>
        rw [hdrop, List.append_nil] at hwhole
        exact ⟨_, unclosed ⟨c, rest, hquote, hwhole ▸ hnot, rfl, rfl⟩⟩
      | cons closing after =>
        have hclosing : closing = c := by
          have hhead : (rest.dropWhile (· != c)).head? = some closing := by rw [hdrop]; rfl
          simpa using head?_dropWhile_eq_false hhead
        subst hclosing
        rw [hdrop] at hwhole hshorter
        obtain ⟨tokens, hrest⟩ := exists_tokens
          (offset + byteWidth (closing :: rest.takeWhile (· != closing) ++ [closing])) after
        have hlaid := token (.string hquote hnot) (fun _ _ => rfl) hrest
        rw [List.cons_append, List.cons_append, List.append_assoc, List.singleton_append, hwhole] at hlaid
        exact ⟨_, hlaid⟩
    · obtain ⟨tokens, hrest⟩ := exists_tokens (offset + c.utf8Size) rest
      have hskipped := CharClass.of_skipped (by simpa using hnumber) (by simpa using hquote) (by simpa using hname)
        (by simpa using hpunct) (by simpa using hoperator)
      exact ⟨tokens, gap hskipped hrest⟩
termination_by chars.length
decreasing_by all_goals simp_all <;> omega

theorem iff_tokenize (source : String) : Laid 0 source.toList tokens ↔ tokens = (tokenize source).toList := by
  have hread {tokens : List Located} (hlaid : Laid 0 source.toList tokens) : tokens = (tokenize source).toList := by
    rw [tokenize, hlaid.tokensFrom_eq]
    rfl
  refine ⟨hread, ?_⟩
  rintro rfl
  obtain ⟨tokens, hlaid⟩ := exists_tokens 0 source.toList
  exact hread hlaid ▸ hlaid

end Laid

end Rewind
