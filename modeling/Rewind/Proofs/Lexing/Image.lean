import Rewind.Proofs.Lexing.Append

namespace Rewind

namespace Token

/-- The marks that a string may stand between. -/
def quotes : List Char := ['\x27', '\x22', '\x60']

/-- The token is of the form that its kind asks for. Of a string nothing is asked but
    that some mark does not occur in it. -/
def WellFormed (token : Token) : Prop :=
  match token.kind with
  | .number => token.lexeme ≠ "" ∧ ∀ c ∈ token.lexeme.toList, isNumberChar c = true
  | .name => token.lexeme ≠ "" ∧ ∀ c ∈ token.lexeme.toList, isNameChar c = true
  | .punct => token.lexeme ∈ ["(", ")", ",", "=", ";"]
  | .operator => token.lexeme ∈ ["+", "-", "*", "/", "%"]
  | .string => ∃ quote ∈ quotes, quote ∉ token.lexeme.toList

instance : (token : Token) → Decidable token.WellFormed
  | ⟨.number, lexeme⟩ | ⟨.name, lexeme⟩ => @instDecidableAnd _ _ _ (List.decidableBAll _ lexeme.toList)
  | ⟨.punct, _⟩ | ⟨.operator, _⟩ => inferInstanceAs (Decidable (_ ∈ _))
  | ⟨.string, _⟩ => List.decidableBEx _ quotes

/-- A string may be written between the marks `quote`. To other tokens the mark does not
    matter. -/
def Admits (token : Token) (quote : Char) : Prop :=
  token.kind = .string → quote ∈ quotes ∧ quote ∉ token.lexeme.toList

instance (token : Token) (quote : Char) : Decidable (token.Admits quote) :=
  inferInstanceAs (Decidable (_ = _ → _ ∧ _))

/-- The token as it is written in a program, a string between the marks `quote`. -/
def written (token : Token) (quote : Char) : String :=
  match token.kind with
  | .string => String.ofList (quote :: token.lexeme.toList ++ [quote])
  | _ => token.lexeme

variable {token : Token} {quote : Char} {text : List Char}

private theorem isQuote_iff_mem_quotes : isQuote quote = true ↔ quote ∈ quotes := by
  simp [isQuote, quotes, or_assoc]

private theorem WellFormed.exists_admits (hformed : token.WellFormed) : ∃ quote, token.Admits quote := by
  unfold WellFormed at hformed
  split at hformed
  case h_5 =>
    obtain ⟨quote, hquote, hnot⟩ := hformed
    exact ⟨quote, fun _ => ⟨hquote, hnot⟩⟩
  all_goals
    rename_i hkind
    exact ⟨' ', fun hstring => absurd (hkind.symm.trans hstring) nofun⟩

private theorem mem_singles_iff {test : Char → Bool} {chars : List Char} (htest : ∀ c, test c = true ↔ c ∈ chars)
    {lexeme : String} :
    lexeme ∈ chars.map (fun c => String.ofList [c]) ↔ ∃ c, test c = true ∧ lexeme = String.ofList [c] := by
  simp only [List.mem_map, htest, eq_comm]

private theorem mem_puncts_iff {lexeme : String} :
    lexeme ∈ ["(", ")", ",", "=", ";"] ↔ ∃ c, isPunctChar c = true ∧ lexeme = String.ofList [c] :=
  @mem_singles_iff _ ['(', ')', ',', '=', ';'] (by simp [isPunctChar, or_assoc]) lexeme

private theorem mem_operators_iff {lexeme : String} :
    lexeme ∈ ["+", "-", "*", "/", "%"] ↔ ∃ c, isOperatorChar c = true ∧ lexeme = String.ofList [c] :=
  @mem_singles_iff _ ['+', '-', '*', '/', '%'] (by simp [isOperatorChar, or_assoc]) lexeme

/-- The lexer can read a token of the right form as it is written. -/
private theorem WellFormed.spelled (hformed : token.WellFormed) (hadmits : token.Admits quote) :
    token.Spelled (token.written quote).toList := by
  obtain ⟨kind, lexeme⟩ := token
  have hrun {kind : Kind} (hne : lexeme ≠ "") (hall : ∀ c ∈ lexeme.toList, kind.runsOn c = true) :
      Spelled ⟨kind, lexeme⟩ lexeme.toList := by
    have hspelled := Spelled.run (fun hnil => hne (String.toList_eq_nil_iff.1 hnil)) hall
    rwa [String.ofList_toList] at hspelled
  cases kind with
  | number => exact hrun hformed.1 hformed.2
  | name => exact hrun hformed.1 hformed.2
  | punct =>
    obtain ⟨c, hpunct, rfl⟩ := mem_puncts_iff.1 hformed
    rw [written, String.toList_ofList]
    exact .punct hpunct
  | operator =>
    obtain ⟨c, hoperator, rfl⟩ := mem_operators_iff.1 hformed
    rw [written, String.toList_ofList]
    exact .operator hoperator
  | string =>
    obtain ⟨hquote, hnot⟩ := hadmits rfl
    have hspelled := Spelled.string (isQuote_iff_mem_quotes.2 hquote) hnot
    rw [String.ofList_toList] at hspelled
    rwa [written, String.toList_ofList]

private theorem Spelled.wellFormed (hspelled : token.Spelled text) : token.WellFormed := by
  cases hspelled with
  | @run kind text hnonempty hall =>
    have hformed : String.ofList text ≠ "" ∧ ∀ c ∈ (String.ofList text).toList, kind.runsOn c = true := by
      rw [String.toList_ofList]
      exact ⟨fun hnil => hnonempty (String.ofList_eq_empty_iff.1 hnil), hall⟩
    obtain ⟨c, hmem⟩ := List.exists_mem_of_ne_nil _ hnonempty
    rcases Kind.of_runsOn (hall c hmem) with ⟨rfl, _⟩ | ⟨rfl, _⟩
    · exact hformed
    · exact hformed
  | @punct c hpunct => exact mem_puncts_iff.2 ⟨c, hpunct, rfl⟩
  | @operator c hoperator => exact mem_operators_iff.2 ⟨c, hoperator, rfl⟩
  | @string quote contents hquote hnot =>
    exact ⟨quote, isQuote_iff_mem_quotes.1 hquote, by rwa [String.toList_ofList]⟩

private theorem Unclosed.wellFormed (hunclosed : token.Unclosed text) : token.WellFormed := by
  obtain ⟨quote, contents, hquote, hnot, rfl, rfl⟩ := hunclosed
  exact ⟨quote, isQuote_iff_mem_quotes.1 hquote, by rwa [String.toList_ofList]⟩

end Token

/-- Tokens as they are written in a program, each with its mark, and one space between
    them. -/
def writing (marked : List (Token × Char)) : String :=
  " ".intercalate (marked.map fun (token, quote) => token.written quote)

/-- Every token of a source is of the form that its kind asks for. -/
private theorem wellFormed_of_mem_tokenize {source : String} {located : Located} (hmem : located ∈ tokenize source) :
    located.token.WellFormed := by
  obtain ⟨text, _, hspelled | ⟨hunclosed, _⟩⟩ :=
    (Partition.of_tokenize source).spelled located (Array.mem_toList_iff.2 hmem)
  · exact hspelled.wellFormed
  · exact hunclosed.wellFormed

private theorem toList_writing_cons_cons (entry next : Token × Char) (marked : List (Token × Char)) :
    (writing (entry :: next :: marked)).toList =
      (entry.1.written entry.2).toList ++ ' ' :: (writing (next :: marked)).toList := by
  simp [writing]

/-- What is written is laid out as the tokens it was written from. A space ends every
    token, whatever comes next. -/
private theorem exists_laid_writing {marked : List (Token × Char)}
    (hspelled : ∀ entry ∈ marked, entry.1.Spelled (entry.1.written entry.2).toList) (offset : Nat) :
    ∃ tokens, Laid offset (writing marked).toList tokens ∧ tokens.map (·.token) = marked.map (·.1) := by
  have hspace : CharClass.of ' ' = .skipped := by decide +kernel
  induction marked generalizing offset with
  | nil => exact ⟨[], .done, rfl⟩
  | cons entry marked ih =>
    obtain ⟨hentry, hmarked⟩ := List.forall_mem_cons.1 hspelled
    cases marked with
    | nil =>
      have hlaid : Laid offset ((entry.1.written entry.2).toList ++ []) _ := .token hentry nofun .done
      rw [List.append_nil] at hlaid
      exact ⟨_, by simpa [writing] using hlaid, rfl⟩
    | cons next marked =>
      obtain ⟨tokens, hlaid, htokens⟩ := ih hmarked (offset + byteWidth (entry.1.written entry.2).toList + ' '.utf8Size)
      rw [toList_writing_cons_cons]
      refine ⟨_, .token hentry (fun c hhead => ?_) (.gap hspace hlaid), congrArg (entry.1 :: ·) htokens⟩
      cases hhead
      exact Token.Kind.runsOn_eq_false_of_skipped hspace

private theorem tokens_writing {marked : List (Token × Char)}
    (hmarked : ∀ entry ∈ marked, entry.1.WellFormed ∧ entry.1.Admits entry.2) :
    (tokenize (writing marked)).toList.map (·.token) = marked.map (·.1) := by
  obtain ⟨tokens, hlaid, htokens⟩ :=
    exists_laid_writing (fun entry hmem => (hmarked entry hmem).1.spelled (hmarked entry hmem).2) 0
  rw [← (Laid.iff_tokenize _).1 hlaid, htokens]

/-- Tokens of the right form can all be given marks that they admit. -/
private theorem exists_marked {tokens : List Token} (hformed : ∀ token ∈ tokens, token.WellFormed) :
    ∃ marked : List (Token × Char), marked.map (·.1) = tokens ∧ ∀ entry ∈ marked, entry.1.Admits entry.2 := by
  induction tokens with
  | nil => exact ⟨[], rfl, nofun⟩
  | cons token tokens ih =>
    obtain ⟨htoken, htokens⟩ := List.forall_mem_cons.1 hformed
    obtain ⟨quote, hadmits⟩ := htoken.exists_admits
    obtain ⟨marked, rfl, hmarked⟩ := ih htokens
    exact ⟨(token, quote) :: marked, rfl, List.forall_mem_cons.2 ⟨hadmits, hmarked⟩⟩

/-- The lexer reads just the lists of tokens that are of the form that their kinds ask
    for. Such a list can be written, with a mark around each string that does not occur
    in it and one space between tokens, and whatever marks are taken, it is read back. -/
theorem lexer_image_is_wellFormed (tokens : List Token) :
    ((∃ source, (tokenize source).toList.map (·.token) = tokens) ↔ ∀ token ∈ tokens, token.WellFormed) ∧
    ((∀ token ∈ tokens, token.WellFormed) →
      (∃ marked : List (Token × Char), marked.map (·.1) = tokens ∧ ∀ entry ∈ marked, entry.1.Admits entry.2) ∧
      ∀ marked : List (Token × Char), marked.map (·.1) = tokens → (∀ entry ∈ marked, entry.1.Admits entry.2) →
        (tokenize (writing marked)).toList.map (·.token) = tokens) := by
  have hreads (hformed : ∀ token ∈ tokens, token.WellFormed) (marked : List (Token × Char))
      (htokens : marked.map (·.1) = tokens) (hadmits : ∀ entry ∈ marked, entry.1.Admits entry.2) :
      (tokenize (writing marked)).toList.map (·.token) = tokens := by
    rw [← htokens]
    refine tokens_writing fun entry hmem => ⟨hformed entry.1 ?_, hadmits entry hmem⟩
    rw [← htokens]
    exact List.mem_map_of_mem hmem
  refine ⟨⟨?_, fun hformed => ?_⟩, fun hformed => ⟨exists_marked hformed, hreads hformed⟩⟩
  · rintro ⟨source, rfl⟩ token hmem
    obtain ⟨located, hlocated, rfl⟩ := List.mem_map.1 hmem
    exact wellFormed_of_mem_tokenize (Array.mem_toList_iff.1 hlocated)
  · obtain ⟨marked, htokens, hadmits⟩ := exists_marked hformed
    exact ⟨writing marked, hreads hformed marked htokens hadmits⟩

/-- Tokens that would run into each other without the spaces, and strings that hold
    other tokens and all marks but one. -/
def pressed : List (Token × Char) :=
  [(⟨.name, "fn"⟩, ' '), (⟨.name, "if"⟩, ' '), (⟨.number, "1."⟩, ' '), (⟨.number, ".2"⟩, ' '),
    (⟨.string, "a\x22 \x60( 1"⟩, '\x27'), (⟨.string, ""⟩, '\x22'), (⟨.string, ""⟩, '\x60'), (⟨.punct, ")"⟩, ' ')]

theorem lexer_image_is_wellFormed_of_pressed :
    (∀ entry ∈ pressed, entry.1.WellFormed ∧ entry.1.Admits entry.2) ∧
      (tokenize (writing pressed)).toList.map (·.token) = pressed.map (·.1) := by
  have hformed : ∀ token ∈ pressed.map (·.1), token.WellFormed := by decide +kernel
  have hadmits : ∀ entry ∈ pressed, entry.1.Admits entry.2 := by decide +kernel
  obtain ⟨_, hwriting⟩ := lexer_image_is_wellFormed (pressed.map (·.1))
  refine ⟨fun entry hmem => ⟨hformed _ (List.mem_map_of_mem hmem), hadmits entry hmem⟩, ?_⟩
  exact (hwriting hformed).2 pressed rfl hadmits

end Rewind
