import Rewind.Proofs.Lexing.Partition

namespace Rewind

/-- The same token, `n` bytes further on. -/
def Located.shift (n : Nat) (located : Located) : Located :=
  ⟨located.token, ⟨n + located.span.start, n + located.span.stop⟩⟩

@[simp]
theorem Located.shift_token (n : Nat) (located : Located) : (located.shift n).token = located.token := rfl

private theorem Located.shift_spanning (n offset : Nat) (token : Token) (text : List Char) :
    (Located.spanning offset token text).shift n = .spanning (n + offset) token text := by
  simp only [shift, spanning, Nat.add_assoc]

private theorem Edge.of_append {before middle after : List Char} (hedge : Edge (before ++ middle) after) :
    Edge middle after := by
  intro kind c d hlast
  refine hedge kind c d ?_
  rw [List.getLast?_append, hlast, Option.some_or]

/-- A run at the end of a text ends there, if an edge follows. -/
private theorem Token.Spelled.runsOn_eq_false_of_edge_after {token : Token} {text after : List Char} {d : Char}
    (hspelled : token.Spelled text) (hedge : Edge text after) (hhead : after.head? = some d) :
    token.kind.runsOn d = false := by
  cases hspelled with
  | @run kind text hnonempty hall =>
    have hlast := List.getLast?_eq_some_getLast hnonempty
    exact hedge kind _ d hlast hhead (hall _ (List.getLast_mem hnonempty))
  | punct | operator | string => rfl

namespace Laid

variable {offset : Nat} {chars chars' : List Char} {tokens tokens' : List Located}

/-- A text that begins further on is laid out in the same way. -/
private theorem shift (hlaid : Laid offset chars tokens) (n : Nat) :
    Laid (n + offset) chars (tokens.map (·.shift n)) := by
  induction hlaid with
  | done => exact .done
  | gap hskipped _ ih =>
    rw [← Nat.add_assoc] at ih
    exact .gap hskipped ih
  | token hspelled hlongest _ ih =>
    rw [List.map_cons, Located.shift_spanning]
    rw [← Nat.add_assoc] at ih
    exact .token hspelled hlongest ih
  | unclosed hunclosed =>
    rw [List.map_singleton, Located.shift_spanning]
    exact .unclosed hunclosed

/-- Two texts are laid out one after the other, if there is an edge between them, or
    else the first one ends in an unclosed string. -/
private theorem append_or_unclosed (hlaid : Laid offset chars tokens) (hedge : Edge chars chars')
    (hlaid' : Laid (offset + byteWidth chars) chars' tokens') :
    Laid offset (chars ++ chars') (tokens ++ tokens') ∨
      ∃ before text token, chars = before ++ text ∧ token.Unclosed text ∧
        Located.spanning (offset + byteWidth before) token text ∈ tokens := by
  induction hlaid with
  | done => exact .inl hlaid'
  | @gap offset c rest tokens hskipped _ ih =>
    rw [byteWidth_cons, ← Nat.add_assoc] at hlaid'
    have hedge : Edge ([c] ++ rest) chars' := hedge
    rcases ih hedge.of_append hlaid' with hboth | ⟨before, text, token, rfl, hunclosed, hmem⟩
    · exact .inl (.gap hskipped hboth)
    · refine .inr ⟨c :: before, text, token, rfl, hunclosed, ?_⟩
      rw [byteWidth_cons, ← Nat.add_assoc]
      exact hmem
  | @token offset token text rest tokens hspelled hlongest _ ih =>
    rw [byteWidth_append, ← Nat.add_assoc] at hlaid'
    rcases ih hedge.of_append hlaid' with hboth | ⟨before, text', token', rfl, hunclosed, hmem⟩
    · left
      rw [List.append_assoc]
      refine .token hspelled (fun d hhead => ?_) hboth
      cases rest with
      | nil => exact hspelled.runsOn_eq_false_of_edge_after (List.append_nil text ▸ hedge) hhead
      | cons e rest => exact hlongest d hhead
    · refine .inr ⟨text ++ before, text', token', by rw [List.append_assoc], hunclosed, ?_⟩
      rw [byteWidth_append, ← Nat.add_assoc]
      exact List.mem_cons_of_mem _ hmem
  | unclosed hunclosed => exact .inr ⟨[], _, _, rfl, hunclosed, List.mem_singleton_self _⟩

end Laid

/-- Some string of the source has no closing quote. -/
def Unterminated (source : String) : Prop :=
  ∃ located ∈ tokenize source, ∃ text, located.span.slice? source = some text ∧ located.token.Unclosed text.toList

instance (token : Token) (text : List Char) : Decidable (token.Unclosed text) :=
  match text with
  | [] => .isFalse fun ⟨_, _, _, _, _, htext⟩ => nomatch htext
  | quote :: contents =>
    decidable_of_iff (isQuote quote = true ∧ quote ∉ contents ∧ token = ⟨.string, String.ofList contents⟩) <| by
      constructor
      · rintro ⟨hquote, hnot, htoken⟩
        exact ⟨quote, contents, hquote, hnot, htoken, rfl⟩
      · rintro ⟨_, _, hquote, hnot, htoken, ⟨⟩⟩
        exact ⟨hquote, hnot, htoken⟩

instance (source : String) : Decidable (Unterminated source) :=
  decidable_of_iff
    ((tokenize source).any fun located =>
      (located.span.slice? source).any fun text => located.token.Unclosed text.toList) <| by
    simp only [Unterminated, Array.any_eq_true', Option.any_eq_true, decide_eq_true_eq]

/-- Reading goes on behind an edge as at the start of a source. -/
theorem tokenize_append {before after : String} (hclosed : ¬ Unterminated before)
    (hedge : Edge before.toList after.toList) :
    tokenize (before ++ after) = tokenize before ++ (tokenize after).map (·.shift (byteWidth before.toList)) := by
  have hbefore := (Laid.iff_tokenize before).2 rfl
  have hafter := ((Laid.iff_tokenize after).2 rfl).shift (byteWidth before.toList)
  rw [Nat.add_comm] at hafter
  rcases hbefore.append_or_unclosed hedge hafter with hboth | ⟨rest, text, token, hsource, hunclosed, hmem⟩
  · rw [← String.toList_append] at hboth
    apply Array.toList_inj.1
    rw [← (Laid.iff_tokenize _).1 hboth, Array.toList_append, Array.toList_map]
  · refine absurd ⟨_, Array.mem_toList_iff.1 hmem, String.ofList text, ?_, ?_⟩ hclosed
    · refine Span.slice?_eq_some_iff.2 ⟨rest, [], ?_, ?_⟩
      · rw [String.toList_ofList, List.append_nil, hsource]
      · rw [String.toList_ofList]
        simp [Located.spanning]
    · rw [String.toList_ofList]
      exact hunclosed

/-- Characters that belong to no token. -/
def Skipped (text : String) : Prop := ∀ c ∈ text.toList, CharClass.of c = .skipped

instance (text : String) : Decidable (Skipped text) := List.decidableBAll _ text.toList

theorem Token.Kind.runsOn_eq_false_of_skipped {kind : Token.Kind} {c : Char} (hskipped : CharClass.of c = .skipped) :
    kind.runsOn c = false :=
  runsOn_eq_false_of_class (by simp [hskipped]) (by simp [hskipped])

private theorem Edge.of_skipped {before gap after : String} (hskipped : Skipped gap)
    (hedge : gap = "" → Edge before.toList after.toList) : Edge before.toList (gap ++ after).toList := by
  rw [String.toList_append]
  cases hgap : gap.toList with
  | nil => exact hedge (String.toList_eq_nil_iff.1 hgap)
  | cons d rest =>
    rintro kind _ _ _ ⟨⟩ _
    exact Token.Kind.runsOn_eq_false_of_skipped (hskipped d (by simp [hgap]))

private theorem Laid.skipped {gap chars : List Char} {offset : Nat} {tokens : List Located}
    (hskipped : ∀ c ∈ gap, CharClass.of c = .skipped) (hlaid : Laid (offset + byteWidth gap) chars tokens) :
    Laid offset (gap ++ chars) tokens := by
  induction gap generalizing offset with
  | nil => exact hlaid
  | cons c gap ih =>
    rw [byteWidth_cons, ← Nat.add_assoc] at hlaid
    exact .gap (hskipped c (List.mem_cons_self ..)) (ih (fun d hd => hskipped d (List.mem_cons_of_mem _ hd)) hlaid)

private theorem tokenize_of_skipped_before {gap after : String} (hskipped : Skipped gap) :
    tokenize (gap ++ after) = (tokenize after).map (·.shift (byteWidth gap.toList)) := by
  have hafter := ((Laid.iff_tokenize after).2 rfl).shift (byteWidth gap.toList)
  rw [Nat.add_comm] at hafter
  have hlaid := Laid.skipped hskipped hafter
  rw [← String.toList_append] at hlaid
  apply Array.toList_inj.1
  rw [← (Laid.iff_tokenize _).1 hlaid, Array.toList_map]

/-- Characters that belong to no token may stand between two texts, and where there
    is an edge they may be left out. -/
theorem tokenize_of_skipped_between {before gap after : String} (hclosed : ¬ Unterminated before)
    (hskipped : Skipped gap) (hedge : gap = "" → Edge before.toList after.toList) :
    tokenize (before ++ gap ++ after) =
      tokenize before ++ (tokenize after).map (·.shift (byteWidth before.toList + byteWidth gap.toList)) := by
  rw [String.append_assoc, tokenize_append hclosed (.of_skipped hskipped hedge), tokenize_of_skipped_before hskipped,
    Array.map_map]
  congr 2
  funext located
  simp only [Function.comp_apply, Located.shift, Nat.add_assoc]

theorem tokens_of_skipped_between {before gap after : String} (hclosed : ¬ Unterminated before) (hskipped : Skipped gap)
    (hedge : gap = "" → Edge before.toList after.toList) :
    (tokenize (before ++ gap ++ after)).map (·.token) =
      (tokenize before).map (·.token) ++ (tokenize after).map (·.token) := by
  rw [tokenize_of_skipped_between hclosed hskipped hedge]
  simp [Function.comp_def]

/-- A source that goes on in a new line has the tokens of both parts. -/
theorem tokenize_lines {first second : String} (hclosed : ¬ Unterminated first) :
    (tokenize (first ++ "\n" ++ second)).map (·.token) =
      (tokenize first).map (·.token) ++ (tokenize second).map (·.token) :=
  tokens_of_skipped_between hclosed (by decide +kernel) nofun

end Rewind
