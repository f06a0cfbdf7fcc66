import Rewind.Proofs.Lexing.Append

namespace Rewind

/-- The place between two texts is one between tokens: none of their tokens reaches from
    the first text into the second, and the first one does not end inside a string. -/
structure BetweenTokens (before after : String) : Prop where
  closed : ¬ Unterminated before
  apart : ∀ located ∈ tokenize (before ++ after),
    located.span.stop ≤ byteWidth before.toList ∨ byteWidth before.toList ≤ located.span.start

instance (before after : String) : Decidable (BetweenTokens before after) :=
  decidable_of_iff (¬ Unterminated before ∧ ∀ located ∈ tokenize (before ++ after),
      located.span.stop ≤ byteWidth before.toList ∨ byteWidth before.toList ≤ located.span.start)
    ⟨fun ⟨hclosed, hapart⟩ => ⟨hclosed, hapart⟩, fun ⟨hclosed, hapart⟩ => ⟨hclosed, hapart⟩⟩

/-- There is an edge unless both neighbours belong to a number, or both to a name. -/
private theorem edge_iff {before after : List Char} :
    Edge before after ↔ ∀ c ∈ before.getLast?, ∀ d ∈ after.head?,
      ¬ (isNumberChar c = true ∧ isNumberChar d = true) ∧ ¬ (isNameChar c = true ∧ isNameChar d = true) := by
  constructor
  · intro hedge c hlast d hhead
    constructor
    · rintro ⟨hruns, hruns'⟩
      exact absurd hruns' (Bool.eq_false_iff.1 (hedge .number c d hlast hhead hruns))
    · rintro ⟨hruns, hruns'⟩
      exact absurd hruns' (Bool.eq_false_iff.1 (hedge .name c d hlast hhead hruns))
  · intro hapart kind c d hlast hhead hruns
    obtain ⟨hnumber, hname⟩ := hapart c hlast d hhead
    cases kind with
    | number => exact Bool.eq_false_iff.2 fun hruns' => hnumber ⟨hruns, hruns'⟩
    | name => exact Bool.eq_false_iff.2 fun hruns' => hname ⟨hruns, hruns'⟩
    | string | punct | operator => rfl

private theorem Edge.nil_left (after : List Char) : Edge [] after := nofun

private theorem Edge.of_skipped_last {c : Char} (hskipped : CharClass.of c = .skipped) (after : List Char) :
    Edge [c] after := by
  intro kind d e hlast _ hruns
  cases hlast
  rw [List.getLast_singleton, Token.Kind.runsOn_eq_false_of_skipped hskipped] at hruns
  cases hruns

/-- The edge behind a text depends on its last part alone, unless that part is empty. -/
private theorem Edge.append {before middle after : List Char} (hbefore : middle = [] → Edge before after)
    (hedge : Edge middle after) : Edge (before ++ middle) after := by
  cases middle with
  | nil =>
    rw [List.append_nil]
    exact hbefore rfl
  | cons e middle =>
    intro kind c d hlast
    rw [List.getLast?_append, List.getLast?_cons, Option.some_or, ← List.getLast?_cons] at hlast
    exact hedge kind c d hlast

/-- A token that does not reach from the first part of a text into the second begins the
    second, or the first one is longer. -/
private theorem eq_nil_or_of_apart {offset : Nat} {first second : List Char}
    (hapart : offset + byteWidth (first ++ second) ≤ offset + byteWidth first ∨ offset + byteWidth first ≤ offset) :
    first = [] ∨ second = [] := by
  rw [byteWidth_append] at hapart
  rcases hapart with hstop | hstart
  · exact .inr (eq_nil_of_byteWidth_eq_zero (by omega))
  · exact .inl (eq_nil_of_byteWidth_eq_zero (by omega))

/-- Where no token reaches across a place, no run does. -/
private theorem Laid.edge_of_apart {offset : Nat} {chars first second : List Char} {tokens : List Located}
    (hlaid : Laid offset chars tokens) (hchars : chars = first ++ second)
    (hapart : ∀ located ∈ tokens,
      located.span.stop ≤ offset + byteWidth first ∨ offset + byteWidth first ≤ located.span.start) :
    Edge first second := by
  induction hlaid generalizing first with
  | done =>
    obtain ⟨rfl, rfl⟩ := List.nil_eq_append_iff.1 hchars
    exact .nil_left []
  | @gap offset c rest tokens hskipped _ ih =>
    rcases List.cons_eq_append_iff.1 hchars with ⟨rfl, _⟩ | ⟨first, rfl, hrest⟩
    · exact .nil_left _
    · rw [byteWidth_cons, ← Nat.add_assoc] at hapart
      exact .append (fun _ => .of_skipped_last hskipped _) (ih hrest hapart)
  | @token offset token text rest tokens hspelled hlongest _ ih =>
    have hedge : Edge ([] ++ text) rest := hspelled.edge hlongest
    obtain ⟨htoken, hapart⟩ := List.forall_mem_cons.1 hapart
    rcases List.append_eq_append_iff.1 hchars with ⟨middle, rfl, rfl⟩ | ⟨middle, rfl, rfl⟩
    · rw [byteWidth_append, ← Nat.add_assoc] at hapart
      refine .append (fun hnil => ?_) (ih rfl hapart)
      subst hnil
      exact hedge
    · rcases eq_nil_or_of_apart htoken with rfl | rfl
      · exact .nil_left _
      · rw [List.nil_append, List.append_nil] at hedge
        exact hedge
  | @unclosed offset token text hunclosed =>
    subst hchars
    rcases eq_nil_or_of_apart (hapart _ (List.mem_singleton_self _)) with rfl | rfl
    · exact .nil_left _
    · intro kind c d _ hhead
      cases hhead

private theorem BetweenTokens.edge {before after : String} (hbetween : BetweenTokens before after) :
    Edge before.toList after.toList := by
  have hlaid := (Laid.iff_tokenize (before ++ after)).2 rfl
  refine hlaid.edge_of_apart String.toList_append fun located hmem => ?_
  rw [Nat.zero_add]
  exact hbetween.apart located (Array.mem_toList_iff.1 hmem)

/-- Lexing is compositional. Two texts have the tokens of the first and then those of the
    second, further on by as many bytes as the first one takes, unless a string is left
    open between them or a run goes on from one into the other. So characters that belong
    to no token may be put in anywhere between tokens, and taken out again where they do
    not keep a run from going on, and only the spans behind them change. -/
theorem lexing_is_compositional (before after : String) :
    (¬ Unterminated before → Edge before.toList after.toList →
      tokenize (before ++ after) =
        tokenize before ++ (tokenize after).map (·.shift (byteWidth before.toList))) ∧
    (∀ gap, Skipped gap → BetweenTokens before after →
      tokenize (before ++ gap ++ after) =
        tokenize before ++ (tokenize after).map (·.shift (byteWidth before.toList + byteWidth gap.toList)) ∧
      (tokenize (before ++ gap ++ after)).map (·.token) = (tokenize (before ++ after)).map (·.token)) ∧
    (∀ gap, Skipped gap → BetweenTokens before (gap ++ after) → Edge before.toList after.toList →
      (tokenize (before ++ after)).map (·.token) = (tokenize (before ++ gap ++ after)).map (·.token)) := by
  refine ⟨tokenize_append, fun gap hskipped hbetween => ?_, fun gap hskipped hbetween hedge => ?_⟩
  · have hgap := tokenize_of_skipped_between hbetween.closed hskipped fun _ => hbetween.edge
    refine ⟨hgap, ?_⟩
    rw [hgap, tokenize_append hbetween.closed hbetween.edge]
    simp [Function.comp_def]
  · rw [tokens_of_skipped_between hbetween.closed hskipped fun _ => hedge, tokenize_append hbetween.closed hedge]
    simp [Function.comp_def]

/-- Text with a number at its end, and a string that could be taken for other tokens. -/
def glued : String := "x?'1 (' 2."

theorem lexing_is_compositional_of_glued :
    ¬ Unterminated glued ∧ Edge glued.toList "ß.5)".toList ∧ BetweenTokens glued "ß.5)" ∧
      BetweenTokens glued (" #" ++ "ß.5)") ∧
      tokenize (glued ++ "ß.5)") = tokenize glued ++ (tokenize "ß.5)").map (·.shift 10) ∧
      tokenize (glued ++ "\n" ++ "ß.5)") = tokenize glued ++ (tokenize "ß.5)").map (·.shift 11) ∧
      (tokenize (glued ++ "ß.5)")).map (·.token) = (tokenize (glued ++ " #" ++ "ß.5)")).map (·.token) := by
  obtain ⟨hclosed, hbetween, hbetween'⟩ : ¬ Unterminated glued ∧ BetweenTokens glued "ß.5)" ∧
      BetweenTokens glued (" #" ++ "ß.5)") := by decide +kernel
  have hedge : Edge glued.toList "ß.5)".toList := edge_iff.2 fun c hlast d hhead => by
    cases hlast
    cases hhead
    decide +kernel
  obtain ⟨happend, hinsert, hdelete⟩ := lexing_is_compositional glued "ß.5)"
  exact ⟨hclosed, hedge, hbetween, hbetween', happend hclosed hedge,
    (hinsert "\n" (by decide +kernel) hbetween).1, hdelete " #" (by decide +kernel) hbetween' hedge⟩

end Rewind
