import Rewind.Proofs.Lexing

namespace Rewind

section Bytes

variable {chars before after : List Char}

theorem eq_nil_of_byteWidth_eq_zero (hwidth : byteWidth chars = 0) : chars = [] := by
  cases chars with
  | nil => rfl
  | cons c chars =>
    have hpositive := c.utf8Size_pos
    rw [byteWidth_cons] at hwidth
    omega

/-- Of two ways to cut a text, the one that cuts at a later byte has more before the
    cut. -/
private theorem exists_append_of_byteWidth_le {later rest : List Char} (hsame : before ++ after = later ++ rest)
    (hle : byteWidth before ≤ byteWidth later) : ∃ mid, later = before ++ mid ∧ after = mid ++ rest := by
  rcases List.append_eq_append_iff.1 hsame with hmid | ⟨mid, hbefore, hrest⟩
  · exact hmid
  · have hmid : mid = [] := by
      apply eq_nil_of_byteWidth_eq_zero
      rw [hbefore, byteWidth_append] at hle
      omega
    subst hmid
    exact ⟨[], by simpa using hbefore.symm, by simpa using hrest.symm⟩

private theorem exists_append_of_dropBytes? {n : Nat} (hdrop : dropBytes? n chars = some after) :
    ∃ before, chars = before ++ after ∧ byteWidth before = n := by
  fun_induction dropBytes? n chars with
  | case1 chars =>
    cases hdrop
    exact ⟨[], rfl, rfl⟩
  | case2 => cases hdrop
  | case3 n c chars hfits ih =>
    obtain ⟨before, rfl, hwidth⟩ := ih hdrop
    exact ⟨c :: before, rfl, by rw [byteWidth_cons]; omega⟩
  | case4 => cases hdrop

private theorem exists_append_of_takeBytes? {n : Nat} (htake : takeBytes? n chars = some before) :
    ∃ after, chars = before ++ after ∧ byteWidth before = n := by
  fun_induction takeBytes? n chars generalizing before with
  | case1 chars =>
    cases htake
    exact ⟨chars, rfl, rfl⟩
  | case2 => cases htake
  | case3 n c chars hfits ih =>
    obtain ⟨taken, htaken, rfl⟩ := Option.map_eq_some_iff.1 htake
    obtain ⟨after, rfl, hwidth⟩ := ih htaken
    exact ⟨after, rfl, by rw [byteWidth_cons]; omega⟩
  | case4 => cases htake

/-- A span covers a text just where the source has it between two characters. -/
theorem Span.slice?_eq_some_iff {span : Span} {source text : String} :
    span.slice? source = some text ↔
      ∃ before after, source.toList = before ++ text.toList ++ after ∧
        span = ⟨byteWidth before, byteWidth before + byteWidth text.toList⟩ := by
  constructor
  · intro hslice
    unfold slice? at hslice
    split at hslice
    · obtain ⟨rest, hdrop, hmap⟩ := Option.bind_eq_some_iff.1 hslice
      obtain ⟨taken, htake, rfl⟩ := Option.map_eq_some_iff.1 hmap
      obtain ⟨before, hbefore, hstart⟩ := exists_append_of_dropBytes? hdrop
      obtain ⟨after, rfl, hstop⟩ := exists_append_of_takeBytes? htake
      rw [String.toList_ofList]
      refine ⟨before, after, by rw [hbefore, List.append_assoc], ?_⟩
      cases span
      simp only at *
      congr <;> omega
    · cases hslice
  · rintro ⟨before, after, hsource, rfl⟩
    have hslice := slice?_append before text.toList after
    rw [← hsource, String.ofList_toList, String.ofList_toList] at hslice
    exact hslice

end Bytes

/-- The byte at `pos` belongs to the token. -/
def Located.Covers (located : Located) (pos : Nat) : Prop :=
  located.span.start ≤ pos ∧ pos < located.span.stop

/-- The tokens partition the part of the source from byte `start` on.

    They cover parts of it that are not empty, one after another. Each covers the text
    that it is spelled with. Only a last token that reaches the end may lack its closing
    quote. Whatever is not covered belongs to no token, and neither neighbour of a token
    would make it longer. -/
structure Partition (source : String) (start : Nat) (tokens : List Located) : Prop where
  inside : ∀ located ∈ tokens, start ≤ located.span.start
  nonempty : ∀ located ∈ tokens, located.span.start < located.span.stop
  increasing : tokens.Pairwise fun left right =>
    left.span.start < right.span.start ∧ left.span.stop ≤ right.span.start
  spelled : ∀ located ∈ tokens, ∃ text, located.span.slice? source = some text ∧
    (located.token.Spelled text.toList ∨
      located.token.Unclosed text.toList ∧ tokens.getLast? = some located ∧
        located.span.stop = byteWidth source.toList)
  skipped : ∀ before c after, source.toList = before ++ c :: after → start ≤ byteWidth before →
    (∀ located ∈ tokens, ¬ located.Covers (byteWidth before)) →
      isNumberChar c = false ∧ isQuote c = false ∧ isNameChar c = false ∧ isPunctChar c = false ∧
        isOperatorChar c = false
  longest : ∀ located ∈ tokens, ∀ before c after, source.toList = before ++ c :: after →
    byteWidth before + c.utf8Size = located.span.start ∨ byteWidth before = located.span.stop →
      located.token.kind.runsOn c = false

/-- No run of one kind of characters goes on from the first text into the second. -/
def Edge (before after : List Char) : Prop :=
  ∀ (kind : Token.Kind) c d, before.getLast? = some c → after.head? = some d → kind.runsOn c = true →
    kind.runsOn d = false

namespace Token

variable {token : Token} {text : List Char}

private theorem Spelled.ne_nil (hspelled : token.Spelled text) : text ≠ [] := by
  cases hspelled with
  | run hnonempty _ => exact hnonempty
  | punct | operator | string => exact List.cons_ne_nil _ _

theorem Kind.of_runsOn {kind : Kind} {c : Char} (hruns : kind.runsOn c = true) :
    kind = .number ∧ CharClass.of c = .number ∨ kind = .name ∧ CharClass.of c = .name := by
  cases kind with
  | number => exact .inl ⟨rfl, CharClass.of_number hruns⟩
  | name => exact .inr ⟨rfl, CharClass.of_name hruns⟩
  | string | punct | operator => cases hruns

private theorem Kind.eq_of_runsOn {kind other : Kind} {c : Char} (hruns : kind.runsOn c = true)
    (hother : other.runsOn c = true) : kind = other := by
  rcases of_runsOn hruns with ⟨rfl, hclass⟩ | ⟨rfl, hclass⟩ <;>
    rcases of_runsOn hother with ⟨rfl, hclass'⟩ | ⟨rfl, hclass'⟩ <;>
    simp_all

theorem Kind.runsOn_eq_false_of_class {kind : Kind} {c : Char} (hnumber : CharClass.of c ≠ .number)
    (hname : CharClass.of c ≠ .name) : kind.runsOn c = false := by
  rw [← Bool.not_eq_true]
  intro hruns
  rcases of_runsOn hruns with ⟨_, hclass⟩ | ⟨_, hclass⟩
  · exact hnumber hclass
  · exact hname hclass

/-- Behind a token there is an edge, because a run has been read to its end. -/
theorem Spelled.edge {pre rest : List Char} (hspelled : token.Spelled text)
    (hlongest : ∀ c, rest.head? = some c → token.kind.runsOn c = false) : Edge (pre ++ text) rest := by
  intro kind c d hlast hhead hruns
  rw [List.getLast?_append, List.getLast?_eq_some_getLast hspelled.ne_nil, Option.some_or,
    ← List.getLast?_eq_some_getLast hspelled.ne_nil] at hlast
  have hnone (hnumber : CharClass.of c ≠ .number) (hname : CharClass.of c ≠ .name) : kind.runsOn d = false := by
    rw [Kind.runsOn_eq_false_of_class hnumber hname] at hruns
    cases hruns
  cases hspelled with
  | run _ hall =>
    have hkind := Kind.eq_of_runsOn hruns (hall c (List.mem_of_getLast? hlast))
    exact hkind ▸ hlongest d hhead
  | punct hpunct =>
    obtain rfl : _ = c := by simpa using hlast
    rw [CharClass.of_punct hpunct] at hnone
    exact hnone nofun nofun
  | operator hoperator =>
    obtain rfl : _ = c := by simpa using hlast
    rw [CharClass.of_operator hoperator] at hnone
    exact hnone nofun nofun
  | string hquote _ =>
    rw [List.getLast?_concat] at hlast
    cases hlast
    rw [CharClass.of_quote hquote] at hnone
    exact hnone nofun nofun

/-- Before a token there is an edge, unless the token would run on. -/
private theorem Spelled.runsOn_eq_false_of_edge {pre rest : List Char} {c : Char} (hspelled : token.Spelled text)
    (hedge : Edge pre (text ++ rest)) (hlast : pre.getLast? = some c) : token.kind.runsOn c = false := by
  rw [← Bool.not_eq_true]
  intro hruns
  cases hspelled with
  | @run kind text hnonempty hall =>
    obtain ⟨d, text, rfl⟩ := List.exists_cons_of_ne_nil hnonempty
    have hstop := hedge kind c d hlast rfl hruns
    rw [hall d (List.mem_cons_self ..)] at hstop
    cases hstop
  | punct | operator | string => cases hruns

end Token

namespace Partition

variable {source : String} {pre rest : List Char} {tokens : List Located}

/-- A position at or behind the end of `pre` is that of the next character, or behind
    it. -/
private theorem position_cases {c d : Char} {before after : List Char}
    (hsource : pre ++ c :: rest = before ++ d :: after) (hle : byteWidth pre ≤ byteWidth before) :
    before = pre ∧ d = c ∨ byteWidth pre + c.utf8Size ≤ byteWidth before := by
  obtain ⟨mid, rfl, hmid⟩ := exists_append_of_byteWidth_le hsource hle
  cases mid with
  | nil =>
    cases hmid
    exact .inl ⟨List.append_nil _, rfl⟩
  | cons e mid =>
    cases hmid
    refine .inr ?_
    rw [byteWidth_append, byteWidth_cons]
    omega

/-- The tokens of a part, with a skipped character in front of it. -/
private theorem of_gap {c : Char} (hsource : source.toList = pre ++ c :: rest) (hskipped : CharClass.of c = .skipped)
    (hrest : Partition source (byteWidth pre + c.utf8Size) tokens) : Partition source (byteWidth pre) tokens where
  inside located hmem := Nat.le_trans (Nat.le_add_right _ _) (hrest.inside located hmem)
  nonempty := hrest.nonempty
  increasing := hrest.increasing
  spelled := hrest.spelled
  skipped before d after heq hle huncovered := by
    rcases position_cases (hsource ▸ heq) hle with ⟨_, rfl⟩ | hbehind
    · exact CharClass.not_of_skipped hskipped
    · exact hrest.skipped before d after heq hbehind huncovered
  longest := hrest.longest

/-- The tokens of a part, with one more token in front of it. -/
private theorem cons {token : Token} {text : List Char} (hsource : source.toList = pre ++ text ++ rest)
    (hnonempty : text ≠ []) (hspelled : token.Spelled text ∨ token.Unclosed text ∧ tokens = [] ∧ rest = [])
    (hbefore : ∀ c, pre.getLast? = some c → token.kind.runsOn c = false)
    (hafter : ∀ c, rest.head? = some c → token.kind.runsOn c = false)
    (hrest : Partition source (byteWidth pre + byteWidth text) tokens) :
    Partition source (byteWidth pre) (.spanning (byteWidth pre) token text :: tokens) := by
  have hwidth : 0 < byteWidth text :=
    Nat.pos_of_ne_zero fun hzero => hnonempty (eq_nil_of_byteWidth_eq_zero hzero)
  constructor
  case inside =>
    rintro located (_ | ⟨_, hmem⟩)
    · exact Nat.le_refl _
    · exact Nat.le_trans (Nat.le_add_right _ _) (hrest.inside located hmem)
  case nonempty =>
    rintro located (_ | ⟨_, hmem⟩)
    · exact Nat.lt_add_of_pos_right hwidth
    · exact hrest.nonempty located hmem
  case increasing =>
    refine List.pairwise_cons.2 ⟨fun located hmem => ?_, hrest.increasing⟩
    have hbehind := hrest.inside located hmem
    exact ⟨Nat.lt_of_lt_of_le (Nat.lt_add_of_pos_right hwidth) hbehind, hbehind⟩
  case spelled =>
    rintro located (_ | ⟨_, hmem⟩)
    · refine ⟨String.ofList text, Span.slice?_eq_some_iff.2 ⟨pre, rest, ?_, ?_⟩, ?_⟩
      · rw [String.toList_ofList, hsource]
      · rw [String.toList_ofList]
        rfl
      · rw [String.toList_ofList]
        refine hspelled.imp_right ?_
        rintro ⟨hunclosed, rfl, rfl⟩
        refine ⟨hunclosed, rfl, ?_⟩
        rw [hsource, List.append_nil, byteWidth_append]
        rfl
    · obtain ⟨text, hslice, hspelled⟩ := hrest.spelled located hmem
      refine ⟨text, hslice, hspelled.imp_right fun ⟨hunclosed, hlast, hend⟩ => ⟨hunclosed, ?_, hend⟩⟩
      rw [List.getLast?_cons, hlast]
      rfl
  case skipped =>
    intro before c after heq hle huncovered
    refine hrest.skipped before c after heq ?_ fun located hmem => huncovered located (List.mem_cons_of_mem _ hmem)
    have hnot := huncovered _ (List.mem_cons_self ..)
    simp only [Located.Covers, Located.spanning, not_and, Nat.not_lt] at hnot
    exact hnot hle
  case longest =>
    rintro located (_ | ⟨_, hmem⟩) before c after heq hnext
    · rw [hsource] at heq
      rcases hnext with hnext | hnext
      · -- the character that the token comes right after
        have hnext : byteWidth before + c.utf8Size = byteWidth pre := hnext
        have hsame : (before ++ [c]) ++ after = pre ++ (text ++ rest) := by simp [← heq]
        obtain ⟨mid, hpre, _⟩ := exists_append_of_byteWidth_le hsame (by simp [byteWidth_append, hnext])
        have hmid : mid = [] := by
          apply eq_nil_of_byteWidth_eq_zero
          rw [hpre] at hnext
          simp only [byteWidth_append, byteWidth_cons, byteWidth_nil] at hnext
          omega
        subst hmid
        exact hbefore c (by simp [hpre])
      · -- the character that comes right after the token
        have hnext : byteWidth before = byteWidth pre + byteWidth text := hnext
        obtain ⟨mid, hlater, hmid⟩ := exists_append_of_byteWidth_le heq (by simp [byteWidth_append, hnext])
        have hmid : mid = [] := by
          apply eq_nil_of_byteWidth_eq_zero
          rw [hlater] at hnext
          simp only [byteWidth_append] at hnext
          omega
        subst hmid
        exact hafter c (by simp_all)
    · exact hrest.longest located hmem before c after heq hnext

/-- Nothing is left to partition at the end. -/
private theorem nil (hsource : source.toList = pre) : Partition source (byteWidth pre) [] where
  inside := nofun
  nonempty := nofun
  increasing := .nil
  spelled := nofun
  skipped before c after heq hle _ := by
    have hpositive := c.utf8Size_pos
    rw [hsource] at heq
    rw [heq, byteWidth_append, byteWidth_cons] at hle
    omega
  longest := nofun

end Partition

/-- Tokens that are laid out in a text partition it. -/
private theorem Laid.partition {source : String} {offset : Nat} {pre chars : List Char} {tokens : List Located}
    (hlaid : Laid offset chars tokens) (hoffset : offset = byteWidth pre) (hsource : source.toList = pre ++ chars)
    (hedge : Edge pre chars) : Partition source (byteWidth pre) tokens := by
  induction hlaid generalizing pre with
  | done => exact .nil (by simpa using hsource)
  | @gap offset c rest tokens hskipped _ ih =>
    have hedge' : Edge (pre ++ [c]) rest := by
      intro kind d e hlast _ hruns
      rw [List.getLast?_concat] at hlast
      cases hlast
      rw [Token.Kind.runsOn_eq_false_of_class (by simp [hskipped]) (by simp [hskipped])] at hruns
      cases hruns
    have hsource' : source.toList = pre ++ [c] ++ rest := by simpa using hsource
    have hrest := ih (by simp [hoffset, byteWidth_append]) hsource' hedge'
    simp only [byteWidth_append, byteWidth_cons, byteWidth_nil, Nat.add_zero] at hrest
    exact .of_gap hsource hskipped hrest
  | @token offset token text rest tokens hspelled hlongest _ ih =>
    have hsource' : source.toList = pre ++ text ++ rest := by simpa using hsource
    have hrest := ih (by rw [hoffset, byteWidth_append]) hsource' (hspelled.edge hlongest)
    rw [byteWidth_append] at hrest
    subst hoffset
    exact .cons (by simpa using hsource) hspelled.ne_nil (.inl hspelled)
      (fun _ => hspelled.runsOn_eq_false_of_edge hedge) hlongest hrest
  | @unclosed offset token text hunclosed =>
    subst hoffset
    have hend : source.toList = pre ++ text ++ [] := by simpa using hsource
    have hrest : Partition source (byteWidth pre + byteWidth text) [] := by
      rw [← byteWidth_append]
      exact .nil hsource
    obtain ⟨quote, contents, hquote, hnot, rfl, rfl⟩ := hunclosed
    exact .cons hend (List.cons_ne_nil _ _) (.inr ⟨⟨quote, contents, hquote, hnot, rfl, rfl⟩, rfl, rfl⟩)
      (fun _ _ => rfl) (fun _ _ => rfl) hrest

namespace Partition

variable {source : String} {pre rest : List Char} {tokens : List Located}

/-- Where a token begins there is a character, and it is the first of its text. -/
private theorem exists_text {start : Nat} {located : Located} (hpartition : Partition source start tokens)
    (hmem : located ∈ tokens) (hsource : source.toList = pre ++ rest)
    (hle : byteWidth pre ≤ located.span.start) :
    ∃ mid text after, rest = mid ++ text ++ after ∧
      located = .spanning (byteWidth pre + byteWidth mid) located.token text ∧
      (located.token.Spelled text ∨ located.token.Unclosed text ∧ tokens.getLast? = some located ∧ after = []) := by
  obtain ⟨text, hslice, hspelled⟩ := hpartition.spelled located hmem
  obtain ⟨before, after, htext, hspan⟩ := Span.slice?_eq_some_iff.1 hslice
  rw [hspan] at hle
  have hsame : pre ++ rest = before ++ (text.toList ++ after) := by rw [← hsource, htext, List.append_assoc]
  obtain ⟨mid, rfl, hrest⟩ := exists_append_of_byteWidth_le hsame hle
  refine ⟨mid, text.toList, after, by rw [hrest, List.append_assoc], ?_, ?_⟩
  · cases located
    simp only [Located.spanning] at hspan ⊢
    rw [hspan, byteWidth_append]
  · refine hspelled.imp_right fun ⟨hunclosed, hlast, hend⟩ => ⟨hunclosed, hlast, ?_⟩
    apply eq_nil_of_byteWidth_eq_zero
    rw [hspan, htext] at hend
    simp only [byteWidth_append] at hend
    omega

/-- A token that does not begin at a character begins behind it. -/
private theorem behind {start : Nat} {c : Char} {located : Located} (hpartition : Partition source start tokens)
    (hmem : located ∈ tokens) (hsource : source.toList = pre ++ c :: rest)
    (hle : byteWidth pre ≤ located.span.start) (hne : byteWidth pre ≠ located.span.start) :
    byteWidth pre + c.utf8Size ≤ located.span.start := by
  obtain ⟨mid, text, after, hrest, hlocated, _⟩ := hpartition.exists_text hmem hsource hle
  rw [hlocated] at hne ⊢
  simp only [Located.spanning] at hne ⊢
  cases mid with
  | nil => exact absurd rfl hne
  | cons d mid =>
    cases hrest
    rw [byteWidth_cons]
    omega

/-- A part whose first character no token covers. -/
private theorem gap {c : Char} (hpartition : Partition source (byteWidth pre) tokens)
    (hsource : source.toList = pre ++ c :: rest)
    (huncovered : ∀ located ∈ tokens, ¬ located.Covers (byteWidth pre)) :
    CharClass.of c = .skipped ∧ Partition source (byteWidth pre + c.utf8Size) tokens := by
  obtain ⟨hnumber, hquote, hname, hpunct, hoperator⟩ :=
    hpartition.skipped pre c rest hsource (Nat.le_refl _) huncovered
  refine ⟨CharClass.of_skipped hnumber hquote hname hpunct hoperator, ?_⟩
  constructor
  case inside =>
    intro located hmem
    refine hpartition.behind hmem hsource (hpartition.inside located hmem) fun heq => ?_
    exact huncovered located hmem ⟨Nat.le_of_eq heq.symm, heq ▸ hpartition.nonempty located hmem⟩
  case skipped =>
    intro before d after heq hle
    exact hpartition.skipped before d after heq (Nat.le_trans (Nat.le_add_right _ _) hle)
  case nonempty => exact hpartition.nonempty
  case increasing => exact hpartition.increasing
  case spelled => exact hpartition.spelled
  case longest => exact hpartition.longest

/-- The token that covers the first character of a part is the first of its tokens. -/
private theorem eq_cons_of_covers {start : Nat} {located : Located} (hpartition : Partition source start tokens)
    (hmem : located ∈ tokens) (hcovers : located.Covers start) :
    located.span.start = start ∧ ∃ others, tokens = located :: others := by
  have hstart := Nat.le_antisymm hcovers.1 (hpartition.inside located hmem)
  refine ⟨hstart, ?_⟩
  cases tokens with
  | nil => cases hmem
  | cons first others =>
    refine ⟨others, ?_⟩
    rcases List.mem_cons.1 hmem with rfl | hlater
    · rfl
    · have hbehind := ((List.pairwise_cons.1 hpartition.increasing).1 located hlater).2
      have hinside := hpartition.inside first (List.mem_cons_self ..)
      have hnonempty := hpartition.nonempty first (List.mem_cons_self ..)
      omega

/-- What is left of a partition behind its first token. -/
private theorem tail {located : Located} {start : Nat} (hpartition : Partition source start (located :: tokens))
    (hstart : located.span.start = start) : Partition source located.span.stop tokens where
  inside other hmem := ((List.pairwise_cons.1 hpartition.increasing).1 other hmem).2
  nonempty other hmem := hpartition.nonempty other (List.mem_cons_of_mem _ hmem)
  increasing := (List.pairwise_cons.1 hpartition.increasing).2
  spelled other hmem := by
    obtain ⟨text, hslice, hspelled⟩ := hpartition.spelled other (List.mem_cons_of_mem _ hmem)
    refine ⟨text, hslice, hspelled.imp_right fun ⟨hunclosed, hlast, hend⟩ => ⟨hunclosed, ?_, hend⟩⟩
    rw [List.getLast?_cons, List.getLast?_eq_some_getLast (List.ne_nil_of_mem hmem)] at hlast
    rw [List.getLast?_eq_some_getLast (List.ne_nil_of_mem hmem)]
    exact hlast
  skipped before c after heq hle huncovered := by
    have hnonempty := hpartition.nonempty located (List.mem_cons_self ..)
    refine hpartition.skipped before c after heq (by omega) ?_
    rintro other (_ | ⟨_, hmem⟩)
    · exact fun hcovers => absurd hcovers.2 (Nat.not_lt.2 hle)
    · exact huncovered other hmem
  longest other hmem := hpartition.longest other (List.mem_cons_of_mem _ hmem)

/-- Tokens that partition a text are laid out in it. -/
private theorem laid {source : String} {pre chars : List Char} {tokens : List Located}
    (hpartition : Partition source (byteWidth pre) tokens) (hsource : source.toList = pre ++ chars) :
    Laid (byteWidth pre) chars tokens := by
  cases chars with
  | nil =>
    cases tokens with
    | nil => exact .done
    | cons located others =>
      obtain ⟨mid, text, after, hrest, hlocated, _⟩ := hpartition.exists_text (List.mem_cons_self ..) hsource
        (hpartition.inside located (List.mem_cons_self ..))
      have hnonempty := hpartition.nonempty located (List.mem_cons_self ..)
      obtain ⟨rfl, rfl, rfl⟩ : mid = [] ∧ text = [] ∧ after = [] := by simpa using hrest.symm
      rw [hlocated] at hnonempty
      exact absurd hnonempty (Nat.lt_irrefl _)
  | cons c rest =>
    by_cases hcovered : ∃ located ∈ tokens, located.Covers (byteWidth pre)
    · obtain ⟨located, hmem, hcovers⟩ := hcovered
      obtain ⟨hstart, others, rfl⟩ := hpartition.eq_cons_of_covers hmem hcovers
      obtain ⟨mid, text, after, hrest, hlocated, hspelled⟩ :=
        hpartition.exists_text hmem hsource (Nat.le_of_eq hstart.symm)
      obtain rfl : mid = [] := by
        apply eq_nil_of_byteWidth_eq_zero
        rw [hlocated] at hstart
        exact Nat.add_eq_left.1 hstart
      rw [List.nil_append] at hrest
      rw [byteWidth_nil, Nat.add_zero] at hlocated
      have hsource' : source.toList = (pre ++ text) ++ after := by rw [hsource, hrest, List.append_assoc]
      have hstop : located.span.stop = byteWidth (pre ++ text) := by
        rw [hlocated, byteWidth_append]
        rfl
      rw [hrest, hlocated]
      rcases hspelled with hspelled | ⟨hunclosed, hlast, rfl⟩
      · have hshorter : after.length < (c :: rest).length := by
          have hlength := List.length_pos_iff.2 hspelled.ne_nil
          rw [hrest, List.length_append]
          omega
        have hlongest : ∀ d, after.head? = some d → located.token.kind.runsOn d = false := by
          intro d hhead
          obtain ⟨after', rfl⟩ : ∃ after', after = d :: after' := by
            cases after with
            | nil => cases hhead
            | cons e after' => cases hhead; exact ⟨after', rfl⟩
          exact hpartition.longest located (List.mem_cons_self ..) (pre ++ text) d after' hsource' (.inr hstop.symm)
        have htail := laid (hstop ▸ hpartition.tail hstart) hsource'
        rw [byteWidth_append] at htail
        exact .token hspelled hlongest htail
      · have hothers : others = [] := by
          cases others with
          | nil => rfl
          | cons other others =>
            have hbehind := (List.pairwise_cons.1 hpartition.increasing).1 located
              (List.mem_of_getLast? (by simpa [List.getLast?_cons_cons] using hlast))
            have hnonempty := hpartition.nonempty located (List.mem_cons_self ..)
            omega
        rw [hothers, List.append_nil]
        exact .unclosed hunclosed
    · obtain ⟨hskipped, hpartition⟩ := hpartition.gap hsource fun located hmem hcovers =>
        hcovered ⟨located, hmem, hcovers⟩
      have hnext : byteWidth (pre ++ [c]) = byteWidth pre + c.utf8Size := by simp [byteWidth_append]
      have hrest := laid (hnext ▸ hpartition) (by simpa using hsource : source.toList = pre ++ [c] ++ rest)
      rw [hnext] at hrest
      exact .gap hskipped hrest
termination_by chars.length

theorem of_tokenize (source : String) : Partition source 0 (tokenize source).toList :=
  Laid.partition ((Laid.iff_tokenize source).2 rfl) byteWidth_nil.symm rfl fun _ _ _ hlast => by cases hlast

end Partition

/-- The tokens of a source partition it, and no other tokens do: tokens that cover their own
    spelling, leave out nothing but skipped characters and break no run are these. -/
theorem partition_iff_tokenize (source : String) (tokens : List Located) :
    Partition source 0 tokens ↔ tokens = (tokenize source).toList := by
  constructor
  · intro hpartition
    have hwhole : Partition source (byteWidth []) tokens := hpartition
    exact (Laid.iff_tokenize source).1 (hwhole.laid rfl)
  · rintro rfl
    exact .of_tokenize source

end Rewind
