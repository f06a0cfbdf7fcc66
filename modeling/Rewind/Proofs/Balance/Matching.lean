import Rewind.Proofs.Balance
import Rewind.Proofs.Step

namespace Rewind

/-- The punctuation `lexeme` as a token. -/
abbrev Token.mark (lexeme : String) : Token := ⟨.punct, lexeme⟩

private theorem Token.isPunct_iff_eq {token : Token} {lexeme : String} :
    token.isPunct lexeme = true ↔ token = mark lexeme := by
  cases token
  simp [isPunct]

/-- How many of the tokens from `p` up to `q` are the punctuation `lexeme`. -/
def markCount (lexeme : String) (tokens : Array Located) (p q : Nat) : Nat :=
  (tokens.extract p q).countP fun located => located.token = .mark lexeme

/-- From `p` up to `q`, as many parentheses are opened as are closed. -/
structure EvenBetween (tokens : Array Located) (p q : Nat) : Prop where
  forward : p < q
  inside : q ≤ tokens.size
  counts : markCount "(" tokens p q = markCount ")" tokens p q

instance (tokens : Array Located) (p q : Nat) : Decidable (EvenBetween tokens p q) :=
  decidable_of_iff (p < q ∧ q ≤ tokens.size ∧ markCount "(" tokens p q = markCount ")" tokens p q)
    ⟨fun ⟨hforward, hinside, hcounts⟩ => ⟨hforward, hinside, hcounts⟩,
      fun ⟨hforward, hinside, hcounts⟩ => ⟨hforward, hinside, hcounts⟩⟩

/-- The parentheses from `p` on are even at `q`, and at no position before it. -/
structure FirstEven (tokens : Array Located) (p q : Nat) : Prop where
  even : EvenBetween tokens p q
  first : ∀ r, EvenBetween tokens p r → q ≤ r

section Counting

variable {tokens : Array Located} {p q : Nat}

private theorem markCount_self (lexeme : String) (tokens : Array Located) (p : Nat) :
    markCount lexeme tokens p p = 0 := by
  rw [markCount, Array.extract_empty_of_stop_le_start (Nat.le_refl p)]
  rfl

/-- The first token is counted by itself. -/
private theorem markCount_of_lt (lexeme : String) (hinside : p < tokens.size) (hlt : p < q) :
    markCount lexeme tokens p q =
      markCount lexeme tokens (p + 1) q + if tokens[p].token = .mark lexeme then 1 else 0 := by
  have hwidth : q - p = (q - (p + 1)) + 1 := by omega
  unfold markCount
  rw [← Array.countP_toList, ← Array.countP_toList, Array.toList_extract, Array.toList_extract,
    List.extract_eq_take_drop, List.extract_eq_take_drop, List.drop_eq_getElem_cons (by simpa using hinside), hwidth,
    List.take_succ_cons, List.countP_cons]
  simp

private theorem markCount_of_other {lexeme : String} (hinside : p < tokens.size) (hlt : p < q)
    (hother : ¬ tokens[p].token.isPunct lexeme) :
    markCount lexeme tokens p q = markCount lexeme tokens (p + 1) q := by
  rw [markCount_of_lt lexeme hinside hlt, if_neg fun heq => hother (Token.isPunct_iff_eq.2 heq), Nat.add_zero]

private theorem markCount_of_mark {lexeme : String} (hinside : p < tokens.size) (hlt : p < q)
    (hmark : tokens[p].token.isPunct lexeme) :
    markCount lexeme tokens p q = markCount lexeme tokens (p + 1) q + 1 := by
  rw [markCount_of_lt lexeme hinside hlt, if_pos (Token.isPunct_iff_eq.1 hmark)]

end Counting

namespace Eval

variable {tokens : Array Located} {pos depth : Nat}

/-- Where the scan stops, the parentheses that were open are closed. -/
private theorem markCount_of_closeFrom {stop : Nat} (hclose : closeFrom tokens pos depth = some stop) :
    markCount ")" tokens pos stop = markCount "(" tokens pos stop + depth + 1 := by
  fun_induction closeFrom tokens pos depth with
  | case1 pos depth hlt token hopen ih =>
    have hbounds := closeFrom_bounds hclose
    have hother : ¬ token.isPunct ")" := fun hpunct => not_isPunct_open_of_close hpunct hopen
    rw [markCount_of_mark hlt (by omega) hopen, markCount_of_other hlt (by omega) hother, ih hclose]
    omega
  | case2 pos hlt token hopen hpunct =>
    cases hclose
    rw [markCount_of_mark hlt (by omega) hpunct, markCount_of_other hlt (by omega) hopen, markCount_self,
      markCount_self]
  | case3 pos hlt token hopen hpunct depth ih =>
    have hbounds := closeFrom_bounds hclose
    rw [markCount_of_mark hlt (by omega) hpunct, markCount_of_other hlt (by omega) hopen, ih hclose]
    omega
  | case4 pos depth hlt token hopen hother ih =>
    have hbounds := closeFrom_bounds hclose
    rw [markCount_of_other hlt (by omega) hother, markCount_of_other hlt (by omega) hopen, ih hclose]
  | case5 pos depth hlt => cases hclose

/-- Before the scan stops, if it does, no more parentheses are closed than are open. -/
private theorem markCount_le_before_close {r : Nat}
    (hbefore : ∀ stop, closeFrom tokens pos depth = some stop → r < stop) (hle : pos ≤ r) (hinside : r ≤ tokens.size) :
    markCount ")" tokens pos r ≤ markCount "(" tokens pos r + depth := by
  fun_induction closeFrom tokens pos depth with
  | case1 pos depth hlt token hopen ih =>
    rcases Nat.eq_or_lt_of_le hle with rfl | hlater
    · simp [markCount_self]
    · have hother : ¬ token.isPunct ")" := fun hpunct => not_isPunct_open_of_close hpunct hopen
      have hrest := ih hbefore hlater
      rw [markCount_of_mark hlt hlater hopen, markCount_of_other hlt hlater hother]
      omega
  | case2 pos hlt token hopen hpunct =>
    have hstop := hbefore _ rfl
    obtain rfl : r = pos := by omega
    simp [markCount_self]
  | case3 pos hlt token hopen hpunct depth ih =>
    rcases Nat.eq_or_lt_of_le hle with rfl | hlater
    · simp [markCount_self]
    · have hrest := ih hbefore hlater
      rw [markCount_of_mark hlt hlater hpunct, markCount_of_other hlt hlater hopen]
      omega
  | case4 pos depth hlt token hopen hother ih =>
    rcases Nat.eq_or_lt_of_le hle with rfl | hlater
    · simp [markCount_self]
    · rw [markCount_of_other hlt hlater hopen, markCount_of_other hlt hlater hother]
      exact ih hbefore hlater
  | case5 pos depth hlt =>
    obtain rfl : r = pos := by omega
    simp [markCount_self]

section Opened

variable {p q : Nat} {located : Located} (hcurrent : tokens[p]? = some located)
  (hopen : located.token.isPunct "(")

include hcurrent hopen

/-- Behind an opening parenthesis, one more has to be closed than is opened. -/
private theorem evenBetween_iff_of_open (hforward : p < q) (hinside : q ≤ tokens.size) :
    EvenBetween tokens p q ↔ markCount ")" tokens (p + 1) q = markCount "(" tokens (p + 1) q + 1 := by
  obtain ⟨hlt, rfl⟩ := Array.getElem?_eq_some_iff.1 hcurrent
  have hother : ¬ tokens[p].token.isPunct ")" := fun hpunct => not_isPunct_open_of_close hpunct hopen
  rw [← markCount_of_mark hlt hforward hopen, ← markCount_of_other hlt hforward hother]
  exact ⟨fun heven => heven.counts.symm, fun hcounts => ⟨hforward, hinside, hcounts.symm⟩⟩

private theorem evenBetween_of_closeFrom (hclose : closeFrom tokens (p + 1) 0 = some q) : EvenBetween tokens p q := by
  have hbounds := closeFrom_bounds hclose
  exact (evenBetween_iff_of_open hcurrent hopen (by omega) hbounds.2).2 (markCount_of_closeFrom hclose)

/-- The scan goes no further than to a position where the parentheses are even. -/
private theorem exists_closeFrom_of_evenBetween (heven : EvenBetween tokens p q) :
    ∃ stop ≤ q, closeFrom tokens (p + 1) 0 = some stop := by
  have hcounts := (evenBetween_iff_of_open hcurrent hopen heven.forward heven.inside).1 heven
  have hstops : ¬ ∀ stop, closeFrom tokens (p + 1) 0 = some stop → q < stop := fun hbefore => by
    have hopened := markCount_le_before_close hbefore heven.forward heven.inside
    omega
  cases hclose : closeFrom tokens (p + 1) 0 with
  | none => exact absurd (fun stop hstop => by rw [hclose] at hstop; cases hstop) hstops
  | some stop =>
    refine ⟨stop, Nat.le_of_not_lt fun hlt => hstops fun stop' hstop => ?_, rfl⟩
    rw [hclose] at hstop
    cases hstop
    exact hlt

/-- The scan behind an opening parenthesis stops where the parentheses, this one
    included, are even for the first time. -/
private theorem firstEven_iff_closeFrom : FirstEven tokens p q ↔ closeFrom tokens (p + 1) 0 = some q := by
  constructor
  · rintro ⟨heven, hfirst⟩
    obtain ⟨stop, hle, hclose⟩ := exists_closeFrom_of_evenBetween hcurrent hopen heven
    rw [hclose, Nat.le_antisymm hle (hfirst stop (evenBetween_of_closeFrom hcurrent hopen hclose))]
  · intro hclose
    refine ⟨evenBetween_of_closeFrom hcurrent hopen hclose, fun r heven => ?_⟩
    obtain ⟨stop, hle, hclose'⟩ := exists_closeFrom_of_evenBetween hcurrent hopen heven
    rw [hclose] at hclose'
    cases hclose'
    exact hle

end Opened

private theorem isPunct_iff_mark {lexeme : String} :
    (Cursor.mk tokens pos).isPunct lexeme = true ↔ tokens[pos]?.map (·.token) = some (.mark lexeme) := by
  simp only [isPunct_iff, Option.map_eq_some_iff, Token.isPunct_iff_eq]

theorem skipList_eq_done_iff {frame : Frame} {start after : Machine} :
    skipList frame start = .done () after ↔
      frame.tokens[start.pos]?.map (·.token) = some (.mark "(") ∧
        ∃ q, FirstEven frame.tokens start.pos q ∧ after = { start with pos := q } := by
  rw [skipList_apply, ← isPunct_iff_mark]
  by_cases hpunct : (Cursor.mk frame.tokens start.pos).isPunct "("
  · obtain ⟨located, hcurrent, hopen⟩ := isPunct_iff.1 hpunct
    simp only [hpunct, true_and, firstEven_iff_closeFrom hcurrent hopen]
    cases closeFrom frame.tokens (start.pos + 1) 0 with
    | some q => simp [eq_comm]
    | none => simp
  · simp [hpunct]

end Eval

/-- The token, but a string without what it says. -/
def Token.hushed (token : Token) : Token :=
  if token.kind = .string then ⟨.string, ""⟩ else token

private theorem Token.hushed_eq_mark_iff {token : Token} {lexeme : String} :
    token.hushed = mark lexeme ↔ token = mark lexeme := by
  unfold hushed
  split
  · rename_i hstring
    constructor
    · rintro ⟨⟩
    · rintro rfl
      cases hstring
  · rfl

section Hushed

variable {tokens tokens' : Array Located} (hsame : tokens.map (·.token.hushed) = tokens'.map (·.token.hushed))

include hsame

private theorem markCount_eq_of_hushed (lexeme : String) (p q : Nat) :
    markCount lexeme tokens p q = markCount lexeme tokens' p q := by
  have hcount (tokens : Array Located) : markCount lexeme tokens p q =
      ((tokens.map (·.token.hushed)).extract p q).countP fun token => token = .mark lexeme := by
    rw [← Array.map_extract, Array.countP_map]
    simp [markCount, Function.comp_def, Token.hushed_eq_mark_iff]
  rw [hcount, hcount, hsame]

private theorem EvenBetween.of_hushed {p q : Nat} (heven : EvenBetween tokens p q) : EvenBetween tokens' p q where
  forward := heven.forward
  inside := by
    have hsize : tokens.size = tokens'.size := by simpa using congrArg Array.size hsame
    exact hsize ▸ heven.inside
  counts := by
    rw [← markCount_eq_of_hushed hsame, ← markCount_eq_of_hushed hsame, heven.counts]

private theorem FirstEven.of_hushed {p q : Nat} (hfirst : FirstEven tokens p q) : FirstEven tokens' p q where
  even := hfirst.even.of_hushed hsame
  first r heven := hfirst.first r (heven.of_hushed hsame.symm)

private theorem current_mark_iff_of_hushed {p : Nat} {lexeme : String} :
    tokens[p]?.map (·.token) = some (.mark lexeme) ↔ tokens'[p]?.map (·.token) = some (.mark lexeme) := by
  have hmark (tokens : Array Located) : tokens[p]?.map (·.token) = some (.mark lexeme) ↔
      (tokens.map (·.token.hushed))[p]? = some (.mark lexeme) := by
    simp [Token.hushed_eq_mark_iff]
  rw [hmark, hmark, hsame]

end Hushed

/-- Moving past a list finds exactly the matching parenthesis. It succeeds just where
    a parenthesis is opened and the parentheses from there on get even, and then ends
    where they do so first, with nothing but the position changed. Where no parenthesis
    is opened it fails at the token that is there and does not move, and where one is
    opened for good it fails at the end of the buffer. What strings say makes no
    difference. -/
theorem skipList_finds_matching_parenthesis (frame : Frame) (start : Machine) :
    ((∃ after, Eval.skipList frame start = .done () after) ↔
      frame.tokens[start.pos]?.map (·.token) = some (.mark "(") ∧
        ∃ q, EvenBetween frame.tokens start.pos q) ∧
    (∀ after, Eval.skipList frame start = .done () after →
      ∃ q, after = { start with pos := q } ∧ EvenBetween frame.tokens start.pos q ∧
        ∀ r, EvenBetween frame.tokens start.pos r → q ≤ r) ∧
    (frame.tokens[start.pos]?.map (·.token) ≠ some (.mark "(") →
      ∃ error, Eval.skipList frame start = .failed error start ∧
        error.span = frame.tokens[start.pos]?.map (·.span) ∧
        error.message = match frame.tokens[start.pos]? with
          | some located => "expected `(`, got `" ++ located.token.text ++ "`" ++ " " ++ located.span.mention
          | none => "expected `(`, got EOF") ∧
    (frame.tokens[start.pos]?.map (·.token) = some (.mark "(") → (¬ ∃ q, EvenBetween frame.tokens start.pos q) →
      ∃ error, Eval.skipList frame start = .failed error { start with pos := frame.tokens.size } ∧
        error.message = "expected `)`, got EOF") ∧
    (∀ frame' : Frame, frame'.tokens.map (·.token.hushed) = frame.tokens.map (·.token.hushed) →
      ∀ after, Eval.skipList frame' start = .done () after ↔ Eval.skipList frame start = .done () after) := by
  refine ⟨?_, ?_, ?_, ?_, ?_⟩
  · constructor
    · rintro ⟨after, hdone⟩
      obtain ⟨hopen, q, hfirst, _⟩ := Eval.skipList_eq_done_iff.1 hdone
      exact ⟨hopen, q, hfirst.even⟩
    · rintro ⟨hopen, q, heven⟩
      obtain ⟨located, hcurrent, hlocated⟩ := Eval.isPunct_iff.1 (Eval.isPunct_iff_mark.2 hopen)
      obtain ⟨stop, _, hclose⟩ := Eval.exists_closeFrom_of_evenBetween hcurrent hlocated heven
      have hfirst := (Eval.firstEven_iff_closeFrom hcurrent hlocated).2 hclose
      exact ⟨_, Eval.skipList_eq_done_iff.2 ⟨hopen, stop, hfirst, rfl⟩⟩
  · intro after hdone
    obtain ⟨_, q, hfirst, rfl⟩ := Eval.skipList_eq_done_iff.1 hdone
    exact ⟨q, rfl, hfirst.even, hfirst.first⟩
  · intro hopen
    rw [Eval.skipList_apply, if_neg (mt Eval.isPunct_iff_mark.1 hopen)]
    refine ⟨_, rfl, rfl, ?_⟩
    cases frame.tokens[start.pos]? <;> rfl
  · intro hopen hnever
    have hpunct := Eval.isPunct_iff_mark.2 hopen
    obtain ⟨located, hcurrent, hlocated⟩ := Eval.isPunct_iff.1 hpunct
    have hclose : Eval.closeFrom frame.tokens (start.pos + 1) 0 = none := by
      rw [Option.eq_none_iff_forall_ne_some]
      exact fun q hclose => hnever ⟨q, Eval.evenBetween_of_closeFrom hcurrent hlocated hclose⟩
    rw [Eval.skipList_apply, if_pos hpunct, hclose]
    exact ⟨_, rfl, rfl⟩
  · intro frame' hsame after
    rw [Eval.skipList_eq_done_iff, Eval.skipList_eq_done_iff, current_mark_iff_of_hushed hsame]
    refine and_congr_right fun _ => exists_congr fun q => and_congr_left fun _ => ?_
    exact ⟨FirstEven.of_hushed hsame, FirstEven.of_hushed hsame.symm⟩

/-- A list with parentheses in its strings, and more tokens behind it. -/
def quotedParens : Frame where
  tokens := tokenize "( ')' ( `(` ) ) '(' )"
  limits := {}
  hosts _ := .echo
  depth := 0
  patience := 0

theorem skipList_finds_matching_parenthesis_of_quotedParens :
    Eval.skipList quotedParens {} = .done () { pos := 6 } ∧
      ∃ error, Eval.skipList quotedParens { pos := 1 } = .failed error { pos := 1 } ∧
        error.message = "expected `(`, got `\")\"` (at 2:5)" := by
  obtain ⟨hopen, heven, hearlier, hcurrent⟩ :
      quotedParens.tokens[0]?.map (·.token) = some (.mark "(") ∧ EvenBetween quotedParens.tokens 0 6 ∧
        (∀ r < 6, ¬ EvenBetween quotedParens.tokens 0 r) ∧
        quotedParens.tokens[1]? = some ⟨⟨.string, ")"⟩, ⟨2, 5⟩⟩ := by decide +kernel
  constructor
  · obtain ⟨hsucceeds, hends, _⟩ := skipList_finds_matching_parenthesis quotedParens {}
    obtain ⟨after, hdone⟩ := hsucceeds.2 ⟨hopen, 6, heven⟩
    obtain ⟨q, rfl, hq, hfirst⟩ := hends after hdone
    obtain rfl : q = 6 := Nat.le_antisymm (hfirst 6 heven) (Nat.le_of_not_lt fun hlt => hearlier q hlt hq)
    exact hdone
  · obtain ⟨_, _, hfails, _⟩ := skipList_finds_matching_parenthesis quotedParens { pos := 1 }
    simp only [hcurrent] at hfails
    obtain ⟨error, hfailed, _, hmessage⟩ := hfails nofun
    exact ⟨error, hfailed, hmessage.trans (by decide +kernel)⟩

end Rewind
