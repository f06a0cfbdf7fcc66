import Rewind.Proofs.Reformatting

namespace Rewind

/-- Whether every parenthesis has its partner, where `depth` of them are open. -/
def closesAll : (depth : Nat) → List Token → Bool
  | depth, [] => depth == 0
  | depth, token :: rest =>
    if token.isPunct "(" then closesAll (depth + 1) rest
    else if token.isPunct ")" then
      match depth with
      | 0 => false
      | depth + 1 => closesAll depth rest
    else closesAll depth rest

/-- A buffer with a parenthesised list in it, of which `inside` is the contents. -/
structure HasList (tokens : Array Located) (before inside after : List Token) : Prop where
  text : tokens.toList.map (·.token) = before ++ ⟨.punct, "("⟩ :: (inside ++ ⟨.punct, ")"⟩ :: after)
  balanced : closesAll 0 inside = true

/-- Positions that stand for each other when the `n` tokens in the list at `pos` become
    `m` other ones. Inside of the list there are none. -/
inductive Shifted (pos n m : Nat) : Nat → Nat → Prop where
  | before {l : Nat} (hle : l ≤ pos) : Shifted pos n m l l
  | after (i : Nat) : Shifted pos n m (pos + 2 + n + i) (pos + 2 + m + i)

/-- Past a token that is not the beginning of the list. -/
private theorem Shifted.step {pos n m l r : Nat} (hshifted : Shifted pos n m l r) (hne : l ≠ pos) :
    Shifted pos n m (l + 1) (r + 1) := by
  cases hshifted with
  | before hle => exact .before (by omega)
  | after i => exact .after (i + 1)

namespace HasList

variable {tokens tokens' : Array Located} {before inside inside' after : List Token}

private theorem getElem?_eq (hlist : HasList tokens before inside after) (i : Nat) :
    tokens[i]?.map (·.token) = (before ++ ⟨.punct, "("⟩ :: (inside ++ ⟨.punct, ")"⟩ :: after))[i]? := by
  rw [← hlist.text, List.getElem?_map, Array.getElem?_toList]

private theorem of_sameText (hlist : HasList tokens before inside after) (hsame : SameText tokens' tokens) :
    HasList tokens' before inside after where
  text := by
    have htext := congrArg Array.toList hsame
    rw [Array.toList_map, Array.toList_map] at htext
    rw [htext, hlist.text]
  balanced := hlist.balanced

private theorem opening (hlist : HasList tokens before inside after) :
    ∃ located, tokens[before.length]? = some located ∧ located.token = ⟨.punct, "("⟩ := by
  have hget := hlist.getElem?_eq before.length
  simp only [List.getElem?_append_right (Nat.le_refl _), Nat.sub_self, List.getElem?_cons_zero] at hget
  exact Option.map_eq_some_iff.1 hget

private theorem getElem?_inside (hlist : HasList tokens before inside after) {i : Nat} (hlt : i < inside.length) :
    tokens[before.length + 1 + i]?.map (·.token) = inside[i]? := by
  rw [hlist.getElem?_eq, List.getElem?_append_right (by omega),
    show before.length + 1 + i - before.length = i + 1 by omega, List.getElem?_cons_succ, List.getElem?_append_left hlt]

private theorem closing (hlist : HasList tokens before inside after) :
    ∃ located, tokens[before.length + 1 + inside.length]? = some located ∧ located.token = ⟨.punct, ")"⟩ := by
  have hget := hlist.getElem?_eq (before.length + 1 + inside.length)
  rw [List.getElem?_append_right (by omega),
    show before.length + 1 + inside.length - before.length = inside.length + 1 by omega, List.getElem?_cons_succ,
    List.getElem?_append_right (Nat.le_refl _), Nat.sub_self, List.getElem?_cons_zero] at hget
  exact Option.map_eq_some_iff.1 hget

private theorem getElem?_after (hlist : HasList tokens before inside after) (i : Nat) :
    tokens[before.length + 2 + inside.length + i]?.map (·.token) = after[i]? := by
  rw [hlist.getElem?_eq, List.getElem?_append_right (by omega),
    show before.length + 2 + inside.length + i - before.length = inside.length + (i + 1) + 1 by omega,
    List.getElem?_cons_succ, List.getElem?_append_right (by omega), Nat.add_sub_cancel_left, List.getElem?_cons_succ]

end HasList

/-- A scan passes over tokens in which every parenthesis has its partner. -/
private theorem closeFrom_of_closesAll {tokens : Array Located} {inside : List Token} {pos depth : Nat}
    (hinside : ∀ i < inside.length, tokens[pos + i]?.map (·.token) = inside[i]?)
    (hclosed : closesAll depth inside = true) (more : Nat) :
    Eval.closeFrom tokens pos (depth + more) = Eval.closeFrom tokens (pos + inside.length) more := by
  induction inside generalizing pos depth with
  | nil =>
    simp only [closesAll, beq_iff_eq] at hclosed
    simp [hclosed]
  | cons token rest ih =>
    obtain ⟨located, hcurrent, rfl⟩ := Option.map_eq_some_iff.1 (hinside 0 (by simp))
    rw [Nat.add_zero] at hcurrent
    have hrest : ∀ i < rest.length, tokens[pos + 1 + i]?.map (·.token) = rest[i]? := by
      intro i hlt
      have hget := hinside (i + 1) (by simpa using hlt)
      rw [List.getElem?_cons_succ, Nat.add_comm i 1, ← Nat.add_assoc] at hget
      exact hget
    have hlength : pos + (located.token :: rest).length = pos + 1 + rest.length := by
      rw [List.length_cons]
      omega
    rw [hlength]
    unfold closesAll at hclosed
    by_cases hopen : located.token.isPunct "(" = true
    · rw [if_pos hopen] at hclosed
      rw [Eval.closeFrom_of_open hcurrent hopen, ← ih hrest hclosed, Nat.add_right_comm]
    · rw [if_neg hopen] at hclosed
      by_cases hclose : located.token.isPunct ")" = true
      · rw [if_pos hclose] at hclosed
        cases depth with
        | zero => cases hclosed
        | succ depth =>
          rw [Nat.add_right_comm, Eval.closeFrom_of_close_succ hcurrent hclose, ih hrest hclosed]
      · rw [if_neg hclose] at hclosed
        rw [Eval.closeFrom_of_other hcurrent hopen hclose, ih hrest hclosed]

namespace HasList

variable {tokens tokens' : Array Located} {before inside inside' after : List Token}

private theorem closeFrom_eq (hlist : HasList tokens before inside after) :
    Eval.closeFrom tokens (before.length + 1) 0 = some (before.length + 2 + inside.length) := by
  obtain ⟨located, hcurrent, htoken⟩ := hlist.closing
  have hpassed := closeFrom_of_closesAll (fun i hlt => hlist.getElem?_inside hlt) hlist.balanced 0
  rw [hpassed, Eval.closeFrom_of_close hcurrent (by rw [htoken]; rfl)]
  congr 1
  omega

/-- The list is balanced as a whole. -/
private theorem balanced_around (hlist : HasList tokens before inside after) :
    Eval.Balanced tokens before.length (before.length + 2 + inside.length) := by
  obtain ⟨located, hcurrent, htoken⟩ := hlist.opening
  exact .of_closeFrom hcurrent (by rw [htoken]; rfl) hlist.closeFrom_eq

section Both

variable (hleft : HasList tokens before inside after) (hright : HasList tokens' before inside' after)
include hleft hright

/-- Outside of the list the tokens are the same. -/
private theorem token_eq {l r : Nat} (hshifted : Shifted before.length inside.length inside'.length l r) :
    tokens[l]?.map (·.token) = tokens'[r]?.map (·.token) := by
  cases hshifted with
  | before hle =>
    rw [hleft.getElem?_eq, hright.getElem?_eq]
    rcases Nat.lt_or_eq_of_le hle with hlt | rfl
    · rw [List.getElem?_append_left hlt, List.getElem?_append_left hlt]
    · rw [List.getElem?_append_right (Nat.le_refl _), List.getElem?_append_right (Nat.le_refl _)]
      simp only [Nat.sub_self, List.getElem?_cons_zero]
  | after i => rw [hleft.getElem?_after, hright.getElem?_after]

private theorem rel_closeFrom_after (i depth : Nat) :
    Option.Rel (Shifted before.length inside.length inside'.length)
      (Eval.closeFrom tokens (before.length + 2 + inside.length + i) depth)
      (Eval.closeFrom tokens' (before.length + 2 + inside'.length + i) depth) := by
  have hsame (n : Nat) : SameTokens tokens tokens' (before.length + 2 + inside.length + i)
      (before.length + 2 + inside'.length + i) n := by
    intro j _
    rw [Nat.add_assoc, Nat.add_assoc _ i]
    exact hleft.token_eq hright (.after (i + j))
  cases hclose : Eval.closeFrom tokens (before.length + 2 + inside.length + i) depth with
  | none =>
    rw [SameTokens.closeFrom_eq_none hsame hclose]
    exact .none
  | some stop =>
    have hbounds := Eval.closeFrom_bounds hclose
    rw [SameTokens.closeFrom hclose (hsame _)]
    obtain ⟨n, rfl⟩ : ∃ n, stop = before.length + 2 + inside.length + i + n :=
      ⟨stop - (before.length + 2 + inside.length + i), by omega⟩
    rw [Nat.add_sub_cancel_left, Nat.add_assoc, Nat.add_assoc _ i]
    exact .some (.after (i + n))

/-- Scans from positions that stand for each other end at such positions: they count
    the same parentheses on the way to the list, and pass over it as a whole. -/
private theorem rel_closeFrom {l r : Nat} (hshifted : Shifted before.length inside.length inside'.length l r)
    (depth : Nat) :
    Option.Rel (Shifted before.length inside.length inside'.length) (Eval.closeFrom tokens l depth)
      (Eval.closeFrom tokens' r depth) := by
  cases hshifted with
  | after i => exact hleft.rel_closeFrom_after hright i depth
  | before hle =>
    -- the induction is on the tokens that are left before the list
    obtain ⟨n, hn⟩ : ∃ n, l + n = before.length := ⟨before.length - l, by omega⟩
    induction n generalizing l depth with
    | zero =>
      obtain rfl : l = before.length := hn
      rw [hleft.balanced_around.closes, hright.balanced_around.closes]
      exact hleft.rel_closeFrom_after hright 0 depth
    | succ n ih =>
      have hnext (depth : Nat) := @ih (l + 1) depth (by omega) (by omega)
      have htokens := hleft.token_eq hright (.before hle)
      obtain ⟨located, hcurrent⟩ : ∃ located, tokens[l]? = some located := by
        have hget := hleft.getElem?_eq l
        rw [List.getElem?_append_left (by omega), List.getElem?_eq_getElem (by omega)] at hget
        obtain ⟨located, hlocated, _⟩ := Option.map_eq_some_iff.1 hget
        exact ⟨located, hlocated⟩
      rw [hcurrent] at htokens
      obtain ⟨located', hcurrent', htoken⟩ := Option.map_eq_some_iff.1 htokens.symm
      by_cases hopen : located.token.isPunct "(" = true
      · rw [Eval.closeFrom_of_open hcurrent hopen, Eval.closeFrom_of_open hcurrent' (htoken ▸ hopen)]
        exact hnext (depth + 1)
      · by_cases hclose : located.token.isPunct ")" = true
        · cases depth with
          | zero =>
            rw [Eval.closeFrom_of_close hcurrent hclose, Eval.closeFrom_of_close hcurrent' (htoken ▸ hclose)]
            exact .some (.before (by omega))
          | succ depth =>
            rw [Eval.closeFrom_of_close_succ hcurrent hclose, Eval.closeFrom_of_close_succ hcurrent' (htoken ▸ hclose)]
            exact hnext depth
        · rw [Eval.closeFrom_of_other hcurrent hopen hclose,
            Eval.closeFrom_of_other hcurrent' (htoken ▸ hopen) (htoken ▸ hclose)]
          exact hnext depth

private theorem rel_region {l r : Nat} (hshifted : Shifted before.length inside.length inside'.length l r) :
    Option.Rel (Shifted before.length inside.length inside'.length) (Eval.closeFrom tokens (l + 1) 0)
      (Eval.closeFrom tokens' (r + 1) 0) := by
  by_cases hpos : l = before.length
  · obtain rfl : r = before.length := by
      cases hshifted with
      | before => exact hpos
      | after i => omega
    rw [hpos, hleft.closeFrom_eq, hright.closeFrom_eq]
    exact .some (.after 0)
  · exact hleft.rel_closeFrom hright (hshifted.step hpos) 0

end Both

end HasList

/-- The places outside of a list stand for those outside of what takes its place, and
    every place of another buffer stands for itself. The list is not read. -/
def Correspondence.replacing {tokens tokens' : Array Located} {before inside inside' after : List Token}
    (hleft : HasList tokens before inside after) (hright : HasList tokens' before inside' after) : Correspondence where
  places here there := (here.tokens = tokens ∧ there.tokens = tokens' ∧
    Shifted before.length inside.length inside'.length here.pos there.pos) ∨ here = there
  spans _ _ := True
  barred here := here = ⟨tokens, before.length⟩
  current := by
    rintro here there (⟨rfl, rfl, hshifted⟩ | rfl)
    · exact rel_alike_of_token_eq (hleft.token_eq hright hshifted) fun _ _ _ _ => trivial
    · exact rel_alike_of_token_eq rfl fun _ _ _ _ => trivial
  step := by
    rintro here there located (⟨rfl, rfl, hshifted⟩ | rfl) hcurrent hbarred
    · refine .inl ⟨rfl, rfl, hshifted.step fun hpos => ?_⟩
      -- the list itself begins with a parenthesis, and its place is barred
      obtain ⟨opening, hopening, htoken⟩ := hleft.opening
      rw [← hpos] at hopening
      cases hcurrent.symm.trans hopening
      refine hbarred ?_ (by rw [htoken]; rfl)
      rw [decide_eq_true_eq, ← hpos]
    · exact .inr rfl
  region := by
    rintro here there (⟨rfl, rfl, hshifted⟩ | rfl) _
    · have hregion := hleft.rel_region hright hshifted
      generalize Eval.closeFrom here.tokens (here.pos + 1) 0 = stop at hregion ⊢
      generalize Eval.closeFrom there.tokens (there.pos + 1) 0 = stop' at hregion ⊢
      cases hregion with
      | none => exact .none
      | some hstops => exact .some (.inl ⟨rfl, rfl, hstops⟩)
    · cases Eval.closeFrom here.tokens (here.pos + 1) 0 with
      | none => exact .none
      | some stop => exact .some (.inr rfl)

/-- The result, the bindings, the host calls and the log at the end of a run, without positions,
    places of tokens and the bodies of functions. -/
structure Observation where
  result : Except String Value
  env : String → Option Value
  calls : Array HostCall
  log : Array (Event.Level × String × List (String × Event.Detail))

def Observation.of : Except Error Value × Interpreter → Observation
  | (result, after) =>
    { result := (result.mapError (·.cause.message)).map Value.outline
      env := fun name => (after.machine.env.get? name).map Value.outline
      calls := after.machine.calls
      log := after.machine.log.map Event.content }

private theorem Machine.Matches.env_outline {bodies : Cursor → Cursor → Prop} {left right : Machine}
    (hmatches : Matches bodies left right) (name : String) :
    (left.env.get? name).map Value.outline = (right.env.get? name).map Value.outline := by
  have hbound := hmatches.env name
  generalize left.env.get? name = found at hbound ⊢
  generalize right.env.get? name = found' at hbound ⊢
  cases hbound with
  | none => rfl
  | some halike => exact congrArg some halike.outline

private theorem Correspondence.Endings.observation_eq {k : Correspondence}
    {ending ending' : Except Error Value × Interpreter}
    (hendings : k.Endings ending ending') : Observation.of ending = Observation.of ending' := by
  cases hendings with
  | ok hvalues hmachines =>
    simp only [Observation.of, Observation.mk.injEq]
    exact ⟨congrArg Except.ok hvalues.outline, funext hmachines.env_outline, hmachines.calls, hmachines.log⟩
  | error herrors hmachines =>
    simp only [Observation.of, Observation.mk.injEq]
    exact ⟨congrArg Except.error herrors.message, funext hmachines.env_outline, hmachines.calls, hmachines.log⟩

/-- Stops a run where it would evaluate the list at a place, or read it for
    parameters. -/
def Eval.Watch.excluding (place : Cursor) : Watch
  | .list, frame, pos => ⟨frame.tokens, pos⟩ ≠ place
  | .params, frame, pos => ⟨frame.tokens, pos⟩ ≠ place
  | _, _, _ => true

namespace Interpreter

/-- The run never evaluates the list at a position of its buffer, nor reads it for
    parameters: it ends also under a watch that would stop it there. A watch compares
    buffers by their tokens and spans, so the run may be one over a copy with other spans,
    which differs from the buffers of functions of earlier runs. -/
def NeverEvaluates (interpreter : Interpreter) (hosts : Hosts) (pos : Nat) : Prop :=
  ∃ copy patience, SameText copy interpreter.tokens ∧
    ({ interpreter with tokens := copy }.watched (.excluding ⟨copy, pos⟩) hosts patience).isSome

/-- Code that is not evaluated has no influence. Where a run ends without ever evaluating
    the list that stands after `before`, it ends as it does with any other tokens in the
    list, as long as each parenthesis among them has its partner. -/
theorem unevaluated_code_has_no_influence {tokens tokens' : Array Located} {before inside inside' after : List Token}
    (hleft : HasList tokens before inside after) (hright : HasList tokens' before inside' after) {machine : Machine}
    {limits : Limits} {hosts : Hosts} {ending : Except Error Value × Interpreter}
    (hends : (onTokens tokens machine limits).Ends hosts ending)
    (hunevaluated : (onTokens tokens machine limits).NeverEvaluates hosts before.length) :
    ∃ ending', (onTokens tokens' machine limits).Ends hosts ending' ∧ Observation.of ending' =
      Observation.of ending := by
  -- from the buffer to its copy by reformatting, and from there by replacing the list
  obtain ⟨copy, patience, hsame, hsome⟩ := hunevaluated
  obtain ⟨ended, hwatched⟩ := Option.isSome_iff_exists.1 hsome
  let k := Correspondence.replacing (hleft.of_sameText hsame) hright
  have hwatch : k.watch = .excluding ⟨copy, before.length⟩ := by
    funext moment frame pos
    cases moment <;> simp [Correspondence.watch, Eval.Watch.excluding, k, Correspondence.replacing]
  have hwatched : (onTokens copy machine limits).watched k.watch hosts patience = some ended := by
    rw [hwatch]
    exact hwatched
  obtain ⟨ending', hends', hendings'⟩ := ends_of_watched (k := k)
    (.inl ⟨rfl, rfl, .before (Nat.zero_le _)⟩) (fun _ _ _ => .inr rfl) (fun _ _ _ _ _ => .inr rfl) hwatched
  obtain ⟨_, hcopied, hendings⟩ := ends_of_sameText hsame ⟨patience, run_of_watched hwatched⟩
  rw [hends.unique hcopied]
  exact ⟨ending', hends', hendings'.observation_eq.symm.trans hendings.observation_eq⟩

/-- A program with a branch that is not taken. -/
def untaken : String := "if '' (boom) else ('seven')"

/-- The same program with a branch that has no value. -/
def jumbled : String := "if '' (; = call () else) else ('seven')"

/-- Both programs end with the same observation. -/
theorem unevaluated_code_has_no_influence_of_untaken :
    ∃ before inside inside' after, HasList (tokenize untaken) before inside after ∧
      HasList (tokenize jumbled) before inside' after ∧ inside ≠ inside' ∧
      (onMachine untaken {} {}).NeverEvaluates (fun _ => .echo) before.length ∧
      ∃ stop ending, (onMachine untaken {} {}).Ends (fun _ => .echo) (.ok (.string "seven"), stop) ∧
        (onMachine jumbled {} {}).Ends (fun _ => .echo) ending ∧
        Observation.of ending = Observation.of (.ok (.string "seven"), stop) := by
  simp only [onMachine_eq_onTokens]
  have hleft : HasList (tokenize untaken) [⟨.name, "if"⟩, ⟨.string, ""⟩] [⟨.name, "boom"⟩]
      [⟨.name, "else"⟩, ⟨.punct, "("⟩, ⟨.string, "seven"⟩, ⟨.punct, ")"⟩] :=
    ⟨by decide +kernel, by decide⟩
  have hright : HasList (tokenize jumbled) [⟨.name, "if"⟩, ⟨.string, ""⟩]
      [⟨.punct, ";"⟩, ⟨.punct, "="⟩, ⟨.name, "call"⟩, ⟨.punct, "("⟩, ⟨.punct, ")"⟩, ⟨.name, "else"⟩]
      [⟨.name, "else"⟩, ⟨.punct, "("⟩, ⟨.string, "seven"⟩, ⟨.punct, ")"⟩] :=
    ⟨by decide +kernel, by decide⟩
  have hunevaluated : (onTokens (tokenize untaken) {} {}).NeverEvaluates (fun _ => .echo) 2 :=
    ⟨tokenize untaken, 0, rfl, by decide +kernel⟩
  obtain ⟨stop, hends⟩ : ∃ stop, (onTokens (tokenize untaken) {} {}).Ends (fun _ => .echo)
      (.ok (.string "seven"), stop) := ends_of_endsWith (some "seven") (by decide +kernel)
  obtain ⟨ending, hends', hobservation⟩ := unevaluated_code_has_no_influence hleft hright hends hunevaluated
  exact ⟨_, _, _, _, hleft, hright, by decide, hunevaluated, stop, ending, hends, hends', hobservation⟩

end Interpreter

end Rewind
