import Rewind.Proofs.Correspondence.Program

namespace Rewind

/-- Two buffers with the same tokens, wherever these stand in their sources. -/
def SameText (left right : Array Located) : Prop := left.map (·.token) = right.map (·.token)

instance (left right : Array Located) : Decidable (SameText left right) := inferInstanceAs (Decidable (_ = _))

/-- The buffers that a run may read besides its source: those of the functions that are
    bound when it begins, and of the functions that a host may answer with. -/
def Machine.Brings (machine : Machine) (hosts : Hosts) (tokens : Array Located) : Prop :=
  (∃ name f, machine.env.get? name = some (.function f) ∧ f.body.tokens = tokens) ∨
    ∃ host earlier code f, (hosts host).answer earlier code = .ok (.function f) ∧ f.body.tokens = tokens

/-- Two spans of the same token. It has the same index in the buffers of both sources, or
    it is a token of one buffer that both runs read besides. -/
inductive SameToken (left right : Array Located) (brings : Array Located → Prop) : Span → Span → Prop where
  | source {index : Nat} {located located' : Located} (hleft : left[index]? = some located)
    (hright : right[index]? = some located') : SameToken left right brings located.span located'.span
  | brought {tokens : Array Located} {index : Nat} {located : Located} (hbrings : brings tokens)
    (hlocated : tokens[index]? = some located) : SameToken left right brings located.span located.span

/-- The value, with no places of tokens in the buffer of a function. -/
def Value.withoutSpans : Value → Value
  | function f => function { f with body := ⟨f.body.tokens.map ({ · with span := ⟨0, 0⟩ }), f.body.pos⟩ }
  | value => value

/-- The same machine for anyone who does not look at the places of tokens. -/
structure Machine.SameButSpans (left right : Machine) : Prop where
  env : ∀ name, (left.env.get? name).map Value.withoutSpans = (right.env.get? name).map Value.withoutSpans
  calls : left.calls = right.calls
  log : left.log.map Event.content = right.log.map Event.content

/-- Both runs have succeeded, with the same value, or both have failed, with the same
    words and at the same token. -/
inductive Interpreter.EndsSame (spans : Span → Span → Prop) :
    Except Error Value × Interpreter → Except Error Value × Interpreter → Prop where
  | ok {v w : Value} {left right : Interpreter} (hvalues : v.withoutSpans = w.withoutSpans)
    (hmachines : left.machine.SameButSpans right.machine) : EndsSame spans (.ok v, left) (.ok w, right)
  | error {error error' : Error} {left right : Interpreter} (hmessage : error.cause.message = error'.cause.message)
    (hspan : Option.Rel spans error.span error'.span) (hmachines : left.machine.SameButSpans right.machine) :
    EndsSame spans (.error error, left) (.error error', right)

namespace SameText

variable {left right : Array Located}

private theorem symm (hsame : SameText left right) : SameText right left := Eq.symm hsame

private theorem sameTokens (hsame : SameText left right) (pos n : Nat) : SameTokens left right pos pos n := by
  intro i _
  have hget := congrArg (·[pos + i]?) hsame
  simpa only [Array.getElem?_map] using hget

private theorem closeFrom_eq (hsame : SameText left right) (pos depth : Nat) :
    Eval.closeFrom left pos depth = Eval.closeFrom right pos depth := by
  cases hclose : Eval.closeFrom left pos depth with
  | none => rw [SameTokens.closeFrom_eq_none (hsame.sameTokens pos) hclose]
  | some stop =>
    have hbounds := Eval.closeFrom_bounds hclose
    rw [SameTokens.closeFrom hclose (hsame.sameTokens pos _)]
    congr 1
    omega

end SameText

/-- Each place of one buffer stands for the same place of the other one, and each place
    of a buffer that both runs read besides stands for itself. -/
def Correspondence.reformatting {left right : Array Located} (hsame : SameText left right)
    (brings : Array Located → Prop) : Correspondence where
  places here there := (here.tokens = left ∧ there.tokens = right ∧ here.pos = there.pos) ∨
    here = there ∧ brings here.tokens
  spans := SameToken left right brings
  barred _ := false
  current := by
    rintro ⟨tokens, pos⟩ ⟨tokens', pos'⟩ (⟨rfl, rfl, rfl⟩ | ⟨heq, hbrings⟩)
    · exact rel_alike_of_token_eq ((hsame.sameTokens pos 1).current Nat.one_pos) fun _ _ => .source
    · cases heq
      refine rel_alike_of_token_eq rfl fun located located' hleft hright => ?_
      cases hleft.symm.trans hright
      exact .brought hbrings hleft
  step := by
    rintro ⟨tokens, pos⟩ ⟨tokens', pos'⟩ located (⟨rfl, rfl, rfl⟩ | ⟨heq, hbrings⟩) _ _
    · exact .inl ⟨rfl, rfl, rfl⟩
    · cases heq
      exact .inr ⟨rfl, hbrings⟩
  region := by
    rintro ⟨tokens, pos⟩ ⟨tokens', pos'⟩ (⟨rfl, rfl, rfl⟩ | ⟨heq, hbrings⟩) _
    · dsimp only
      rw [hsame.closeFrom_eq]
      cases Eval.closeFrom tokens' (pos + 1) 0 with
      | none => exact .none
      | some stop => exact .some (.inl ⟨rfl, rfl, rfl⟩)
    · cases heq
      dsimp only
      cases Eval.closeFrom tokens (pos + 1) 0 with
      | none => exact .none
      | some stop => exact .some (.inr ⟨rfl, hbrings⟩)

namespace Correspondence

variable {tokens tokens' : Array Located} {hsame : SameText tokens tokens'} {brings : Array Located → Prop}

/-- Bodies at places that stand for each other have the same position and, but for their
    places, the same tokens. -/
private theorem withoutSpans_eq {v w : Value} (halike : Value.AlikeBy (reformatting hsame brings).places v w) :
    v.withoutSpans = w.withoutSpans := by
  cases v with
  | function f =>
    obtain ⟨g, rfl, hid, hname, hparams, hplaces⟩ := halike.exists_function
    have hbody : f.body.pos = g.body.pos ∧ f.body.tokens.map (·.token) = g.body.tokens.map (·.token) := by
      rcases hplaces with ⟨hleft, hright, hpos⟩ | ⟨heq, _⟩
      · rw [hleft, hright]
        exact ⟨hpos, hsame⟩
      · rw [heq]
        exact ⟨rfl, rfl⟩
    have htokens := congrArg (Array.map fun token : Token => (⟨token, ⟨0, 0⟩⟩ : Located)) hbody.2
    simp only [Array.map_map] at htokens
    simp only [Value.withoutSpans, Value.function.injEq, Function.mk.injEq, Cursor.mk.injEq]
    exact ⟨hid, hname, hparams, htokens, hbody.1⟩
  | number | string | native | nil => rw [halike.eq_of_ne_function (by simp)]

private theorem sameButSpans {left right : Machine}
    (hmatches : Machine.Matches (reformatting hsame brings).places left right) :
    left.SameButSpans right where
  env name := by
    have hbound := hmatches.env name
    generalize left.env.get? name = found at hbound ⊢
    generalize right.env.get? name = found' at hbound ⊢
    cases hbound with
    | none => rfl
    | some halike => exact congrArg some (withoutSpans_eq halike)
  calls := hmatches.calls
  log := hmatches.log

private theorem endsSame {ending ending' : Except Error Value × Interpreter}
    (hendings : (reformatting hsame brings).Endings ending ending') :
    Interpreter.EndsSame (SameToken tokens tokens' brings) ending ending' := by
  cases hendings with
  | ok hvalues hmachines => exact .ok (withoutSpans_eq hvalues) (sameButSpans hmachines)
  | error herrors hmachines => exact .error herrors.message herrors.span (sameButSpans hmachines)

end Correspondence

namespace Interpreter

/-- Where one buffer is read to an end, a buffer with the same tokens is too. -/
theorem ends_of_sameText {tokens tokens' : Array Located} {machine : Machine} {limits : Limits} {hosts : Hosts}
    (hsame : SameText tokens tokens') {ending : Except Error Value × Interpreter}
    (hends : (onTokens tokens machine limits).Ends hosts ending) :
    ∃ ending', (onTokens tokens' machine limits).Ends hosts ending' ∧
      (Correspondence.reformatting hsame (machine.Brings hosts)).Endings ending ending' := by
  obtain ⟨patience, hrun⟩ := hends
  let k := Correspondence.reformatting hsame (machine.Brings hosts)
  -- no place is barred, so the run under watch is the run
  have hfree : k.watch.Free fun _ => True := by
    refine ⟨fun {moment _ _} _ => ?_, id⟩
    cases moment <;> rfl
  have hwatched : (onTokens tokens machine limits).watched k.watch hosts patience = some ending := by
    rw [← hrun, run_eq_report, ← Eval.Refines.unwatched_eq (Eval.Refines.program hfree)]
    rfl
  exact ends_of_watched (k := k) (.inl ⟨rfl, rfl, rfl⟩) (fun name f hbound => .inr ⟨rfl, .inl ⟨name, f, hbound, rfl⟩⟩)
    (fun host earlier code f hanswer => .inr ⟨rfl, .inr ⟨host, earlier, code, f, hanswer, rfl⟩⟩) hwatched

/-- Reformatting a program does not change what it does. Two sources with the same tokens
    both end or both do not, on any machine, under any limits and with any hosts. Where
    they end, they succeed with the same value or fail with the same words at the same
    token, and what they leave differs in the places of tokens at most. -/
theorem reformatting_is_invisible {first second : String} (hsame : SameText (tokenize first) (tokenize second))
    (machine : Machine) (limits : Limits) (hosts : Hosts) :
    let left := onMachine first machine limits
    let right := onMachine second machine limits
    ((∃ ending, left.Ends hosts ending) ↔ ∃ ending, right.Ends hosts ending) ∧
    ∀ ending ending', left.Ends hosts ending → right.Ends hosts ending' →
      EndsSame (SameToken (tokenize first) (tokenize second) (machine.Brings hosts)) ending ending' := by
  intro left right
  refine ⟨⟨?_, ?_⟩, fun ending ending' hends hends' => ?_⟩
  · rintro ⟨ending, hends⟩
    obtain ⟨ending', hends', _⟩ := ends_of_sameText hsame hends
    exact ⟨ending', hends'⟩
  · rintro ⟨ending', hends'⟩
    obtain ⟨ending, hends, _⟩ := ends_of_sameText hsame.symm hends'
    exact ⟨ending, hends⟩
  · obtain ⟨_, hunique, hendings⟩ := ends_of_sameText hsame hends
    rw [hends'.unique hunique]
    exact Correspondence.endsSame hendings

/-- A program on one line, with as few blanks as it takes. -/
def cramped : String := "fn f(a)(a+'!')set x=call f('hi')"

/-- The same program with room to read it, and other quotes. -/
def roomy : String := "fn f (a) (\n  a + \"!\"\n)\nset x = call f(\"hi\")\n"

/-- The tokens stand elsewhere, and both programs bind the same. -/
theorem reformatting_is_invisible_of_cramped : tokenize cramped ≠ tokenize roomy ∧
    SameText (tokenize cramped) (tokenize roomy) ∧
    ∃ after after', (onMachine cramped {} {}).Ends (fun _ => .echo) (.ok .nil, after) ∧
      (onMachine roomy {} {}).Ends (fun _ => .echo) (.ok .nil, after') ∧
      after.machine.SameButSpans after'.machine := by
  have hsame : SameText (tokenize cramped) (tokenize roomy) := by decide +kernel
  obtain ⟨after, hends⟩ : ∃ after, (onMachine cramped {} {}).Ends (fun _ => .echo) (.ok .nil, after) :=
    ends_of_endsWith none (by decide +kernel)
  obtain ⟨hboth, halike⟩ := reformatting_is_invisible hsame {} {} fun _ => .echo
  obtain ⟨⟨result, after'⟩, hends'⟩ := hboth.1 ⟨_, hends⟩
  cases halike _ _ hends hends' with
  | @ok v w left right hvalues hmachines =>
    obtain rfl : w = .nil := by
      cases w <;> cases hvalues
      rfl
    exact ⟨by decide +kernel, hsame, after, after', hends, hends', hmachines⟩

end Interpreter

end Rewind
