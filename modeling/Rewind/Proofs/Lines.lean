import Rewind.Proofs.Lexing.Append
import Rewind.Proofs.Parallel.Program
import Rewind.Proofs.Replay

namespace Rewind

/-- The tokens of the list that begins at the cursor, up to the parenthesis that closes
    it, or to the end where none does. There are none where no list begins. -/
def Cursor.listTokens? (cursor : Cursor) : Option (Array Token) :=
  if cursor.isPunct "(" then
    let stop := (Eval.closeFrom cursor.tokens (cursor.pos + 1) 0).getD cursor.tokens.size
    some ((cursor.tokens.extract cursor.pos stop).map (·.token))
  else none

/-- Values that are equal up to the places of their bodies: the same plain value, or functions
    with the same name, the same parameters and the same body. -/
inductive Value.Equivalent : Value → Value → Prop where
  | plain {value : Value} (hplain : ∀ f, value ≠ .function f) : Equivalent value value
  | function {f g : Function} (hname : f.name = g.name) (hparams : f.params = g.params)
    (hbody : f.body.listTokens? = g.body.listTokens?) : Equivalent (.function f) (.function g)

/-- The same names are bound, to equivalent values. -/
def Env.Equivalent (left right : Env) : Prop :=
  ∀ name, Option.Rel Value.Equivalent (left.get? name) (right.get? name)

section Tokens

variable {left right : Array Located} {l r n : Nat}

private theorem getElem?_extract_add (tokens : Array Located) (pos n k : Nat) :
    (tokens.extract pos (pos + n))[k]? = if k < n then tokens[pos + k]? else none := by
  rw [Array.getElem?_extract]
  by_cases hlt : k < min (pos + n) tokens.size - pos
  · rw [if_pos hlt, if_pos (by omega)]
  · rw [if_neg hlt]
    split
    · rw [Array.getElem?_eq_none (by omega)]
    · rfl

private theorem SameTokens.extract (hsame : SameTokens left right l r n) :
    (left.extract l (l + n)).map (·.token) = (right.extract r (r + n)).map (·.token) := by
  apply Array.ext_getElem?
  intro k
  rw [Array.getElem?_map, Array.getElem?_map, getElem?_extract_add, getElem?_extract_add]
  split
  · exact hsame k ‹_›
  · rfl

/-- Where everything that follows is the same, so is all of it. -/
private theorem SameTokens.extract_size (hsame : ∀ n, SameTokens left right l r n) :
    (left.extract l left.size).map (·.token) = (right.extract r right.size).map (·.token) := by
  have hrest (tokens : Array Located) (pos k : Nat) : (tokens.extract pos tokens.size)[k]? = tokens[pos + k]? := by
    rw [Array.getElem?_extract]
    split
    · rfl
    · rw [Array.getElem?_eq_none (by omega)]
  apply Array.ext_getElem?
  intro k
  rw [Array.getElem?_map, Array.getElem?_map, hrest, hrest]
  exact hsame (k + 1) k (Nat.lt_succ_self k)

/-- Tokens that are put together follow each other. -/
private theorem SameTokens.of_append {whole : Array Located}
    (hwhole : whole.map (·.token) = left.map (·.token) ++ right.map (·.token)) :
    SameTokens left whole 0 0 left.size ∧ ∀ n, SameTokens right whole 0 left.size n := by
  constructor
  · intro k hk
    rw [← Array.getElem?_map, ← Array.getElem?_map, hwhole, Array.getElem?_append_left (by simpa using hk)]
  · intro n k _
    rw [← Array.getElem?_map, ← Array.getElem?_map, hwhole, Array.getElem?_append_right (by simp)]
    simp

end Tokens

namespace Cursor

variable {left right : Cursor}

private theorem listTokens?_of_closed {cursor : Cursor} {n : Nat} (hopen : cursor.isPunct "(" = true)
    (hclose : Eval.closeFrom cursor.tokens (cursor.pos + 1) 0 = some (cursor.pos + 1 + n)) :
    cursor.listTokens? = some ((cursor.tokens.extract cursor.pos (cursor.pos + (n + 1))).map (·.token)) := by
  unfold listTokens?
  rw [if_pos hopen, hclose, Option.getD_some, Nat.add_assoc, Nat.add_comm 1 n]

private theorem listTokens?_of_unclosed {cursor : Cursor} (hopen : cursor.isPunct "(" = true)
    (hclose : Eval.closeFrom cursor.tokens (cursor.pos + 1) 0 = none) :
    cursor.listTokens? = some ((cursor.tokens.extract cursor.pos cursor.tokens.size).map (·.token)) := by
  unfold listTokens?
  rw [if_pos hopen, hclose, Option.getD_none]

private theorem exists_opening {cursor : Cursor} (hopen : cursor.isPunct "(" = true) :
    ∃ span, cursor.tokens[cursor.pos]? = some ⟨⟨.punct, "("⟩, span⟩ := by
  obtain ⟨⟨⟨kind, lexeme⟩, span⟩, hcurrent, hpunct⟩ := Eval.isPunct_iff.1 hopen
  obtain ⟨rfl, rfl⟩ : kind = .punct ∧ lexeme = "(" := by simpa [Token.isPunct] using hpunct
  exact ⟨span, hcurrent⟩

/-- The same list has the same tokens, the opening parenthesis included. -/
private theorem listTokens?_eq_of_list {n : Nat} (hopen : left.isPunct "(" = true) (hopen' : right.isPunct "(" = true)
    (hclose : Eval.closeFrom left.tokens (left.pos + 1) 0 = some (left.pos + 1 + n))
    (hsame : SameTokens left.tokens right.tokens (left.pos + 1) (right.pos + 1) n) :
    left.listTokens? = right.listTokens? := by
  have hclose' : Eval.closeFrom right.tokens (right.pos + 1) 0 = some (right.pos + 1 + n) := by
    rw [SameTokens.closeFrom hclose (by rwa [Nat.add_sub_cancel_left]), Nat.add_sub_cancel_left]
  have hboth : SameTokens left.tokens right.tokens left.pos right.pos (n + 1) := by
    obtain ⟨_, hfirst⟩ := exists_opening hopen
    obtain ⟨_, hfirst'⟩ := exists_opening hopen'
    intro k hk
    cases k with
    | zero =>
      rw [Nat.add_zero, Nat.add_zero, hfirst, hfirst']
      rfl
    | succ k =>
      have hnext := hsame k (by omega)
      rwa [Nat.add_assoc, Nat.add_assoc, Nat.add_comm 1 k] at hnext
  rw [listTokens?_of_closed hopen hclose, listTokens?_of_closed hopen' hclose', hboth.extract]

private theorem Alike.listTokens?_eq (halike : left.Alike right) : left.listTokens? = right.listTokens? := by
  cases halike with
  | neither hopen hopen' =>
    unfold listTokens?
    rw [if_neg (by simp [hopen]), if_neg (by simp [hopen'])]
  | list hopen hopen' hclose hsame => exact listTokens?_eq_of_list hopen hopen' hclose hsame
  | whole hsame =>
    have hnext (n : Nat) : SameTokens left.tokens right.tokens (left.pos + 1) (right.pos + 1) n :=
      (hsame (n + 1)).drop 1
    have hopening : left.isPunct "(" = right.isPunct "(" := (Alignment.whole left.tokens right.tokens).opening_eq hsame
    cases hopen : left.isPunct "(" with
    | false =>
      unfold listTokens?
      rw [if_neg (by simp [hopen]), if_neg (by simp [← hopening, hopen])]
    | true =>
      cases hclose : Eval.closeFrom left.tokens (left.pos + 1) 0 with
      | none =>
        rw [listTokens?_of_unclosed hopen hclose,
          listTokens?_of_unclosed (hopening ▸ hopen) (SameTokens.closeFrom_eq_none hnext hclose),
          SameTokens.extract_size hsame]
      | some stop =>
        have hbounds := Eval.closeFrom_bounds hclose
        obtain ⟨n, rfl⟩ : ∃ n, stop = left.pos + 1 + n := ⟨stop - (left.pos + 1), by omega⟩
        exact listTokens?_eq_of_list hopen (hopening ▸ hopen) hclose (hnext n)

end Cursor

private theorem Value.AlikeBy.equivalent {v w : Value} (halike : v.Alike w) : v.Equivalent w := by
  by_cases hplain : ∀ f, v ≠ .function f
  · obtain rfl := halike.eq_of_ne_function hplain
    exact .plain hplain
  · obtain ⟨f, rfl⟩ : ∃ f, v = .function f := by simpa using hplain
    obtain ⟨g, rfl, _, hname, hparams, hbodies⟩ := halike.exists_function
    exact .function hname hparams hbodies.listTokens?_eq

private theorem Machine.AlikeBy.env_equivalent {left right : Machine} (halike : left.Alike right) :
    left.env.Equivalent right.env := by
  intro name
  have hbound := halike.env name
  generalize left.env.get? name = found at hbound ⊢
  generalize right.env.get? name = found' at hbound ⊢
  cases hbound with
  | none => exact .none
  | some hvalues => exact .some hvalues.equivalent

/-- A program whose beginning succeeds goes on behind it like a program of its own. -/
private theorem Eval.program_of_beginning {first second whole : Array Located} (frame : Frame) {start mid : Machine}
    {value : Value} (hwhole : whole.map (·.token) = first.map (·.token) ++ second.map (·.token)) {located : Located}
    (hlocated : second[0]? = some located) (hfresh : located.token.Fresh) (hstart : start.pos = 0)
    (hdone : program { frame with tokens := first } start = .done value mid) :
    ∃ after, mid.Alike after ∧ (∀ n, SameTokens second whole 0 after.pos n) ∧
      program { frame with tokens := whole } start = program { frame with tokens := whole } after := by
  obtain ⟨hfirst, hsecond⟩ := SameTokens.of_append hwhole
  obtain ⟨located', hlocated', htoken⟩ := (hsecond 1).exists_current Nat.one_pos hlocated
  have hseam : ∀ next, whole[first.size]? = some next → next.token.Fresh := by
    intro next hnext
    rw [hlocated'] at hnext
    cases hnext
    exact htoken ▸ hfresh
  let h := Alignment.seam first whole hfirst hseam
  rw [program_apply] at hdone
  have haligned : Aligned h start start := ⟨.refl start, rfl, by rw [hstart]; exact Nat.zero_le _⟩
  obtain ⟨value', after, _, hafter, hend, hsame⟩ := Parallel.programFrom_of_done (h := h) (Parallel.evaluate _)
    (.evaluate _) haligned (.refl .nil) (by dsimp only [h, Alignment.seam]; omega) hdone
  -- the first part ends just where the second one begins
  have hpos : after.pos = first.size := by
    have hpaired : mid.pos = after.pos ∧ mid.pos ≤ first.size := hafter.paired
    have hended : first.size ≤ mid.pos := Array.getElem?_eq_none_iff.1 hend
    omega
  refine ⟨after, hafter.alike, hpos ▸ hsecond, ?_⟩
  rw [program_apply, program_apply]
  refine (hsame _ ?_).trans ?_
  · dsimp only [h, Alignment.seam]
    omega
  · have hcurrent : whole[after.pos]? = some located' := hpos ▸ hlocated'
    exact (programFrom_of_current hcurrent _ _).trans (programFrom_of_current hcurrent _ _).symm

namespace Interpreter

/-- With patience enough, the run ends like this. -/
def Ends (interpreter : Interpreter) (hosts : Hosts) (ending : Except Error Value × Interpreter) : Prop :=
  ∃ patience, interpreter.run hosts patience = some ending

/-- Two runs have both succeeded, with equivalent values, or both failed, and have left
    equivalent bindings. -/
inductive EndsAlike : Except Error Value × Interpreter → Except Error Value × Interpreter → Prop where
  | ok {v w : Value} {left right : Interpreter} (hvalues : v.Equivalent w)
    (henvs : left.machine.env.Equivalent right.machine.env) : EndsAlike (.ok v, left) (.ok w, right)
  | error {error error' : Error} {left right : Interpreter}
    (henvs : left.machine.env.Equivalent right.machine.env) : EndsAlike (.error error, left) (.error error', right)

section Patience

variable {interpreter other : Interpreter} {hosts : Hosts} {ending ending' : Except Error Value × Interpreter}

private theorem run_of_le {patience more : Nat} (hrun : interpreter.run hosts patience = some ending)
    (hle : patience ≤ more) :
    interpreter.run hosts more = some ending := by
  have hhosts : hosts.AnswerAlike ending.2.machine.calls.toList 0 hosts := fun _ _ => ⟨rfl, rfl⟩
  exact (run_replay hhosts hle (Nat.zero_le _) hrun).2 List.prefix_rfl

theorem Ends.unique (hends : interpreter.Ends hosts ending) (hends' : interpreter.Ends hosts ending') :
    ending = ending' := by
  obtain ⟨patience, hrun⟩ := hends
  obtain ⟨patience', hrun'⟩ := hends'
  have hboth := run_of_le hrun (Nat.le_max_left patience patience')
  rw [run_of_le hrun' (Nat.le_max_right patience patience')] at hboth
  exact (Option.some.inj hboth).symm

/-- Runs that correspond for any patience that is enough have endings that correspond. -/
private theorem ends_of_rel {R : Except Error Value × Interpreter → Except Error Value × Interpreter → Prop}
    {enough : Nat}
    (hrel : ∀ patience, enough ≤ patience → Option.Rel R (interpreter.run hosts patience) (other.run hosts patience)) :
    (∀ {ending}, interpreter.Ends hosts ending → ∃ ending', other.Ends hosts ending' ∧ R ending ending') ∧
    ∀ {ending'}, other.Ends hosts ending' → ∃ ending, interpreter.Ends hosts ending ∧ R ending ending' := by
  constructor
  · rintro ending ⟨patience, hrun⟩
    have hboth := hrel _ (Nat.le_max_left enough patience)
    rw [run_of_le hrun (Nat.le_max_right enough patience)] at hboth
    generalize hother : other.run hosts (max enough patience) = found at hboth
    cases hboth with
    | some hendings => exact ⟨_, ⟨_, hother⟩, hendings⟩
  · rintro ending' ⟨patience, hrun⟩
    have hboth := hrel _ (Nat.le_max_left enough patience)
    rw [run_of_le hrun (Nat.le_max_right enough patience)] at hboth
    generalize hother : interpreter.run hosts (max enough patience) = found at hboth
    cases hboth with
    | some hendings => exact ⟨_, ⟨_, hother⟩, hendings⟩

end Patience

/-- Outcomes that stand for each other are reported as endings that are alike. -/
private theorem rel_report {left right : Interpreter} {outcome outcome' : Outcome Value}
    (hmatched : Outcome.Matched False Value.Alike Machine.Alike outcome outcome') :
    Option.Rel EndsAlike (left.report outcome) (right.report outcome') := by
  cases hmatched with
  | done hvalues hmachines => exact .some (.ok hvalues.equivalent hmachines.env_equivalent)
  | failed hmachines => exact .some (.error hmachines.env_equivalent)
  | unfinished => exact .none
  | lost hway _ => exact hway.elim

section Lines

variable {first second : String} {machine : Machine} {limits : Limits} {hosts : Hosts} {value : Value}
  {mid : Interpreter} {located : Located}

private theorem run_second_line (hclosed : ¬ Unterminated first) (hlocated : (tokenize second)[0]? = some located)
    (hfresh : located.token.Fresh) {patience : Nat}
    (hrun : (onMachine first machine limits).run hosts patience = some (.ok value, mid)) :
    Option.Rel EndsAlike ((onMachine second mid.machine limits).run hosts patience)
      ((onMachine (first ++ "\n" ++ second) machine limits).run hosts patience) := by
  rw [run_eq_report, run_eq_report]
  rw [run_eq_report] at hrun
  cases hdone : Eval.program ((onMachine first machine limits).frame hosts patience)
      (onMachine first machine limits).machine with
  | failed error stop => rw [hdone] at hrun; cases hrun
  | unfinished => rw [hdone] at hrun; cases hrun
  | done v stop =>
    rw [hdone] at hrun
    cases hrun
    let frame := (onMachine first machine limits).frame hosts patience
    obtain ⟨after, halike, hsame, hwhole⟩ :=
      Eval.program_of_beginning frame (tokenize_lines hclosed) hlocated hfresh rfl hdone
    have hparallel := Eval.Parallel.program (h := .whole (tokenize second) (tokenize (first ++ "\n" ++ second))) id
      frame (onMachine second stop limits).machine after ⟨⟨halike.env, halike.made, halike.calls⟩, hsame⟩
    have hmatched : Outcome.Matched False Value.Alike Machine.Alike
        (Eval.program { frame with tokens := tokenize second } (onMachine second stop limits).machine)
        (Eval.program { frame with tokens := tokenize (first ++ "\n" ++ second) } after) :=
      hparallel.mono Eval.Aligned.alike
    rw [← hwhole] at hmatched
    exact rel_report hmatched

/-- Splitting a program over lines is invisible. Where the first line succeeds, the
    second one, run on what the first has left, succeeds or fails just as both of them
    do as one source, and the endings are alike. The first line must not leave a string open,
    and the second one must not begin with a token that could continue the first. -/
theorem splitting_into_lines_is_invisible (hclosed : ¬ Unterminated first)
    (hlocated : (tokenize second)[0]? = some located) (hfresh : located.token.Fresh)
    (hfirst : (onMachine first machine limits).Ends hosts (.ok value, mid)) :
    let rest := onMachine second mid.machine limits
    let whole := onMachine (first ++ "\n" ++ second) machine limits
    ((∃ v after, rest.Ends hosts (.ok v, after)) ↔ ∃ v after, whole.Ends hosts (.ok v, after)) ∧
    ((∃ error after, rest.Ends hosts (.error error, after)) ↔ ∃ error after, whole.Ends hosts (.error error, after)) ∧
    ∀ ending ending', rest.Ends hosts ending → whole.Ends hosts ending' → EndsAlike ending ending' := by
  intro rest whole
  obtain ⟨enough, hrun⟩ := hfirst
  obtain ⟨hforth, hback⟩ := ends_of_rel fun patience hle =>
    run_second_line hclosed hlocated hfresh (run_of_le hrun hle)
  refine ⟨⟨?_, ?_⟩, ⟨?_, ?_⟩, ?_⟩
  · rintro ⟨v, after, hends⟩
    obtain ⟨_, hends', halike⟩ := hforth hends
    cases halike
    exact ⟨_, _, hends'⟩
  · rintro ⟨v, after, hends⟩
    obtain ⟨_, hends', halike⟩ := hback hends
    cases halike
    exact ⟨_, _, hends'⟩
  · rintro ⟨error, after, hends⟩
    obtain ⟨_, hends', halike⟩ := hforth hends
    cases halike
    exact ⟨_, _, hends'⟩
  · rintro ⟨error, after, hends⟩
    obtain ⟨_, hends', halike⟩ := hback hends
    cases halike
    exact ⟨_, _, hends'⟩
  · intro ending ending' hends hends'
    obtain ⟨_, hunique, halike⟩ := hforth hends
    exact hends'.unique hunique ▸ halike

end Lines

/-- Whether a run succeeds with this text, or with no value where there is none. -/
def endsWith (interpreter : Interpreter) (hosts : Hosts) (text : Option String) : Bool :=
  match interpreter.run hosts 0 with
  | some (.ok .nil, _) => text.isNone
  | some (.ok (.string result), _) => text == some result
  | _ => false

theorem ends_of_endsWith {interpreter : Interpreter} {hosts : Hosts} (text : Option String)
    (hends : interpreter.endsWith hosts text = true) :
    ∃ after, interpreter.Ends hosts (.ok (text.elim .nil .string), after) := by
  unfold endsWith at hends
  split at hends
  · rename_i after hrun
    obtain rfl := Option.isNone_iff_eq_none.1 hends
    exact ⟨after, 0, hrun⟩
  · rename_i result after hrun
    obtain rfl : text = some result := eq_of_beq hends
    exact ⟨after, 0, hrun⟩
  · cases hends

/-- Defines a function, and ends where an operator might follow. -/
def greeting : String := "fn f(a) (a + '!') set x = 'hi'"

/-- The second line calls the function of the first one. -/
theorem splitting_into_lines_is_invisible_of_greeting :
    ¬ Unterminated greeting ∧ ∃ mid, (onMachine greeting {} {}).Ends (fun _ => .echo) (.ok .nil, mid) ∧
      ∃ after after', (onMachine "call f(x)" mid.machine {}).Ends (fun _ => .echo) (.ok (.string "hi!"), after) ∧
        (onMachine (greeting ++ "\n" ++ "call f(x)") {} {}).Ends (fun _ => .echo) (.ok (.string "hi!"), after') ∧
        after.machine.env.Equivalent after'.machine.env := by
  have hclosed : ¬ Unterminated greeting := by decide +kernel
  have hlocated : (tokenize "call f(x)")[0]? = some ⟨⟨.name, "call"⟩, ⟨0, 4⟩⟩ := by decide +kernel
  have hfresh : (Token.mk .name "call").Fresh := ⟨by decide, by decide, by decide⟩
  obtain ⟨mid, hfirst⟩ : ∃ mid, (onMachine greeting {} {}).Ends (fun _ => .echo) (.ok .nil, mid) :=
    ends_of_endsWith none (by decide +kernel)
  obtain ⟨after', hwhole⟩ : ∃ after', (onMachine (greeting ++ "\n" ++ "call f(x)") {} {}).Ends (fun _ => .echo)
      (.ok (.string "hi!"), after') := ends_of_endsWith (some "hi!") (by decide +kernel)
  obtain ⟨hok, _, halike⟩ := splitting_into_lines_is_invisible hclosed hlocated hfresh hfirst
  obtain ⟨v, after, hrest⟩ := hok.2 ⟨_, after', hwhole⟩
  cases halike _ _ hrest hwhole with
  | ok hvalues henvs =>
    cases hvalues
    exact ⟨hclosed, mid, hfirst, after, after', hrest, hwhole, henvs⟩

end Interpreter

end Rewind
