import Rewind.Proofs.RunInvariant
import Rewind.Proofs.Reach

namespace Rewind.Interpreter

/-- The names that a run can bind, as far as they can be read off the buffers that it sees
    and the functions that are bound when it begins. -/
inductive Writes (interpreter : Interpreter) (name : String) : Prop where
  /-- It follows `set`. -/
  | assigned {tokens : Array Located} {p : Nat} {span : Span} (hsees : interpreter.Sees tokens)
    (hkeyword : KeywordAt tokens p .assign) (hname : NameAt tokens (p + 1) name span)
  /-- It follows `fn`. -/
  | defined {tokens : Array Located} {p : Nat} {span : Span} (hsees : interpreter.Sees tokens)
    (hkeyword : KeywordAt tokens p .define) (hname : NameAt tokens (p + 1) name span)
  /-- It is a parameter of a definition. -/
  | param {tokens : Array Located} {p body : Nat} {f : String} {params : List String}
    (hsees : interpreter.Sees tokens) (hheader : HeaderAt tokens p f params body) (hparam : name ∈ params)
  /-- It is a parameter of a function that is bound already. -/
  | held {holder : String} {f : Function} (hbound : interpreter.machine.env.get? holder = some (.function f))
    (hparam : name ∈ f.params)

/-- No binding is missing, and one that is not as it was is that of a name that the run can
    bind. -/
structure OnlyWrites (interpreter : Interpreter) (after : Env) : Prop where
  kept : ∀ name, interpreter.machine.env.contains name → after.contains name
  changed : ∀ name, after.get? name ≠ interpreter.machine.env.get? name → interpreter.Writes name
  read : ∀ name, ¬ interpreter.Writes name → after.get? name = interpreter.machine.env.get? name

/-- The run binds only the names of `Writes`, and its functions are written in the buffers it
    sees. -/
def invariant (interpreter : Interpreter) : RunInvariant where
  buffer := interpreter.Sees
  function f := interpreter.Sees f.body.tokens ∧ ∀ name ∈ f.params, interpreter.Writes name
  name := interpreter.Writes
  origin := interpreter.machine.env
  log _ := True

private theorem charter_closed (interpreter : Interpreter) {hosts : Hosts} (hplain : hosts.Plain) :
    interpreter.invariant.Closed hosts where
  body hfunction := hfunction.1
  param hfunction hmem := hfunction.2 _ hmem
  assigned hsees hkeyword hname := .assigned hsees hkeyword hname
  defined id hsees hheader _ := by
    obtain ⟨span, hname⟩ := hheader.name
    exact ⟨.defined hsees hheader.keyword hname, hsees, fun _ hmem => .param hsees hheader hmem⟩
  answer hanswer := RunInvariant.allows_of_ne_function (hplain _ _ _ _ hanswer)
  push _ _ := trivial

private theorem machine_keeps_charter (interpreter : Interpreter) :
    interpreter.machine.Satisfies interpreter.invariant where
  functions hbound := ⟨.inr ⟨_, _, hbound, rfl⟩, fun _ hmem => .held hbound hmem⟩
  others _ := rfl
  bound := id
  log := trivial

private theorem onlyWrites_of_run {interpreter after : Interpreter} {hosts : Hosts} {patience : Nat}
    {result : Except Error Value} (hplain : hosts.Plain)
    (hrun : interpreter.run hosts patience = some (result, after)) : interpreter.OnlyWrites after.machine.env := by
  have hbuffer : interpreter.invariant.buffer interpreter.tokens := .inl rfl
  have hsatisfies := (run_keeps hbuffer (interpreter.charter_closed hplain) interpreter.machine_keeps_charter hrun).1
  refine ⟨fun name => hsatisfies.bound, fun name hchanged => ?_, fun name => hsatisfies.others⟩
  by_contra hwrites
  exact hchanged (hsatisfies.others hwrites)

/-- A run changes only names that are written in what it sees, whether it succeeds or fails
    and whether it is for the last value or for the bindings: no binding is ever removed, and
    a name that is only read keeps its value. -/
theorem only_written_names_change (interpreter : Interpreter) {hosts : Hosts} (hplain : hosts.Plain) (patience : Nat) :
    (∀ result after, interpreter.run hosts patience = some (result, after) →
      interpreter.OnlyWrites after.machine.env) ∧
    ∀ result after, interpreter.interpret hosts patience = some (result, after) →
      interpreter.OnlyWrites after.machine.env ∧ ∀ env, result = .ok env → interpreter.OnlyWrites env := by
  refine ⟨fun result after hrun => onlyWrites_of_run hplain hrun, fun result after hinterpret => ?_⟩
  obtain ⟨⟨value, stop⟩, hrun, heq⟩ := Option.map_eq_some_iff.1 hinterpret
  cases heq
  have honly := onlyWrites_of_run hplain hrun
  refine ⟨honly, fun env hresult => ?_⟩
  cases value with
  | ok value =>
    cases hresult
    exact honly
  | error error => cases hresult

/-- A machine on which another source has defined a function, which binds a name besides its
    parameter. -/
def lender : Machine :=
  ((Machine.ofConfig {}).define "f" ["a"] ⟨tokenize "fn f(a) (set b = a)", 5⟩).bind "y" (.string "kept")

/-- Calls the function, and then fails. -/
def borrower : Interpreter := onMachine "set x = y call f(x) nowhere" lender {}

private theorem borrower_holds {name : String} {f : Function}
    (hbound : borrower.machine.env.get? name = some (.function f)) :
    f.params = ["a"] ∧ f.body.tokens = tokenize "fn f(a) (set b = a)" := by
  change ((Env.set {} "f" _).set "y" (.string "kept")).get? name = _ at hbound
  rw [Env.get?_set, Env.get?_set] at hbound
  split at hbound
  · cases hbound
  · split at hbound <;> cases hbound
    exact ⟨rfl, rfl⟩

private theorem borrower_sees {tokens : Array Located} (hsees : borrower.Sees tokens) :
    tokens = tokenize "set x = y call f(x) nowhere" ∨ tokens = tokenize "fn f(a) (set b = a)" := by
  rcases hsees with htokens | ⟨name, f, hbound, rfl⟩
  · exact .inl htokens
  · exact .inr (borrower_holds hbound).2

/-- Neither buffer has the name after a keyword that binds it, and the one with a definition
    does not have it at all. -/
private theorem borrower_not_writes : ¬ borrower.Writes "y" := by
  have hassign : ∀ p < (tokenize "set x = y call f(x) nowhere").size,
      KeywordAt (tokenize "set x = y call f(x) nowhere") p .assign →
        (tokenize "set x = y call f(x) nowhere")[p + 1]?.map (·.token.lexeme) ≠ some "y" := by decide +kernel
  have hdefine : ∀ p < (tokenize "set x = y call f(x) nowhere").size,
      ¬ KeywordAt (tokenize "set x = y call f(x) nowhere") p .define := by decide +kernel
  have hnone : ∀ p < (tokenize "fn f(a) (set b = a)").size,
      (tokenize "fn f(a) (set b = a)")[p]?.map (·.token.lexeme) ≠ some "y" := by decide +kernel
  have hdefinition {tokens : Array Located} {p q : Nat} {span : Span} (hsees : borrower.Sees tokens)
      (hkeyword : KeywordAt tokens p .define) (hname : NameAt tokens q "y" span) : False := by
    rcases borrower_sees hsees with rfl | rfl
    · obtain ⟨located, hcurrent, _⟩ := hkeyword.current
      exact hdefine p (Array.getElem?_eq_some_iff.1 hcurrent).1 hkeyword
    · exact hnone q (Array.getElem?_eq_some_iff.1 hname).1 (by rw [hname]; rfl)
  intro hwrites
  cases hwrites with
  | @assigned tokens p span hsees hkeyword hname =>
    have hinside := (Array.getElem?_eq_some_iff.1 hname).1
    rcases borrower_sees hsees with rfl | rfl
    · exact hassign p (Nat.lt_of_succ_lt hinside) hkeyword (by rw [hname]; rfl)
    · exact hnone (p + 1) hinside (by rw [hname]; rfl)
  | defined hsees hkeyword hname => exact hdefinition hsees hkeyword hname
  | param hsees hheader hparam =>
    obtain ⟨stop, hreads, _⟩ := hheader.params
    obtain ⟨pos, span, hname⟩ := hreads.exists_nameAt hparam
    exact hdefinition hsees hheader.keyword hname
  | held hbound hparam =>
    rw [(borrower_holds hbound).1] at hparam
    simp at hparam

/-- The run fails after it has bound a name and, in a call, a parameter and a name of another
    buffer. What it has only read is as it was. -/
theorem only_written_names_change_of_borrower :
    ∃ error after, borrower.run (fun _ => .echo) 0 = some (.error error, after) ∧
      after.machine.env.contains "a" ∧ borrower.Writes "a" ∧ after.machine.env.contains "b" ∧ borrower.Writes "b" ∧
      after.machine.env.get? "y" = borrower.machine.env.get? "y" := by
  have hplain : Hosts.Plain fun _ => .echo := by
    rintro host earlier code value hanswer f rfl
    cases hanswer
  have hfails : (borrower.run (fun _ => .echo) 0).any (fun ending => !ending.1.isOk &&
      ending.2.machine.env.contains "a" && ending.2.machine.env.contains "b") = true := by decide +kernel
  obtain ⟨⟨result, after⟩, hrun, hends⟩ := (Option.any_eq_true _ _).1 hfails
  have honly := (only_written_names_change borrower hplain 0).1 result after hrun
  simp only [Bool.and_eq_true] at hends
  obtain ⟨⟨hfailed, ha⟩, hb⟩ := hends
  have hadded {name : String} (hbefore : borrower.machine.env.get? name = none)
      (hafter : after.machine.env.contains name = true) : borrower.Writes name := by
    apply honly.changed name
    rw [hbefore]
    intro hnone
    rw [Env.contains, hnone] at hafter
    cases hafter
  cases result with
  | ok value => cases hfailed
  | error error =>
    exact ⟨error, after, hrun, ha, hadded (by rfl) ha, hb, hadded (by rfl) hb, honly.read "y" borrower_not_writes⟩

end Rewind.Interpreter
