import Rewind.Proofs.Agreement.EndPosition
import Rewind.Proofs.Balance.Matching
import Rewind.Proofs.Control.Invariant
import Rewind.Proofs.Tree.Reading

namespace Rewind

namespace Machine

variable {machine : Machine} {params : List String} {arguments : List Value} {name : String}

theorem get?_bind (machine : Machine) (name other : String) (value : Value) :
    (machine.bind name value).env.get? other = if other = name then some value else machine.env.get? other :=
  Env.get?_set machine.env name other value

private theorem get?_bindAll_of_not_mem (hnot : name ∉ params) :
    (machine.bindAll params arguments).env.get? name = machine.env.get? name := by
  induction params generalizing machine arguments with
  | nil => rfl
  | cons param params ih =>
    obtain ⟨hne, hnot⟩ := not_or.1 (mt List.mem_cons.2 hnot)
    rw [bindAll_cons, ih hnot, get?_bind, if_neg hne]

/-- Of parameters with the same name, the last one counts. -/
private theorem get?_bindAll_of_last {j : Nat} (hparam : params[j]? = some name)
    (hlast : ∀ i, j < i → params[i]? ≠ some name) :
    (machine.bindAll params arguments).env.get? name = some (arguments[j]?.getD .nil) := by
  induction params generalizing machine arguments j with
  | nil => cases hparam
  | cons param params ih =>
    rw [bindAll_cons]
    cases j with
    | zero =>
      cases hparam
      have hnot : name ∉ params := by
        intro hmem
        obtain ⟨i, hi⟩ := List.mem_iff_getElem?.1 hmem
        exact hlast (i + 1) (Nat.succ_pos i) hi
      rw [get?_bindAll_of_not_mem hnot, get?_bind, if_pos rfl, List.head?_eq_getElem?]
    | succ j =>
      rw [ih hparam fun i hlt => hlast (i + 1) (Nat.succ_lt_succ hlt), List.getElem?_tail]

/-- Arguments without a parameter are not looked at. -/
private theorem bindAll_take (machine : Machine) (params : List String) (arguments : List Value) :
    machine.bindAll params (arguments.take params.length) = machine.bindAll params arguments := by
  induction params generalizing machine arguments with
  | nil => rfl
  | cons param params ih =>
    cases arguments with
    | nil => rfl
    | cons value arguments => exact ih (machine.bind param value) arguments

/-- The bindings that are made do not depend on the rest of the machine. -/
private theorem bindAll_env_eq {other : Machine} (henv : machine.env = other.env) :
    (machine.bindAll params arguments).env = (other.bindAll params arguments).env := by
  induction params generalizing machine other arguments with
  | nil => exact henv
  | cons param params ih =>
    rw [bindAll_cons, bindAll_cons]
    apply ih
    unfold bind
    rw [henv]

end Machine

/-- A call of the function `f` by a name at `span`. The name is bound to `f` when the call
    begins. With `budget` levels of nesting left its list evaluates to `arguments`, which
    leaves the machine `ready` and may have bound the name to something else. -/
structure CallSite (budget : Nat) (frame : Frame) (start : Machine) (f : Function) (span : Span)
    (arguments : Array Value) (ready : Machine) : Prop where
  keyword : KeywordAt frame.tokens start.pos .call
  callee : ∃ name, NameAt frame.tokens (start.pos + 1) name span ∧ start.env.get? name = some (.function f)
  evaluated : Eval.list (Eval.evaluate budget) frame { start with pos := start.pos + 2 } = .done arguments ready

/-- The machine `entry` stands at the body of `f`, over the bindings of `ready` with the
    parameters bound to arguments. Of equal parameters the last one counts, and one without
    an argument is nil. -/
structure Machine.Receives (ready : Machine) (f : Function) (arguments : Array Value) (entry : Machine) : Prop where
  pos : entry.pos = f.body.pos
  bound : ∀ (name : String) (j : Nat), f.params[j]? = some name → (∀ i, j < i → f.params[i]? ≠ some name) →
    entry.env.get? name = some (arguments[j]?.getD .nil)
  kept : ∀ name, name ∉ f.params → entry.env.get? name = ready.env.get? name
  /-- Arguments without a parameter might as well have been left out by now. -/
  surplus : entry.env = (ready.bindAll f.params (arguments.toList.take f.params.length)).env
  made : entry.made = ready.made
  calls : entry.calls = ready.calls

/-- A computation on registers ends at a place, whether it succeeds or not. -/
def Ending.ReturnsTo {α : Type} (place : Cursor) : Ending α → Prop
  | done _ after => ⟨after.tokens, after.machine.pos⟩ = place
  | failed _ after => ⟨after.tokens, after.machine.pos⟩ = place
  | unfinished => True
  | broken => False

namespace Outcome

variable {α β : Type}

private theorem after?_map (outcome : Outcome α) (f : α → β) : (outcome.map f).after? = outcome.after? := by
  cases outcome <;> rfl

private theorem pos_of_rewound {outcome : Outcome α} {pos : Nat} {after : Machine}
    (hafter : (outcome.rewound pos).after? = some after) : after.pos = pos := by
  cases outcome <;> cases hafter <;> rfl

end Outcome

/-- The machine of a call at the start of its body. -/
def Machine.calling (ready : Machine) (f : Function) (arguments : Array Value) (depth : Nat) : Machine :=
  ((ready.record (.called f arguments.size)).bindAll f.params arguments.toList).entering f.body depth

theorem Machine.receives_calling (ready : Machine) (f : Function) (arguments : Array Value) (depth : Nat) :
    ready.Receives f arguments (ready.calling f arguments depth) := by
  obtain ⟨env, log, hbound⟩ :=
    (ready.record (.called f arguments.size)).exists_bindAll_eq f.params arguments.toList
  constructor
  case pos => rfl
  case bound =>
    intro name j hparam hlast
    rw [← Array.getElem?_toList]
    exact get?_bindAll_of_last hparam hlast
  case kept => exact fun name hnot => get?_bindAll_of_not_mem hnot
  case surplus =>
    rw [bindAll_take]
    exact bindAll_env_eq rfl
  case made =>
    unfold calling
    rw [hbound]
    rfl
  case calls =>
    unfold calling
    rw [hbound]
    rfl

namespace CallSite

variable {budget : Nat} {frame : Frame} {start ready : Machine} {f : Function} {span : Span} {arguments : Array Value}

/-- A call is the invocation of the function that the name was bound to at first. -/
private theorem call_eq_invoke (hsite : CallSite budget frame start f span arguments ready) :
    Eval.call (Eval.evaluate budget) frame start =
      Eval.invoke (Eval.evaluate budget) f arguments span frame ready := by
  obtain ⟨located, hcurrent, _⟩ := hsite.keyword.current
  obtain ⟨name, hname, hbound⟩ := hsite.callee
  have hexpected : Eval.expectName frame { start with pos := start.pos + 1 } =
      .done (name, span) { start with pos := start.pos + 2 } := by
    rw [Eval.expectName_apply, hname]
    rfl
  have hlookup : Eval.lookup name span frame { start with pos := start.pos + 2 } =
      .done (.function f) { start with pos := start.pos + 2 } := by
    unfold Eval.lookup
    rw [hbound]
  unfold Eval.call
  rw [Eval.bind_of_done (Eval.advance_of_current hcurrent), Eval.bind_of_done hexpected]
  dsimp only
  rw [Eval.bind_of_done hlookup]
  exact Eval.bind_of_done hsite.evaluated

/-- Where a call is allowed, it evaluates the body over the bound parameters and comes back
    to the end of the arguments. -/
theorem call_eq_body (hsite : CallSite budget frame start f span arguments ready)
    (hdepth : frame.depth < frame.limits.calls) :
    Eval.call (Eval.evaluate budget) frame start =
      ((Eval.list (Eval.evaluate budget) (frame.entering f.body)
        (ready.calling f arguments frame.depth)).rewound ready.pos).map fun values => values.back?.getD .nil := by
  rw [hsite.call_eq_invoke, Eval.invoke_apply, if_neg (Nat.not_le.2 hdepth)]
  rfl

private theorem call_eq_refused (hsite : CallSite budget frame start f span arguments ready)
    (hdepth : frame.limits.calls ≤ frame.depth) :
    Eval.call (Eval.evaluate budget) frame start =
      .failed (.atSpan span (.callDepth frame.limits.calls)) ready := by
  rw [hsite.call_eq_invoke, Eval.invoke_apply, if_pos hdepth]

/-- However a call ends, it ends right behind its arguments. -/
private theorem pos_of_call (hsite : CallSite budget frame start f span arguments ready) {after : Machine}
    (hafter : (Eval.call (Eval.evaluate budget) frame start).after? = some after) : after.pos = ready.pos := by
  by_cases hdepth : frame.limits.calls ≤ frame.depth
  · rw [hsite.call_eq_refused hdepth] at hafter
    cases hafter
    rfl
  · rw [hsite.call_eq_body (Nat.lt_of_not_le hdepth), Outcome.after?_map] at hafter
    exact Outcome.pos_of_rewound hafter

/-- The arguments end at the parenthesis that closes their list. -/
private theorem firstEven_arguments (hsite : CallSite budget frame start f span arguments ready) :
    FirstEven frame.tokens (start.pos + 2) ready.pos := by
  have hagrees := Eval.Agrees.list (.evaluate budget) (.skipExpression budget)
  obtain ⟨_, after, hskipped, hpos, _⟩ := hagrees rfl rfl hsite.evaluated
  obtain ⟨_, q, hfirst, rfl⟩ := Eval.skipList_eq_done_iff.1 hskipped
  obtain rfl : q = ready.pos := hpos
  exact hfirst

/-- An evaluator that swaps buffers by hand is back in the caller's buffer, right behind
    the arguments. -/
private theorem returnsTo (hsite : CallSite budget frame start f span arguments ready) {settings : Settings}
    {stack : Nat}
    {registers : Registers} (hstack : settings.nesting.toNat < stack) (horder : registers.InOrder settings)
    (hready : registers.Ready settings) (hinside : registers.depth < registers.nesting)
    (hframe : registers.frame settings = frame) (hmachine : registers.machine = start)
    (hbudget : settings.nesting.toNat - registers.nesting.toNat = budget) :
    (Routine.call.onRegisters stack settings registers).ReturnsTo ⟨frame.tokens, ready.pos⟩ := by
  subst hframe hmachine hbudget
  have hpos := @pos_of_call _ _ _ _ _ _ _ hsite
  have hbegins : Routine.call.Begins settings registers := hinside
  rw [Routine.onRegisters_eq hstack horder hready hbegins]
  unfold Control.quietly
  change ∀ {after}, (Routine.call.eval (Control.Follows.budgetAt settings registers.nesting)
    (registers.frame settings) registers.machine).after? = some after → after.pos = ready.pos at hpos
  generalize Routine.call.eval _ _ _ = outcome at hpos ⊢
  cases outcome with
  | done value after => exact congrArg (Cursor.mk registers.tokens) (hpos rfl)
  | failed error after => exact congrArg (Cursor.mk registers.tokens) (hpos rfl)
  | unfinished => trivial

end CallSite

/-- Calling a function binds and returns as it should. The function is the one that the name
    was bound to before the arguments were evaluated. If one call more is too many, all that
    has happened is that the arguments were evaluated. Otherwise the body is evaluated from
    its own place, over the bindings that the arguments have left, with nothing changed but
    the parameters. However it ends, the caller goes on right behind the list of arguments,
    and so does one that has to find back to its own buffer. -/
theorem call_binds_and_returns {budget : Nat} {frame : Frame} {start ready : Machine} {f : Function} {span : Span}
    {arguments : Array Value} (hsite : CallSite budget frame start f span arguments ready) :
    (frame.limits.calls ≤ frame.depth →
      Eval.call (Eval.evaluate budget) frame start =
        .failed (.atSpan span (.callDepth frame.limits.calls)) ready) ∧
    (frame.depth < frame.limits.calls →
      ∃ entry, ready.Receives f arguments entry ∧
        Eval.call (Eval.evaluate budget) frame start =
          ((Eval.list (Eval.evaluate budget) (frame.entering f.body) entry).rewound ready.pos).map
            fun values => values.back?.getD .nil) ∧
    FirstEven frame.tokens (start.pos + 2) ready.pos ∧
    (∀ after, (Eval.call (Eval.evaluate budget) frame start).after? = some after → after.pos = ready.pos) ∧
    (∀ (settings : Settings) (stack : Nat) (registers : Registers), settings.nesting.toNat < stack →
      registers.InOrder settings → registers.Ready settings → registers.depth < registers.nesting →
      registers.frame settings = frame → registers.machine = start →
      settings.nesting.toNat - registers.nesting.toNat = budget →
      (Routine.call.onRegisters stack settings registers).ReturnsTo ⟨frame.tokens, ready.pos⟩) := by
  refine ⟨hsite.call_eq_refused, fun hdepth => ?_, hsite.firstEven_arguments, fun after => hsite.pos_of_call, ?_⟩
  · exact ⟨_, ready.receives_calling f arguments frame.depth, hsite.call_eq_body hdepth⟩
  · intro settings stack registers hstack horder hready hinside hframe hmachine hbudget
    exact hsite.returnsTo hstack horder hready hinside hframe hmachine hbudget

/-- A function from another source, with a parameter that comes twice. -/
def repeating : Function where
  id := .given 0
  name := "f"
  params := ["a", "b", "a", "c"]
  body := ⟨tokenize "fn f(a, b, a, c) (a + b)", 11⟩

/-- The machine that has only this function bound. -/
def knowing : Machine := (Machine.ofConfig {}).bind "f" (.function repeating)

/-- A call with an argument too few, the first of which binds the name of the function anew. -/
def rebinding : Frame where
  tokens := tokenize "call f(set f = 'z', 'x', 'y') f"
  limits := ⟨1, 3⟩
  hosts _ := .echo
  depth := 0
  patience := 0

theorem call_binds_and_returns_of_rebinding :
    ∃ arguments ready entry value after,
      CallSite 2 rebinding knowing repeating ⟨5, 6⟩ arguments ready ∧
      (ready.env.get? "f").map Value.callable = some false ∧
      ready.Receives repeating arguments entry ∧ entry.env.get? "a" = some (arguments[2]?.getD .nil) ∧
      entry.env.get? "c" = some .nil ∧ entry.env.get? "f" = ready.env.get? "f" ∧
      Eval.call (Eval.evaluate 2) rebinding knowing = .done value after ∧
      value.text = "yx" ∧ after.pos = 12 := by
  obtain ⟨hkeyword, hname, hlist, hends⟩ :
      KeywordAt rebinding.tokens 0 .call ∧ NameAt rebinding.tokens 1 "f" ⟨5, 6⟩ ∧
      (match Eval.list (Eval.evaluate 2) rebinding { knowing with pos := knowing.pos + 2 } with
        | .done arguments ready => decide (arguments.size = 3 ∧ ready.pos = 12 ∧
            (ready.env.get? "f").map Value.callable = some false)
        | _ => false) = true ∧
      (match Eval.call (Eval.evaluate 2) rebinding knowing with
        | .done value _ => decide (value.text = "yx")
        | _ => false) = true := by decide +kernel
  split at hlist
  · rename_i arguments ready hevaluated
    obtain ⟨hsize, hready, hrebound⟩ := of_decide_eq_true hlist
    have hsite : CallSite 2 rebinding knowing repeating ⟨5, 6⟩ arguments ready :=
      ⟨hkeyword, ⟨"f", hname, rfl⟩, hevaluated⟩
    obtain ⟨_, hbody, _, hreturns, _⟩ := call_binds_and_returns hsite
    obtain ⟨entry, hreceives, _⟩ := hbody (by decide)
    split at hends
    · rename_i value after hcalled
      have hafter := hreturns after (by rw [hcalled]; rfl)
      have ha := hreceives.bound "a" 2 rfl (by rintro (_ | _ | _ | _ | i) hlt <;> simp_all [repeating])
      have hc := hreceives.bound "c" 3 rfl (by rintro (_ | _ | _ | _ | i) hlt <;> simp_all [repeating])
      rw [Array.getElem?_eq_none (by omega)] at hc
      exact ⟨arguments, ready, entry, value, after, hsite, hrebound, hreceives, ha, hc, hreceives.kept "f" (by decide),
        hcalled, of_decide_eq_true hends, hafter.trans hready⟩
    · cases hends
  · cases hlist

end Rewind
