import Rewind.Interpreter
import Rewind.Proofs.Limits.CutOff

namespace Rewind

/-- What is left of two limits on nesting stands for the same level. -/
def SameLevel (limits other : Limits) (budget budget' : Nat) : Prop :=
  ∃ level, limits.nesting = level + budget ∧ other.nesting = level + budget'

namespace Eval

namespace CutOff

variable {limits other : Limits} {budget budget' : Nat}

/-- A level that both limits allow. -/
private theorem noteNesting (hlevel : SameLevel limits other budget budget') :
    CutOff limits other anyResult (noteNesting budget) (noteNesting budget') := by
  obtain ⟨level, hlimits, hother⟩ := hlevel
  intro frame patience start hframe _
  have hlevel : frame.limits.nesting - budget = level := by rw [hframe]; omega
  have hlevel' : (frame.under other patience).limits.nesting - budget' = level := by
    show other.nesting - budget' = level
    omega
  simp only [Eval.noteNesting, hlevel, hlevel']
  refine ⟨(), trivial, ⟨Nat.le_refl _, Nat.le_max_left _ _⟩, fun _ => rfl, fun hstart hafter => ?_⟩
  exact absurd ⟨hstart.1, Nat.max_le.2 ⟨hstart.2, by omega⟩⟩ hafter

/-- Where the level is not even left for `x`, nothing is compared. -/
private theorem shut {α β : Type} {V : α → β → Prop} {rest : Located → Eval β} :
    CutOff limits other V (do tooNested (← firstToken)) (do rest (← firstToken)) := by
  intro frame patience start _ _
  have hsame : firstToken (frame.under other patience) start = firstToken frame start := by
    rw [firstToken_apply, firstToken_apply]
    rfl
  rw [bind_apply, bind_apply, hsame, firstToken_apply]
  cases frame.tokens[start.pos]? with
  | none => exact .inr ⟨.refl _, fun _ => rfl, fun hstart hafter => absurd hstart hafter⟩
  | some located => exact .inl ⟨_, .inr rfl⟩

/-- A level that `other` does not allow exceeds its limit in the peak of nesting. -/
private theorem refused {α : Type} {V W : α → α → Prop} (hV : ∀ a, V a a) {level : Nat}
    (hlimits : limits.nesting = level + 1 + budget) (hother : other.nesting = level)
    {rest : Located → Eval α} (hrest : ∀ located, CutOff limits limits W (rest located) (rest located)) :
    CutOff limits other V (do let located ← firstToken; Eval.noteNesting budget; rest located)
      (do tooNested (← firstToken)) := by
  intro frame patience start hframe hpatience
  have hsame : firstToken (frame.under other patience) start = firstToken frame start := by
    rw [firstToken_apply, firstToken_apply]
    rfl
  rw [bind_apply, bind_apply, hsame, firstToken_apply]
  cases frame.tokens[start.pos]? with
  | none => exact .inr ⟨.refl _, fun _ => rfl, fun hstart hafter => absurd hstart hafter⟩
  | some located =>
    dsimp only
    rw [bind_of_done (show Eval.noteNesting budget frame start = .done () _ from rfl)]
    have hlevel : frame.limits.nesting - budget = level + 1 := by rw [hframe]; omega
    rw [hlevel]
    have hgrows := hrest located frame frame.patience
      { start with deepestNesting := max start.deepestNesting (level + 1) } hframe (Nat.le_refl _)
    have hcut {after : Machine} {same : Outcome α}
        (hbelow : Machine.Below { start with deepestNesting := max start.deepestNesting (level + 1) } after) :
        CutAt other start after same (.failed (.atSpan located.span (.nestingDepth other.nesting)) start) := by
      have hpeak : max start.deepestNesting (level + 1) ≤ after.deepestNesting := hbelow.nesting
      refine ⟨⟨hbelow.calls, by omega⟩, fun hwithin => ?_, fun _ _ => ⟨_, _, rfl, .inr rfl⟩⟩
      have := hwithin.2
      omega
    cases hdone : rest located frame { start with deepestNesting := max start.deepestNesting (level + 1) } with
    | done a after =>
      rw [hdone] at hgrows
      obtain ⟨_, _, hself⟩ := hgrows
      exact ⟨a, hV a, hcut hself.grows⟩
    | failed error after =>
      rw [hdone] at hgrows
      exact hgrows.imp_right fun hself => hcut hself.grows
    | unfinished => trivial

/-- The recursion over levels. `walk` is one that asks for a level at each step,
    and `rest` is what it does inside. -/
private theorem descend {α : Type} {V : α → α → Prop} (hV : ∀ a, V a a) {walk : Nat → Eval α}
    {rest : Nat → Located → Eval α} (hzero : walk 0 = do tooNested (← firstToken))
    (hsucc : ∀ budget, walk (budget + 1) =
      do let located ← firstToken; Eval.noteNesting budget; rest budget located)
    (hrest : ∀ {other budget budget'}, SameLevel limits other budget budget' →
      CutOff limits other V (walk budget) (walk budget') →
        ∀ located, CutOff limits other V (rest budget located) (rest budget' located))
    (hlevel : SameLevel limits other budget budget') :
    CutOff limits other V (walk budget) (walk budget') := by
  induction budget generalizing budget' other with
  | zero =>
    rw [hzero]
    cases budget' with
    | zero => rw [hzero]; exact shut
    | succ budget' => rw [hsucc]; exact shut
  | succ budget ih =>
    obtain ⟨level, hlimits, hother⟩ := hlevel
    rw [hsucc]
    cases budget' with
    | zero =>
      have hself : SameLevel limits limits budget budget := ⟨level + 1, by omega, by omega⟩
      rw [hzero]
      exact refused hV (by omega) hother (hrest hself (ih hself))
    | succ budget' =>
      have hinside : SameLevel limits other budget budget' := ⟨level + 1, by omega, by omega⟩
      rw [hsucc]
      refine walks.bind walks.firstToken fun located located' halike => ?_
      obtain rfl := Likeness.same_located halike
      exact walks.bind (noteNesting hinside) fun _ _ _ => hrest hinside (ih hinside) located

private theorem skipExpression (hlevel : SameLevel limits other budget budget') :
    CutOff limits other anyResult (skipExpression budget) (skipExpression budget') := by
  refine walks.expression (descend (fun _ => trivial) rfl (fun _ => rfl) ?_ hlevel) fun _ _ _ => walks.pure trivial
  intro other budget budget' _ hwalk located
  exact walks.skipForm (walks.expression hwalk fun _ _ _ => walks.pure trivial) ⟨rfl, rfl⟩

private theorem evaluate (hlevel : SameLevel limits other budget budget') :
    CutOff limits other Eq (evaluate budget) (evaluate budget') := by
  have hcombine {other : Limits} {op op' : Located} {l l' r r' : Value}
      (hop : Located.Alike Likeness.same.spans op op') (hl : l = l') (hr : r = r') :
      CutOff limits other Eq (ofExcept (combine op l r)) (ofExcept (combine op' l' r')) :=
    Likeness.same_located hop ▸ hl ▸ hr ▸ of_unlimited (ofExcept_unlimited _)
  refine walks.expression (descend (fun _ => rfl) rfl (fun _ => rfl) ?_ hlevel) hcombine
  intro other budget budget' hlevel hwalk located
  exact (forms (walks.expression hwalk hcombine) (skipExpression hlevel)).form ⟨rfl, rfl⟩

/-- A whole program, from the outermost level on. -/
private theorem program : CutOff limits other Eq program program := by
  have hlevel : SameLevel limits other limits.nesting other.nesting := ⟨0, by omega, by omega⟩
  intro frame patience start hframe hpatience
  have hforms := (forms (evaluate hlevel) (skipExpression hlevel)).programFrom (frame.tokens.size + 1)
    (rfl : Value.nil = Value.nil) frame patience start hframe hpatience
  rw [← hframe] at hforms
  exact hforms

end CutOff

end Eval

namespace Interpreter

/-- The frame that a run begins with. -/
def frame (interpreter : Interpreter) (hosts : Hosts) (patience : Nat) : Frame :=
  { tokens := interpreter.tokens, limits := interpreter.limits, hosts, depth := 0, patience }

/-- What is reported of the outcome of a run. -/
def report (interpreter : Interpreter) : Outcome Value → Option (Except Error Value × Interpreter)
  | .done value machine => some (.ok value, { interpreter with machine })
  | .failed error machine => some (.error error, { interpreter with machine })
  | .unfinished => none

theorem run_eq_report (interpreter : Interpreter) (hosts : Hosts) (patience : Nat) :
    interpreter.run hosts patience =
      interpreter.report (Eval.program (interpreter.frame hosts patience) interpreter.machine) := rfl

/-- A run under other limits and with more patience, by the peaks of one that ends
    without hitting a limit. -/
private theorem run_under (source : String) (machine : Machine) (limits : Limits) (hosts : Hosts)
    {patience : Nat} {result : Except Error Value} {after : Interpreter}
    (hrun : (onMachine source machine limits).run hosts patience = some (result, after))
    (hfree : ∀ error, result = .error error → ¬ error.IsLimit) (other : Limits) {more : Nat}
    (hmore : patience ≤ more) :
    (after.machine.Within other →
      (onMachine source machine other).run hosts more = some (result, { after with limits := other })) ∧
    (¬ after.machine.Within other →
      ∃ error stop, (onMachine source machine other).run hosts more = some (.error error, stop) ∧
        error.Exceeds other) := by
  have hcut := @Eval.CutOff.program limits other
    ((onMachine source machine limits).frame hosts patience) more (onMachine source machine limits).machine
    rfl hmore
  have hstart : (onMachine source machine limits).machine.Within other := ⟨Nat.zero_le _, Nat.zero_le _⟩
  have hother : (onMachine source machine other).run hosts more = (onMachine source machine other).report
      (Eval.program (((onMachine source machine limits).frame hosts patience).under other more)
        (onMachine source machine limits).machine) := rfl
  rw [run_eq_report] at hrun
  rw [hother]
  cases hdone : Eval.program ((onMachine source machine limits).frame hosts patience)
      (onMachine source machine limits).machine with
  | done value stop =>
    rw [hdone] at hrun hcut
    cases hrun
    obtain ⟨_, rfl, hcut⟩ := hcut
    refine ⟨fun hwithin => by rw [hcut.keeps hwithin]; rfl, fun hwithin => ?_⟩
    obtain ⟨error, stop', hstop, hexceeds⟩ := hcut.stops hstart hwithin
    exact ⟨error, _, by rw [hstop]; rfl, hexceeds⟩
  | failed error stop =>
    rw [hdone] at hrun hcut
    cases hrun
    have hcut := hcut.resolve_left (hfree error rfl)
    refine ⟨fun hwithin => by rw [hcut.keeps hwithin]; rfl, fun hwithin => ?_⟩
    obtain ⟨error, stop', hstop, hexceeds⟩ := hcut.stops hstart hwithin
    exact ⟨error, _, by rw [hstop]; rfl, hexceeds⟩
  | unfinished =>
    rw [hdone] at hrun
    cases hrun

/-- A run that ends without hitting a limit stays within its limits. -/
private theorem within_of_run {source : String} {machine : Machine} {limits : Limits} {hosts : Hosts}
    {patience : Nat} {result : Except Error Value} {after : Interpreter}
    (hrun : (onMachine source machine limits).run hosts patience = some (result, after))
    (hfree : ∀ error, result = .error error → ¬ error.IsLimit) : after.machine.Within limits := by
  by_contra hwithin
  obtain ⟨error, stop, hstop, hexceeds⟩ :=
    (run_under source machine limits hosts hrun hfree limits (Nat.le_refl patience)).2 hwithin
  rw [hrun] at hstop
  cases hstop
  exact hfree error rfl (hexceeds.elim (fun h => ⟨_, .inl h⟩) fun h => ⟨_, .inr h⟩)

/-- A run that ends without hitting a limit reaches as deep as its peaks, and no
    limits but those below the peaks make a difference to it: at or above them it
    has the same result and leaves the same machine, and below them it is cut off
    with the failure of one of the limits. More patience changes nothing. -/
theorem run_cut_off_at_peaks (source : String) (machine : Machine) (limits : Limits) (hosts : Hosts)
    {patience : Nat} {result : Except Error Value} {after : Interpreter}
    (hrun : (onMachine source machine limits).run hosts patience = some (result, after))
    (hfree : ∀ error, result = .error error → ¬ error.IsLimit) (other : Limits) {more : Nat}
    (hmore : patience ≤ more) :
    (after.machine.deepestCall ≤ other.calls ∧ after.machine.deepestNesting ≤ other.nesting →
      (onMachine source machine other).run hosts more = some (result, { after with limits := other })) ∧
    (¬ (after.machine.deepestCall ≤ other.calls ∧ after.machine.deepestNesting ≤ other.nesting) →
      ∃ error stop, (onMachine source machine other).run hosts more = some (.error error, stop) ∧
        (error.cause.message = "maximum call depth of " ++ toString other.calls ++ " exceeded" ∨
          error.cause.message = "maximum nesting depth of " ++ toString other.nesting ++ " exceeded")) ∧
    (limits.calls ≤ other.calls → limits.nesting ≤ other.nesting →
      (onMachine source machine other).run hosts more = some (result, { after with limits := other })) := by
  obtain ⟨hkeeps, hstops⟩ := run_under source machine limits hosts hrun hfree other hmore
  refine ⟨hkeeps, fun hwithin => ?_, fun hcalls hnesting => hkeeps ?_⟩
  · obtain ⟨error, stop, hstop, hexceeds⟩ := hstops hwithin
    exact ⟨error, stop, hstop, hexceeds.imp (congrArg Cause.message) (congrArg Cause.message)⟩
  · have hwithin := within_of_run hrun hfree
    exact ⟨Nat.le_trans hwithin.1 hcalls, Nat.le_trans hwithin.2 hnesting⟩

/-- A function that is defined and called. One call is active at once, and the
    body is one level further in than the call. -/
def oneCall (limits : Limits) : Interpreter := onMachine "fn f() ('a') call f()" (.ofConfig {}) limits

/-- With one call and two levels allowed the run is the same as with the usual
    limits. With no call allowed it is cut off. -/
theorem run_cut_off_at_peaks_of_oneCall :
    ∃ result after, (oneCall {}).run (fun _ => .echo) 0 = some (result, after) ∧
      (oneCall ⟨1, 2⟩).run (fun _ => .echo) 0 = some (result, { after with limits := ⟨1, 2⟩ }) ∧
      ∃ error stop, (oneCall ⟨0, 2⟩).run (fun _ => .echo) 0 = some (.error error, stop) := by
  have hends : ((oneCall {}).run (fun _ => .echo) 0).any (fun ended => ended.1.isOk &&
      decide (ended.2.machine.deepestCall = 1 ∧ ended.2.machine.deepestNesting = 2)) = true := by decide +kernel
  obtain ⟨⟨result, after⟩, hrun, hends⟩ := (Option.any_eq_true _ _).1 hends
  obtain ⟨hok, hpeaks⟩ := Bool.and_eq_true_iff.1 hends
  have ⟨(hcalls : after.machine.deepestCall = 1), (hnesting : after.machine.deepestNesting = 2)⟩ :=
    of_decide_eq_true hpeaks
  have hfree : ∀ error, result = .error error → ¬ error.IsLimit := by
    rintro error rfl
    cases hok
  have hsame := (run_cut_off_at_peaks _ _ _ _ hrun hfree ⟨1, 2⟩ (Nat.le_refl 0)).1
    ⟨by simp [hcalls], by simp [hnesting]⟩
  obtain ⟨error, stop, hstop, _⟩ := (run_cut_off_at_peaks _ _ _ _ hrun hfree ⟨0, 2⟩ (Nat.le_refl 0)).2.1
    (by simp [hcalls])
  exact ⟨result, after, hrun, hsame, error, stop, hstop⟩

end Interpreter

end Rewind
