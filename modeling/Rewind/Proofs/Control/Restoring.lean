import Rewind.Proofs.Control.Routines

namespace Rewind.Control

/-- The registers one level further in. -/
def nested (registers : Registers) : Registers where
  tokens := registers.tokens
  nesting := registers.nesting + 1
  depth := registers.depth
  machine := { registers.machine with
    deepestNesting := max registers.machine.deepestNesting (registers.nesting + 1).toNat }

/-- What is left of an operand once its form has been evaluated. -/
def stepOut (result : Except Error Value) : Control Value := do
  leave
  conclude result

/-- Stepping out restores the nesting. -/
private theorem stepOut_apply {settings : Settings} {registers : Registers} {machine : Machine}
    (result : Except Error Value) (horder : Registers.InOrder { registers with machine } settings) :
    stepOut result settings { nested registers with machine } =
      match result with
      | .ok value => .done value { registers with machine }
      | .error error => .failed error { registers with machine } := by
  have hnesting : registers.nesting + 1 - 1 = registers.nesting := UInt64.add_sub_cancel _ _
  have hleave : leave settings { nested registers with machine } = .done () { registers with machine } := by
    unfold leave change nested
    simp only [hnesting]
    exact if_pos horder
  unfold stepOut
  rw [bind_of_done hleave]
  cases result <;> rfl

/-- A form that is followed is also followed out of its operand. -/
private theorem stepOut_of_followed {settings : Settings} {registers : Registers} (horder : registers.InOrder settings)
    {x : Control Value} {outcome : Outcome Value} {ending : Ending Value}
    (hending : x settings (nested registers) = ending)
    (hform : Followed settings (nested registers) (settings.likeness registers.tokens).values outcome ending) :
    Followed settings registers (settings.likeness registers.tokens).values outcome
      ((attempt x >>= stepOut) settings (nested registers)) := by
  have hback {machine : Machine} (hform : Registers.Ready { nested registers with machine } settings) :
      Registers.InOrder { registers with machine } settings :=
    ⟨horder.1, horder.2.1, horder.2.2.1, settings.landings.inside _ hform.inside⟩
  cases hform with
  | done hvalue hform =>
    rw [attempt_bind_of_done hending, stepOut_apply _ (hback hform)]
    exact .done hvalue ⟨hform.hosts, hform.machine, hform.inside⟩
  | failed hform hdeep =>
    rw [attempt_bind_of_failed hending, stepOut_apply _ (hback hform)]
    exact .failed ⟨hform.hosts, hform.machine, hform.inside⟩ hdeep
  | unfinished =>
    rw [attempt_bind_of_unfinished hending]
    exact .unfinished

namespace Follows

variable {settings : Settings} {tokens : Array Located} {nesting depth : UInt64}

/-- The form of an operand, one level further in. -/
private theorem nestedForm {inner : Control Value} {inner' : Eval Value} (hdepth : depth ≤ nesting)
    (hmay : nesting < settings.nesting)
    (hcalls : depth ≤ settings.calls) (hinner : Everywhere settings (nesting + 1) inner inner')
    (hadvances : Eval.Advances inner') (located : Located) :
    Follows settings tokens nesting depth (settings.likeness tokens).values
      (do enter; let result ← attempt ((Control.parts inner).form located); leave; conclude result)
      (do
        Eval.noteNesting (budgetAt settings (nesting + 1))
        Eval.form inner' (Eval.skipExpression (budgetAt settings (nesting + 1))) located) := by
  rintro registers rfl rfl rfl hready
  have hsucc := toNat_succ_of_lt hmay
  have hlt : registers.depth < registers.nesting + 1 := by
    rw [UInt64.lt_iff_toNat_lt, hsucc]
    exact Nat.lt_succ_of_le (UInt64.le_iff_toNat_le.1 hdepth)
  have hle := succ_le_of_lt_word hmay
  have hallowed := settings.landings.inside ⟨registers.tokens, registers.machine.pos⟩ hready.inside
  have hrest := hready.machine
  have henter : enter settings registers = .done () (nested registers) :=
    change_of_inOrder ⟨UInt64.le_of_lt hlt, hle, hcalls, hallowed⟩
  have hnoted : Eval.noteNesting (budgetAt settings (registers.nesting + 1)) (registers.frame settings)
      registers.machine = .done () (nested registers).machine := by
    have hlevel : settings.nesting.toNat - budgetAt settings (registers.nesting + 1) =
        (registers.nesting + 1).toNat := by
      have hle := UInt64.le_iff_toNat_le.1 hle
      unfold budgetAt
      omega
    simp only [Eval.noteNesting, nested, Registers.frame, Settings.limits, hlevel]
  have hform := hinner.form hadvances hlt hcalls hle located (nested registers) rfl rfl rfl
    ⟨hready.hosts, ⟨hrest.env, hrest.made, hrest.calls, hrest.log⟩, hready.inside⟩
  rw [bind_of_done henter, Eval.bind_of_done hnoted]
  exact stepOut_of_followed ⟨hdepth, UInt64.le_of_lt hmay, hcalls, hallowed⟩ rfl hform

/-- An expression is followed if its operands are. -/
private theorem expression {stack budget : Nat} (hoperand : Follows settings tokens nesting depth
      (settings.likeness tokens).values (Control.operand stack) (Eval.operand budget)) :
    Follows settings tokens nesting depth (settings.likeness tokens).values (Control.evaluate stack)
      (Eval.evaluate budget) :=
  loops.expression hoperand ((Eval.Agrees.operand budget).level (.skipOperand budget)) (.operand budget) combine

private theorem firstToken : Follows settings tokens nesting depth Eq (liftM Eval.firstToken) Eval.firstToken :=
  step Eval.Resumes.steps.firstToken Eval.Shallow.walks.firstToken fun _ _ => rfl

/-- The operand as it is evaluated is followed by the one that keeps count by hand,
    as long as the evaluator itself may recurse once for each level that is left. -/
theorem operand (stack : Nat) (hstack : budgetAt settings nesting < stack) (hdepth : depth ≤ nesting)
    (hnesting : nesting ≤ settings.nesting) (hcalls : depth ≤ settings.calls) :
    Follows settings tokens nesting depth (settings.likeness tokens).values (Control.operand stack)
      (Eval.operand (budgetAt settings nesting)) := by
  induction stack generalizing tokens nesting depth with
  | zero => cases hstack
  | succ stack ih =>
    by_cases hmay : nesting < settings.nesting
    · have hsucc := toNat_succ_of_lt hmay
      have hlt := UInt64.lt_iff_toNat_lt.1 hmay
      have hbudget : budgetAt settings nesting = budgetAt settings (nesting + 1) + 1 := by
        unfold budgetAt
        omega
      have hinner : Everywhere settings (nesting + 1) (Control.evaluate stack)
          (Eval.evaluate (budgetAt settings (nesting + 1))) := fun tokens depth hdepth hcalls =>
        expression (ih (by omega) hdepth (succ_le_of_lt_word hmay) hcalls)
      rw [hbudget]
      refine bind firstToken ?_
      rintro located _ rfl registers htokens hn hd hready
      have hmay' : mayEnter settings registers = .done true registers := by simp [mayEnter, hn, hmay]
      rw [bind_of_done hmay']
      exact nestedForm hdepth hmay hcalls hinner (.evaluate _) located registers htokens hn hd hready
    · have hbudget : budgetAt settings nesting = 0 := by
        have hle := Nat.le_of_not_lt (mt UInt64.lt_iff_toNat_lt.2 hmay)
        unfold budgetAt
        omega
      rw [hbudget]
      refine bind firstToken ?_
      rintro located _ rfl registers htokens hn hd hready
      have hmay' : mayEnter settings registers = .done false registers := by simp [mayEnter, hn, hmay]
      rw [bind_of_done hmay']
      exact .failed hready fun _ ⟨_, hcause⟩ => nomatch hcause

theorem evaluate (stack : Nat) (hstack : budgetAt settings nesting < stack) (hdepth : depth ≤ nesting)
    (hnesting : nesting ≤ settings.nesting) (hcalls : depth ≤ settings.calls) :
    Follows settings tokens nesting depth (settings.likeness tokens).values (Control.evaluate stack)
      (Eval.evaluate (budgetAt settings nesting)) :=
  expression (operand stack hstack hdepth hnesting hcalls)

end Follows

end Rewind.Control
