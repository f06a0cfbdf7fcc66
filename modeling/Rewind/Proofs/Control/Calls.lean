import Rewind.Proofs.Control.Forms

namespace Rewind

section Words

variable {a b : UInt64}

theorem toNat_succ_of_lt (hlt : a < b) : (a + 1).toNat = a.toNat + 1 := by
  have hlt := UInt64.lt_iff_toNat_lt.1 hlt
  have hbound := b.toNat_lt
  rw [UInt64.toNat_add, show (1 : UInt64).toNat = 1 from rfl]
  omega

theorem succ_le_of_lt_word (hlt : a < b) : a + 1 ≤ b := by
  rw [UInt64.le_iff_toNat_le, toNat_succ_of_lt hlt]
  exact UInt64.lt_iff_toNat_lt.1 hlt

end Words

namespace Control

open Eval

theorem bind_of_done {α β : Type} {x : Control α} {f : α → Control β} {settings : Settings}
    {registers after : Registers} {a : α} (hx : x settings registers = .done a after) :
    (x >>= f) settings registers = f a settings after := by
  rw [bind_apply, hx]

theorem change_of_inOrder {f : Registers → Registers} {settings : Settings} {registers : Registers}
    (horder : (f registers).InOrder settings) : change f settings registers = .done () (f registers) :=
  if_pos horder

/-- The registers at the start of the body of a call. -/
def entered (f : Function) (bound : Machine) (registers : Registers) : Registers where
  tokens := f.body.tokens
  nesting := registers.nesting
  depth := registers.depth + 1
  machine := bound.entering f.body registers.depth.toNat

/-- What is left of a call once its body has been evaluated. -/
def comeBack (returnTo : Cursor) (result : Except Error (Array Value)) : Control Value := do
  ascend
  jump returnTo
  let values ← conclude result
  pure (values.back?.getD .nil)

/-- A call that is allowed, up to its body. -/
private theorem invoke_of_may (inner : Control Value) {f : Function} {arguments : Array Value} (span : Span)
    {settings : Settings} {registers : Registers} {bound : Machine}
    (hbound : (registers.machine.record (.called f arguments.size)).bindAll f.params arguments.toList = bound)
    (hmay : registers.depth < settings.calls) (horder : (entered f bound registers).InOrder settings) :
    invoke inner f arguments span settings registers =
      (attempt (Loop.bounded.list inner) >>= comeBack ⟨registers.tokens, registers.machine.pos⟩) settings
        (entered f bound registers) := by
  have hmay' : mayDescend settings registers = .done true registers := by simp [mayDescend, hmay]
  have hpos : bound.pos = registers.machine.pos := by rw [← hbound, Machine.bindAll_pos, Machine.record_pos]
  have hdescend : descend settings { registers with
      tokens := f.body.tokens, machine := { bound with pos := f.body.pos } } =
      .done () (entered f bound registers) := by
    have hdepth := toNat_succ_of_lt hmay
    unfold descend change entered Machine.entering at *
    simp only [hdepth]
    exact if_pos horder
  unfold invoke
  simp only [liftM_quietly]
  rw [bind_of_done hmay', if_pos rfl, bind_of_done (show quietly (Eval.update _) settings registers =
    .done () { registers with machine := bound } by rw [← hbound]; rfl)]
  rw [bind_of_done (show quietly Eval.cursor settings { registers with machine := bound } =
    .done ⟨registers.tokens, registers.machine.pos⟩ { registers with machine := bound } by rw [← hpos]; rfl)]
  rw [bind_of_done (show jump f.body settings { registers with machine := bound } = .done () _ from rfl),
    bind_of_done hdescend]
  rfl

/-- Coming back restores buffer, position and depth. -/
private theorem comeBack_apply {f : Function} {bound machine : Machine} {settings : Settings} {registers : Registers}
    (result : Except Error (Array Value)) (horder : registers.InOrder settings)
    (hallowed : settings.landings.allowed ⟨f.body.tokens, machine.pos⟩ = true) :
    comeBack ⟨registers.tokens, registers.machine.pos⟩ result settings { entered f bound registers with machine } =
      match result with
      | .ok values => .done (values.back?.getD .nil)
          { registers with machine := { machine with pos := registers.machine.pos } }
      | .error error => .failed error
          { registers with machine := { machine with pos := registers.machine.pos } } := by
  have hdepth : registers.depth + 1 - 1 = registers.depth := UInt64.add_sub_cancel _ _
  have hascend : ascend settings { entered f bound registers with machine } =
      .done () { registers with tokens := f.body.tokens, machine } := by
    unfold ascend change entered
    simp only [hdepth]
    exact if_pos ⟨horder.1, horder.2.1, horder.2.2.1, hallowed⟩
  unfold comeBack
  rw [bind_of_done hascend, bind_of_done (show jump _ settings _ = .done () _ from rfl)]
  cases result <;> rfl

theorem attempt_bind_of_done {α β : Type} {x : Control α} {f : Except Error α → Control β} {settings : Settings}
    {registers after : Registers} {a : α} (hx : x settings registers = .done a after) :
    (attempt x >>= f) settings registers = f (.ok a) settings after := by
  rw [bind_apply, attempt, hx]

theorem attempt_bind_of_failed {α β : Type} {x : Control α} {f : Except Error α → Control β} {settings : Settings}
    {registers after : Registers} {error : Error} (hx : x settings registers = .failed error after) :
    (attempt x >>= f) settings registers = f (.error error) settings after := by
  rw [bind_apply, attempt, hx]

theorem attempt_bind_of_unfinished {α β : Type} {x : Control α} {f : Except Error α → Control β}
    {settings : Settings} {registers : Registers} (hx : x settings registers = .unfinished) :
    (attempt x >>= f) settings registers = .unfinished := by
  rw [bind_apply, attempt, hx]

/-- A body that is followed is also followed out of the call. -/
private theorem comeBack_of_followed {f : Function} {bound : Machine} {settings : Settings} {registers : Registers}
    (horder : registers.InOrder settings) (hready : registers.Ready settings) {x : Control (Array Value)}
    {outcome : Outcome (Array Value)} {ending : Ending (Array Value)}
    (hending : x settings (entered f bound registers) = ending)
    (hbody : Followed settings (entered f bound registers) (settings.likeness f.body.tokens).arrays outcome ending) :
    Followed settings registers (settings.likeness registers.tokens).values
      ((outcome.rewound registers.machine.pos).map fun values => values.back?.getD .nil)
      ((attempt x >>= comeBack ⟨registers.tokens, registers.machine.pos⟩) settings (entered f bound registers)) := by
  have hback {machine : Machine} (hbody : Registers.Ready { entered f bound registers with machine } settings) :
      Registers.Ready { registers with machine := { machine with pos := registers.machine.pos } } settings :=
    ⟨hready.hosts, ⟨hbody.machine.env, hbody.machine.made, hbody.machine.calls, hbody.machine.log⟩, hready.inside⟩
  cases hbody with
  | done hvalues hbody =>
    rw [attempt_bind_of_done hending, comeBack_apply _ horder (settings.landings.inside _ hbody.inside)]
    exact .done (hvalues.back ⟨rfl, .nil⟩) (hback hbody)
  | failed hbody hdeep =>
    rw [attempt_bind_of_failed hending, comeBack_apply _ horder (settings.landings.inside _ hbody.inside)]
    exact .failed (hback hbody) hdeep
  | unfinished =>
    rw [attempt_bind_of_unfinished hending]
    exact .unfinished

/-- A body outside of its buffer fails where it begins. -/
private theorem list_of_outside {inner : Control Value} {settings : Settings} {registers : Registers}
    (houtside : registers.tokens.size ≤ registers.machine.pos) :
    Loop.bounded.list inner settings registers = .failed (.expected (.punct "(") none) registers := by
  have hcurrent : (registers.frame settings).tokens[registers.machine.pos]? = none :=
    Array.getElem?_eq_none houtside
  have hopen : expectPunct "(" (registers.frame settings) registers.machine =
      .failed (.expected (.punct "(") none) registers.machine := by
    rw [expectPunct_apply, hcurrent, if_neg]
    rw [isPunct_iff, hcurrent]
    rintro ⟨_, hnone, _⟩
    cases hnone
  unfold Loop.list between
  rw [bind_apply, liftM_quietly, quietly, hopen]

namespace Follows

variable {settings : Settings} {tokens : Array Located} {nesting depth : UInt64}

theorem invoke {inner : Control Value} {inner' : Eval Value} (hdepth : depth < nesting)
    (hnesting : nesting ≤ settings.nesting)
    (hlist : ∀ tokens depth, depth ≤ nesting → depth ≤ settings.calls → Follows settings tokens nesting depth
      (settings.likeness tokens).arrays (Loop.bounded.list inner) (Eval.list inner'))
    {f : Function} (hf : Landed settings.landings (.function f)) {arguments : Array Value}
    (harguments : LandedAll settings.landings arguments) (span : Span) :
    Follows settings tokens nesting depth (settings.likeness tokens).values (Control.invoke inner f arguments span)
      (Eval.invoke inner' f arguments span) := by
  rintro registers rfl rfl rfl hready
  rw [Eval.invoke_apply]
  by_cases hmay : registers.depth < settings.calls
  · have hlt : registers.depth.toNat < settings.calls.toNat := UInt64.lt_iff_toNat_lt.1 hmay
    have hcalled : (Event.called f arguments.size).line = (Event.called f arguments.size).line := rfl
    have hbound := (hready.machine.record hcalled).bindAll f.params harguments
    generalize heq : (registers.machine.record (.called f arguments.size)).bindAll f.params arguments.toList =
      bound at hbound ⊢
    have hmachine : (entered f bound registers).machine.Rest settings.landings (entered f bound registers).machine :=
      ⟨hbound.env, hbound.made, hbound.calls, hbound.log⟩
    have hallowed : settings.landings.allowed f.body = true := by
      cases hf with
      | function _ _ _ _ hallowed => exact hallowed
      | plain hplain => exact absurd rfl (hplain f)
    have horder : registers.InOrder settings :=
      ⟨UInt64.le_of_lt hdepth, hnesting, UInt64.le_of_lt hmay, settings.landings.inside _ hready.inside⟩
    have hentered : (entered f bound registers).InOrder settings :=
      ⟨succ_le_of_lt_word hdepth, hnesting, succ_le_of_lt_word hmay, hallowed⟩
    have hframe : (entered f bound registers).frame settings = (registers.frame settings).entering f.body := by
      simp only [Registers.frame, entered, Frame.entering, toNat_succ_of_lt hmay]
    rw [if_neg (show ¬ (registers.frame settings).limits.calls ≤ (registers.frame settings).depth from
      Nat.not_le.2 hlt), invoke_of_may inner span heq hmay hentered]
    by_cases hinside : f.body.pos ≤ f.body.tokens.size
    · have hbody := hlist f.body.tokens (registers.depth + 1) (succ_le_of_lt_word hdepth) (succ_le_of_lt_word hmay)
        (entered f bound registers) rfl rfl rfl ⟨hready.hosts, hmachine, hinside⟩
      rw [hframe] at hbody
      exact comeBack_of_followed horder hready rfl hbody
    · have houtside : f.body.tokens.size ≤ f.body.pos := Nat.le_of_lt (Nat.lt_of_not_le hinside)
      have hbody : Loop.bounded.list inner settings (entered f bound registers) =
          .failed (.expected (.punct "(") none) (entered f bound registers) := list_of_outside houtside
      rw [attempt_bind_of_failed hbody, Eval.Resumes.list_of_outside (by exact houtside)]
      have hback := @comeBack_apply f bound (entered f bound registers).machine settings registers
        (.error (.expected (.punct "(") none)) horder hallowed
      refine hback ▸ .failed ?_ fun _ => Eval.Shallow.expected_not_deep _ _
      exact ⟨hready.hosts, ⟨hbound.env, hbound.made, hbound.calls, hbound.log⟩, hready.inside⟩
  · have hle : settings.calls.toNat ≤ registers.depth.toNat := Nat.le_of_not_lt (mt UInt64.lt_iff_toNat_lt.2 hmay)
    have hmay' : mayDescend settings registers = .done false registers := by simp [mayDescend, hmay]
    have hrefused : Control.invoke inner f arguments span settings registers =
        .failed (.atSpan span (.callDepth settings.calls.toNat)) registers := by
      unfold Control.invoke
      rw [bind_of_done hmay']
      rfl
    rw [if_pos (show (registers.frame settings).limits.calls ≤ (registers.frame settings).depth from hle), hrefused]
    refine .failed hready fun hlimits => absurd ?_ hmay
    exact UInt64.lt_of_lt_of_le hdepth (UInt64.le_trans hnesting hlimits)

end Follows

end Control

end Rewind
