import Rewind.Proofs.Limits

namespace Rewind.Eval

namespace CutAt

variable {limits other : Limits}

private theorem rewound {α : Type} {start after : Machine} {same actual : Outcome α}
    (hcut : CutAt other start after same actual) (pos : Nat) :
    CutAt other start { after with pos } (same.rewound pos) (actual.rewound pos) where
  grows := ⟨hcut.grows.calls, hcut.grows.nesting⟩
  keeps hwithin := congrArg (Outcome.rewound · pos) (hcut.keeps hwithin)
  stops hstart hafter := by
    obtain ⟨error, stop, hstop, hexceeds⟩ := hcut.stops hstart hafter
    exact ⟨error, { stop with pos }, by rw [hstop]; rfl, hexceeds⟩

private theorem map {α β : Type} {start after : Machine} {same actual : Outcome α}
    (hcut : CutAt other start after same actual) (f : α → β) :
    CutAt other start after (same.map f) (actual.map f) where
  grows := hcut.grows
  keeps hwithin := congrArg (Outcome.map · f) (hcut.keeps hwithin)
  stops hstart hafter := by
    obtain ⟨error, stop, hstop, hexceeds⟩ := hcut.stops hstart hafter
    exact ⟨error, stop, by rw [hstop]; rfl, hexceeds⟩

/-- Where `other` does not allow the call that a body is entered by, the peak of calls exceeds
    its limit. Where it does, the comparison is that of the body. -/
private theorem of_entering {α : Type} {start bound after stop : Machine} {same actual : Outcome α} {target : Cursor}
    {depth : Nat} {error : Error} (hcut : CutAt other (bound.entering target depth) after same actual)
    (hcalls : bound.deepestCall = start.deepestCall) (hnesting : bound.deepestNesting = start.deepestNesting)
    (hexceeds : error.Exceeds other) :
    CutAt other start after same (if other.calls ≤ depth then .failed error stop else actual) := by
  have hentered : max start.deepestCall (depth + 1) ≤ after.deepestCall := hcalls ▸ hcut.grows.calls
  refine ⟨⟨by omega, hnesting ▸ hcut.grows.nesting⟩, fun hwithin => ?_, fun hstart hafter => ?_⟩
  · have hallowed := hwithin.1
    rw [if_neg (by omega), hcut.keeps hwithin]
  · split
    · exact ⟨error, stop, rfl, hexceeds⟩
    · refine hcut.stops ⟨?_, hnesting ▸ hstart.2⟩ hafter
      have hallowed := hstart.1
      show max bound.deepestCall (depth + 1) ≤ other.calls
      omega

end CutAt

namespace CutOff

variable {limits other : Limits}

/-- A step that does not fail and does not depend on the frame. -/
private theorem update_unlimited (change : Machine → Machine)
    (hchange : ∀ machine, (change machine).deepestCall = machine.deepestCall ∧
      (change machine).deepestNesting = machine.deepestNesting) : Unlimited (update change) :=
  ⟨fun _ _ _ _ => rfl, fun hafter => by cases hafter; exact hchange _⟩

private theorem fail_unlimited {α : Type} (error : Error) : Unlimited (fail error : Eval α) :=
  ⟨fun _ _ _ _ => rfl, fun hafter => by cases hafter; exact ⟨rfl, rfl⟩⟩

theorem ofExcept_unlimited {α : Type} (result : Except Error α) : Unlimited (ofExcept result) := by
  cases result with
  | ok value => exact ⟨fun _ _ _ _ => rfl, fun hafter => by cases hafter; exact ⟨rfl, rfl⟩⟩
  | error error => exact fail_unlimited error

private theorem lookup_unlimited (name : String) (span : Span) : Unlimited (lookup name span) where
  same _ _ _ _ := rfl
  peaks := by
    intro frame start after hafter
    unfold lookup at hafter
    split at hafter <;> cases hafter <;> exact ⟨rfl, rfl⟩

private theorem consulted_peaks (host : Native) (code : String) (frame : Frame) (start : Machine) :
    (consulted host code frame start).deepestCall = start.deepestCall ∧
      (consulted host code frame start).deepestNesting = start.deepestNesting := by
  unfold consulted
  dsimp only
  split <;> exact ⟨rfl, rfl⟩

private theorem consult_unlimited (name : String) (host : Native) (arguments : Array Value) (span : Span) :
    Unlimited (consult name host arguments span) := by
  by_cases hstring : ∃ code rest, arguments.toList = .string code :: rest
  · obtain ⟨code, rest, hstring⟩ := hstring
    refine ⟨fun frame limits patience start => ?_, fun {frame start after} hafter => ?_⟩
    · rw [consult_of_string hstring, consult_of_string hstring]
      rfl
    · rw [consult_of_string hstring] at hafter
      split at hafter <;> cases hafter <;> exact consulted_peaks host code frame start
  · rw [consult_of_not_string (fun code rest heq => hstring ⟨code, rest, heq⟩)]
    exact fail_unlimited _

private theorem bindAll_peaks (machine : Machine) (params : List String) (arguments : List Value) :
    (machine.bindAll params arguments).deepestCall = machine.deepestCall ∧
      (machine.bindAll params arguments).deepestNesting = machine.deepestNesting := by
  obtain ⟨env, log, hbound⟩ := machine.exists_bindAll_eq params arguments
  rw [hbound]
  exact ⟨rfl, rfl⟩

/-- A call is cut off at its own depth, or inside its body. -/
private theorem invoke {inner inner' : Eval Value} (hinner : CutOff limits other Eq inner inner') (f : Function)
    (arguments : Array Value) (span : Span) :
    CutOff limits other Eq (invoke inner f arguments span) (invoke inner' f arguments span) := by
  intro frame patience start hlimits hpatience
  rw [invoke_apply, invoke_apply]
  by_cases hdepth : frame.limits.calls ≤ frame.depth
  · rw [if_pos hdepth]
    exact .inl ⟨_, .inl rfl⟩
  rw [if_neg hdepth]
  have hpeaks := bindAll_peaks (start.record (.called f arguments.size)) f.params arguments.toList
  generalize (start.record (.called f arguments.size)).bindAll f.params arguments.toList = bound at *
  have hcalls : bound.deepestCall = start.deepestCall := hpeaks.1
  have hnesting : bound.deepestNesting = start.deepestNesting := hpeaks.2
  have hexceeds : (Error.atSpan span (.callDepth other.calls)).Exceeds other := .inl rfl
  have hlist := walks.list hinner (frame.entering f.body) patience (bound.entering f.body frame.depth)
    hlimits hpatience
  cases hbody : list inner (frame.entering f.body) (bound.entering f.body frame.depth) with
  | done values after =>
    rw [hbody] at hlist
    obtain ⟨values', harrays, hcut⟩ := hlist
    obtain rfl := Likeness.same_arrays harrays
    have hlast := (hcut.rewound start.pos).map fun values : Array Value => values.back?.getD .nil
    exact ⟨_, rfl, hlast.of_entering hcalls hnesting hexceeds⟩
  | failed error after =>
    rw [hbody] at hlist
    refine hlist.imp_right fun hcut => ?_
    have hlast := (hcut.rewound start.pos).map fun values : Array Value => values.back?.getD .nil
    exact hlast.of_entering hcalls hnesting hexceeds
  | unfinished => trivial

theorem forms {inner inner' : Eval Value} {skip skip' : Eval Unit} (hinner : CutOff limits other Eq inner inner')
    (hskip : CutOff limits other anyResult skip skip') :
    Forms .same (CutOff limits other) inner inner' skip skip' where
  toSteps := walks.toSteps
  nested := hinner
  passed := hskip
  list := walks.list hinner
  params := walks.params
  number _ := rfl
  string _ := rfl
  nil := rfl
  truthy hvalues := congrArg Value.truthy hvalues
  callees hvalues := hvalues ▸ Likeness.same_callees _
  lookup hspans := hspans ▸ of_unlimited (lookup_unlimited _ _)
  emptyList hspans := hspans ▸ of_unlimited (fail_unlimited _)
  notCallable _ _ _ _ _ hvalues hspans := hvalues ▸ hspans ▸ of_unlimited (fail_unlimited _)
  invoke hvalues harrays hspans := by
    cases hvalues
    cases hspans
    obtain rfl := Likeness.same_arrays harrays
    exact invoke hinner _ _ _
  consult _ harrays hspans := by
    cases hspans
    obtain rfl := Likeness.same_arrays harrays
    exact of_unlimited (consult_unlimited _ _ _ _)
  machine := (of_unlimited ⟨fun _ _ _ _ => rfl, fun hafter => by cases hafter; exact ⟨rfl, rfl⟩⟩).weaken
    fun _ _ heq => congrArg Machine.pos heq
  rewind hpositions := hpositions ▸ of_unlimited' (update_unlimited _ fun _ => ⟨rfl, rfl⟩)
  frame := fun frame patience start _ hpatience =>
    ⟨frame.under other patience, hpatience, .refl _, fun _ => rfl, fun hstart hafter => absurd hstart hafter⟩
  oneMore := by
    intro n m hpatience
    change n + 1 ≤ m at hpatience
    exact ⟨m - 1, by omega, show n ≤ m - 1 by omega⟩
  giveUp _ _ := fun _ _ _ _ _ => trivial
  record _ := of_unlimited' (update_unlimited _ fun _ => ⟨rfl, rfl⟩)
  defined name params _ _ hcursors := hcursors ▸ of_unlimited' (update_unlimited _ fun _ => ⟨rfl, rfl⟩)
  bound name _ _ hvalues := hvalues ▸ of_unlimited' (update_unlimited _ fun _ => ⟨rfl, rfl⟩)

end CutOff

end Rewind.Eval
