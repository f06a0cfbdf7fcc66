import Rewind.Proofs.Comparison.Program
import Rewind.Proofs.Limits.Peaks

namespace Rewind

/-- The code that a native was given in some calls, in order. -/
def codesOf (calls : List HostCall) (native : Native) : List String :=
  (calls.filter (·.native == native)).map (·.code)

/-- Hosts that answer alike each call of the record `recorded`, from number `since`
    on, after the calls that precede it there. -/
def Hosts.AnswerAlike (recorded : List HostCall) (since : Nat) (hosts other : Hosts) : Prop :=
  ∀ {before : List HostCall} {native : Native} {code : String}, before ++ [⟨native, code⟩] <+: recorded →
    since ≤ before.length →
      (other native).answer (codesOf before native) code = (hosts native).answer (codesOf before native) code ∧
        (other native).logged = (hosts native).logged

/-- The same frame with other hosts, and with other patience. -/
def Frame.facing (frame : Frame) (hosts : Hosts) (patience : Nat) : Frame :=
  { frame with hosts, patience }

namespace Eval

/-- What a run that stops at `after` becomes with hosts that answer the calls of a
    record as its own hosts did: the same run, if the record has its calls. -/
structure ReplayAt {α : Type} (recorded : List HostCall) (start after : Machine) (same actual : Outcome α) : Prop where
  grows : start.calls.toList <+: after.calls.toList
  replays : after.calls.toList <+: recorded → actual = same

/-- `y` does with other hosts what `x` does, as long as they answer alike. It has no
    less patience. Nothing is said where `x` runs out of it. -/
def Replays (recorded : List HostCall) (since : Nat) {α β : Type} (V : α → β → Prop) (x : Eval α) (y : Eval β) : Prop :=
  ∀ (frame : Frame) (other : Hosts) (patience : Nat) (start : Machine),
    frame.hosts.AnswerAlike recorded since other → frame.patience ≤ patience → since ≤ start.calls.size →
    match x frame start with
    | .done a after =>
      ∃ b, V a b ∧ ReplayAt recorded start after (.done b after) (y (frame.facing other patience) start)
    | .failed error after =>
      ReplayAt recorded start after (.failed error after) (y (frame.facing other patience) start)
    | .unfinished => True

/-- A computation that does not depend on hosts or patience and makes no host calls. -/
structure Hostless {α : Type} (x : Eval α) : Prop where
  same : ∀ frame hosts patience start, x (frame.facing hosts patience) start = x frame start
  calls : ∀ {frame start after}, (x frame start).after? = some after → after.calls = start.calls

namespace Hostless

private theorem update {change : Machine → Machine} (hchange : ∀ machine, (change machine).calls = machine.calls) :
    Hostless (update change) :=
  ⟨fun _ _ _ _ => rfl, fun hafter => by cases hafter; exact hchange _⟩

private theorem fail {α : Type} (error : Error) : Hostless (fail error : Eval α) :=
  ⟨fun _ _ _ _ => rfl, fun hafter => by cases hafter; rfl⟩

private theorem ofExcept {α : Type} (result : Except Error α) : Hostless (ofExcept result) := by
  cases result with
  | ok value => exact ⟨fun _ _ _ _ => rfl, fun hafter => by cases hafter; rfl⟩
  | error error => exact fail error

private theorem skipList : Hostless skipList where
  same frame hosts patience start := by
    rw [skipList_apply, skipList_apply]
    rfl
  calls := by
    intro frame start after hafter
    rw [skipList_apply] at hafter
    split at hafter
    · split at hafter <;> cases hafter <;> rfl
    · cases hafter
      rfl

private theorem lookup (name : String) (span : Span) : Hostless (lookup name span) where
  same _ _ _ _ := rfl
  calls := by
    intro frame start after hafter
    unfold Eval.lookup at hafter
    split at hafter <;> cases hafter <;> rfl

private theorem bindAll_calls (machine : Machine) (params : List String) (arguments : List Value) :
    (machine.bindAll params arguments).calls = machine.calls := by
  obtain ⟨env, log, hbound⟩ := machine.exists_bindAll_eq params arguments
  rw [hbound]

end Hostless

namespace Replays

variable {recorded : List HostCall} {since : Nat}

private theorem of_hostless {α : Type} {x : Eval α} (hx : Hostless x) : Replays recorded since Eq x x := by
  intro frame other patience start _ _ _
  rw [hx.same]
  have hstays {after : Machine} (hafter : (x frame start).after? = some after) (same : Outcome α) :
      ReplayAt recorded start after same same :=
    ⟨hx.calls hafter ▸ List.prefix_rfl, fun _ => rfl⟩
  cases hdone : x frame start with
  | done a after => exact ⟨a, rfl, hstays (by rw [hdone]; rfl) _⟩
  | failed error after => exact hstays (by rw [hdone]; rfl) _
  | unfinished => trivial

private theorem weaken {α β : Type} {V W : α → β → Prop} {x : Eval α} {y : Eval β} (hx : Replays recorded since V x y)
    (hVW : ∀ a b, V a b → W a b) : Replays recorded since W x y := by
  intro frame other patience start hhosts hpatience hsince
  have hx := hx frame other patience start hhosts hpatience hsince
  cases hdone : x frame start with
  | done a after =>
    rw [hdone] at hx
    obtain ⟨b, hab, hreplay⟩ := hx
    exact ⟨b, hVW a b hab, hreplay⟩
  | failed error after => simpa [hdone] using hx
  | unfinished => trivial

/-- The same, where the result does not matter. -/
private theorem of_hostless' {α : Type} {x : Eval α} (hx : Hostless x) : Replays recorded since anyResult x x :=
  (of_hostless hx).weaken fun _ _ _ => trivial

private theorem bind {α β γ δ : Type} {V : α → β → Prop} {W : γ → δ → Prop} {x : Eval α} {y : Eval β}
    {f : α → Eval γ} {g : β → Eval δ} (hx : Replays recorded since V x y)
    (hf : ∀ a b, V a b → Replays recorded since W (f a) (g b)) : Replays recorded since W (x >>= f) (y >>= g) := by
  intro frame other patience start hhosts hpatience hsince
  have hfirst := hx frame other patience start hhosts hpatience hsince
  cases hdone : x frame start with
  | unfinished => rw [bind_of_unfinished hdone]; trivial
  | failed error mid =>
    rw [hdone] at hfirst
    rw [bind_of_failed hdone]
    exact ⟨hfirst.grows, fun hrecorded => bind_of_failed (hfirst.replays hrecorded)⟩
  | done a mid =>
    rw [hdone] at hfirst
    rw [bind_of_done hdone]
    obtain ⟨b, hab, hreplay⟩ := hfirst
    have hlater : since ≤ mid.calls.size := Nat.le_trans hsince hreplay.grows.length_le
    have hrest := hf a b hab frame other patience mid hhosts hpatience hlater
    -- the record has the calls of the first part if it has those of the second one
    have hboth {after : Machine} {same : Outcome δ}
        (hsecond : ReplayAt recorded mid after same (g b (frame.facing other patience) mid)) :
        ReplayAt recorded start after same ((y >>= g) (frame.facing other patience) start) := by
      refine ⟨hreplay.grows.trans hsecond.grows, fun hrecorded => ?_⟩
      rw [bind_of_done (hreplay.replays (hsecond.grows.trans hrecorded))]
      exact hsecond.replays hrecorded
    cases hlast : f a frame mid with
    | done c after =>
      rw [hlast] at hrest
      obtain ⟨d, hcd, hsecond⟩ := hrest
      exact ⟨d, hcd, hboth hsecond⟩
    | failed error after =>
      rw [hlast] at hrest
      exact hboth hrest
    | unfinished => trivial

private theorem pure {α β : Type} {V : α → β → Prop} {a : α} {b : β} (hab : V a b) :
    Replays recorded since V (Pure.pure a) (Pure.pure b) :=
  fun _ _ _ _ _ _ _ => ⟨b, hab, List.prefix_rfl, fun _ => rfl⟩

private theorem walks : Walks .same (Replays recorded since) where
  pure := pure
  bind := bind
  cursor := of_hostless ⟨fun _ _ _ _ => rfl, fun hafter => by cases hafter; rfl⟩
  current := by
    rintro left _ rfl
    exact Likeness.same_current left
  advance := of_hostless' ⟨fun _ _ _ _ => rfl, fun hafter => by cases hafter; rfl⟩
  rounds := of_hostless ⟨fun _ _ _ _ => rfl, fun hafter => by cases hafter; rfl⟩
  unexpected wanted := fun _ _ _ _ _ _ _ => ⟨List.prefix_rfl, fun _ => rfl⟩
  skipList := of_hostless' Hostless.skipList

private theorem consulted_calls (host : Native) (code : String) (frame : Frame) (start : Machine) :
    (consulted host code frame start).calls = start.calls.push ⟨host, code⟩ := by
  unfold consulted
  dsimp only
  split <;> rfl

/-- The only step at which the hosts count. The record has what they answer. -/
private theorem consult (name : String) (host : Native) (arguments : Array Value) (span : Span) :
    Replays recorded since Eq (consult name host arguments span) (consult name host arguments span) := by
  by_cases hstring : ∃ code rest, arguments.toList = .string code :: rest
  · obtain ⟨code, rest, hstring⟩ := hstring
    intro frame other patience start hhosts _ hsince
    rw [consult_of_string hstring, consult_of_string hstring]
    have hpush : (consulted host code frame start).calls.toList = start.calls.toList ++ [⟨host, code⟩] := by
      rw [consulted_calls, Array.toList_push]
    have hgrows : start.calls.toList <+: (consulted host code frame start).calls.toList :=
      hpush ▸ List.prefix_append _ _
    have hsame (hrecorded : (consulted host code frame start).calls.toList <+: recorded) :
        (other host).answer (start.earlier host) code = (frame.hosts host).answer (start.earlier host) code ∧
          consulted host code (frame.facing other patience) start = consulted host code frame start := by
      obtain ⟨hanswer, hlogged⟩ := hhosts (hpush ▸ hrecorded) hsince
      refine ⟨hanswer, ?_⟩
      unfold consulted Frame.facing
      dsimp only
      rw [hlogged]
    cases hanswer : (frame.hosts host).answer (start.earlier host) code with
    | ok value =>
      refine ⟨value, rfl, hgrows, fun hrecorded => ?_⟩
      obtain ⟨hsame, hafter⟩ := hsame hrecorded
      simp only [Frame.facing, hsame, hanswer] at hafter ⊢
      rw [hafter]
    | error text =>
      refine ⟨hgrows, fun hrecorded => ?_⟩
      obtain ⟨hsame, hafter⟩ := hsame hrecorded
      simp only [Frame.facing, hsame, hanswer] at hafter ⊢
      rw [hafter]
  · rw [consult_of_not_string (fun code rest heq => hstring ⟨code, rest, heq⟩)]
    exact of_hostless (Hostless.fail _)

private theorem inBuffer {α β : Type} {V : α → β → Prop} {body : Eval α} {body' : Eval β} (target : Cursor)
    (hbody : Replays recorded since V body body') :
    Replays recorded since V (inBuffer target body) (inBuffer target body') := by
  intro frame other patience start hhosts hpatience hsince
  have hinside := hbody (frame.entering target) other patience (start.entering target frame.depth) hhosts
    hpatience hsince
  rw [inBuffer_apply, inBuffer_apply]
  cases hdone : body (frame.entering target) (start.entering target frame.depth) with
  | done a after =>
    rw [hdone] at hinside
    obtain ⟨b, hab, hreplay⟩ := hinside
    exact ⟨b, hab, hreplay.grows, fun hrecorded => congrArg (Outcome.rewound · start.pos) (hreplay.replays hrecorded)⟩
  | failed error after =>
    rw [hdone] at hinside
    exact ⟨hinside.grows, fun hrecorded => congrArg (Outcome.rewound · start.pos) (hinside.replays hrecorded)⟩
  | unfinished => trivial

private theorem frame : Replays recorded since (fun left right =>
    left.limits = right.limits ∧ left.depth = right.depth ∧ left.patience ≤ right.patience) frame frame :=
  fun frame other patience _ _ hpatience _ =>
    ⟨frame.facing other patience, ⟨rfl, rfl, hpatience⟩, List.prefix_rfl, fun _ => rfl⟩

private theorem invoke {inner inner' : Eval Value} (hinner : Replays recorded since Eq inner inner') (f : Function)
    (arguments : Array Value) (span : Span) :
    Replays recorded since Eq (invoke inner f arguments span) (invoke inner' f arguments span) := by
  refine bind frame fun outer outer' houter => ?_
  rw [houter.1, houter.2.1]
  split
  · exact of_hostless (Hostless.fail _)
  · refine bind (of_hostless' (Hostless.update fun machine => Hostless.bindAll_calls _ _ _)) fun _ _ _ => ?_
    refine bind (inBuffer f.body (walks.list hinner)) fun values values' hvalues => ?_
    exact pure (hvalues.back rfl)

private theorem forms {inner inner' : Eval Value} {skip skip' : Eval Unit}
    (hinner : Replays recorded since Eq inner inner') (hskip : Replays recorded since anyResult skip skip') :
    Forms .same (Replays recorded since) inner inner' skip skip' where
  toSteps := walks.toSteps
  nested := hinner
  passed := hskip
  list := walks.list hinner
  params := walks.params
  number _ := rfl
  string _ := rfl
  nil := rfl
  truthy hvalues := congrArg Value.truthy hvalues
  callees hvalues := hvalues ▸ Likeness.same_callees _
  lookup hspans := hspans ▸ of_hostless (Hostless.lookup _ _)
  emptyList hspans := hspans ▸ of_hostless (Hostless.fail _)
  notCallable _ _ _ _ _ hvalues hspans := hvalues ▸ hspans ▸ of_hostless (Hostless.fail _)
  invoke hvalues harrays hspans := by
    cases hvalues
    cases hspans
    obtain rfl := Likeness.same_arrays harrays
    exact invoke hinner _ _ _
  consult _ harrays hspans := by
    cases hspans
    obtain rfl := Likeness.same_arrays harrays
    exact consult _ _ _ _
  machine := (of_hostless ⟨fun _ _ _ _ => rfl, fun hafter => by cases hafter; rfl⟩).weaken
    fun _ _ heq => congrArg Machine.pos heq
  rewind hpositions := hpositions ▸ of_hostless' (Hostless.update fun _ => rfl)
  frame := frame.weaken fun _ _ houter => houter.2.2
  oneMore := by
    intro n m hpatience
    change n + 1 ≤ m at hpatience
    exact ⟨m - 1, by omega, show n ≤ m - 1 by omega⟩
  giveUp _ _ := fun _ _ _ _ _ _ _ => trivial
  record _ := of_hostless' (Hostless.update fun _ => rfl)
  defined name params _ _ hcursors := hcursors ▸ of_hostless' (Hostless.update fun _ => rfl)
  bound name _ _ hvalues := hvalues ▸ of_hostless' (Hostless.update fun _ => rfl)

private theorem runs : Runs .same (Replays recorded since) where
  toWalks := walks
  forms := forms
  noteNesting _ := of_hostless' ⟨fun _ _ _ _ => rfl, fun hafter => by cases hafter; rfl⟩
  tooNested halike := Likeness.same_located halike ▸ fun _ _ _ _ _ _ _ => ⟨List.prefix_rfl, fun _ => rfl⟩
  combine hop hleft hright :=
    Likeness.same_located hop ▸ hleft ▸ hright ▸ of_hostless (Hostless.ofExcept _)
  limits := frame.weaken fun _ _ houter => houter.1

end Replays

end Eval

/-- A run is the same with hosts that answer its calls alike, and with more
    patience. -/
theorem Interpreter.run_replay {interpreter after : Interpreter} {hosts : Hosts} {patience : Nat}
    {result : Except Error Value} {recorded : List HostCall} {since : Nat} {other : Hosts} {more : Nat}
    (hhosts : hosts.AnswerAlike recorded since other) (hmore : patience ≤ more)
    (hsince : since ≤ interpreter.machine.calls.size)
    (hrun : interpreter.run hosts patience = some (result, after)) :
    interpreter.machine.calls.toList <+: after.machine.calls.toList ∧
      (after.machine.calls.toList <+: recorded → interpreter.run other more = some (result, after)) := by
  have hreplays := (@Eval.Replays.runs recorded since).program (interpreter.frame hosts patience)
    other more interpreter.machine hhosts hmore hsince
  have hother : interpreter.run other more = interpreter.report
      (Eval.program ((interpreter.frame hosts patience).facing other more) interpreter.machine) := rfl
  rw [run_eq_report] at hrun
  rw [hother]
  cases hdone : Eval.program (interpreter.frame hosts patience) interpreter.machine with
  | done value stop =>
    rw [hdone] at hrun hreplays
    cases hrun
    obtain ⟨_, rfl, hreplay⟩ := hreplays
    exact ⟨hreplay.grows, fun hrecorded => by rw [hreplay.replays hrecorded]; rfl⟩
  | failed error stop =>
    rw [hdone] at hrun hreplays
    cases hrun
    exact ⟨hreplays.grows, fun hrecorded => by rw [hreplays.replays hrecorded]; rfl⟩
  | unfinished =>
    rw [hdone] at hrun
    cases hrun

end Rewind
