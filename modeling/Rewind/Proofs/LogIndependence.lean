import Rewind.Proofs.Comparison.Program
import Rewind.Proofs.Watch

namespace Rewind

/-- The machine with earlier events in front of its log. -/
def Machine.withEarlier (machine : Machine) (earlier : Array Event) : Machine :=
  { machine with log := earlier ++ machine.log }

namespace Machine

variable (machine : Machine) (earlier : Array Event)

private theorem withEarlier_pos : (machine.withEarlier earlier).pos = machine.pos := rfl

private theorem withEarlier_env : (machine.withEarlier earlier).env = machine.env := rfl

private theorem withEarlier_earlier (native : Native) :
    (machine.withEarlier earlier).earlier native = machine.earlier native := rfl

private theorem withEarlier_record (event : Event) :
    (machine.withEarlier earlier).record event = (machine.record event).withEarlier earlier := by
  simp [withEarlier, record]

private theorem withEarlier_bind (name : String) (value : Value) :
    (machine.withEarlier earlier).bind name value = (machine.bind name value).withEarlier earlier := by
  simp [withEarlier, bind]

private theorem withEarlier_bindAll (params : List String) (arguments : List Value) :
    (machine.withEarlier earlier).bindAll params arguments =
      (machine.bindAll params arguments).withEarlier earlier := by
  induction params generalizing machine arguments with
  | nil => rfl
  | cons param params ih => rw [bindAll_cons, bindAll_cons, withEarlier_bind, ih]

private theorem withEarlier_define (name : String) (params : List String) (body : Cursor) :
    (machine.withEarlier earlier).define name params body = (machine.define name params body).withEarlier earlier := by
  simp [define, withEarlier, record, bind]

private theorem withEarlier_consulted (host : Native) (code : String) (frame : Frame) :
    Eval.consulted host code frame (machine.withEarlier earlier) =
      (Eval.consulted host code frame machine).withEarlier earlier := by
  unfold Eval.consulted
  split <;> simp [withEarlier, record]

end Machine

/-- The same outcome, but for earlier events in front of the log. -/
inductive Outcome.SameAfter (earlier : Array Event) {α β : Type} (V : α → β → Prop) : Outcome α → Outcome β → Prop where
  | done {a : α} {b : β} {after : Machine} (hresults : V a b) :
    SameAfter earlier V (.done a after) (.done b (after.withEarlier earlier))
  | failed (error : Error) (after : Machine) :
    SameAfter earlier V (.failed error after) (.failed error (after.withEarlier earlier))
  | unfinished : SameAfter earlier V .unfinished .unfinished

namespace Eval

/-- `y` does what `x` does, with any earlier events in front of the log. -/
def IgnoresLog (earlier : Array Event) {α β : Type} (V : α → β → Prop) (x : Eval α) (y : Eval β) : Prop :=
  ∀ frame start, Outcome.SameAfter earlier V (x frame start) (y frame (start.withEarlier earlier))

namespace IgnoresLog

variable {earlier : Array Event} {α β γ δ : Type} {V : α → β → Prop} {W : γ → δ → Prop}

private theorem pure {a : α} {b : β} (hab : V a b) : IgnoresLog earlier V (Pure.pure a) (Pure.pure b) :=
  fun _ _ => .done hab

private theorem bind {x : Eval α} {y : Eval β} {f : α → Eval γ} {g : β → Eval δ} (hx : IgnoresLog earlier V x y)
    (hf : ∀ a b, V a b → IgnoresLog earlier W (f a) (g b)) : IgnoresLog earlier W (x >>= f) (y >>= g) := by
  intro frame start
  have hfirst := hx frame start
  rw [bind_apply, bind_apply]
  generalize x frame start = outcome at hfirst ⊢
  generalize y frame (start.withEarlier earlier) = outcome' at hfirst ⊢
  cases hfirst with
  | done hresults => exact hf _ _ hresults frame _
  | failed error after => exact .failed error after
  | unfinished => exact .unfinished

private theorem update {change : Machine → Machine}
    (hchange : ∀ machine, change (machine.withEarlier earlier) = (change machine).withEarlier earlier) :
    IgnoresLog earlier anyResult (update change) (update change) := by
  intro frame start
  unfold Eval.update
  rw [hchange]
  exact .done trivial

private theorem fail (error : Error) : IgnoresLog earlier V (fail error : Eval α) (fail error : Eval β) :=
  fun _ start => .failed error start

private theorem ofExcept (result : Except Error α) : IgnoresLog earlier Eq (ofExcept result) (ofExcept result) := by
  cases result with
  | ok value => exact pure rfl
  | error error => exact fail error

private theorem skipList : IgnoresLog earlier anyResult skipList skipList := by
  intro frame start
  rw [skipList_apply, skipList_apply, Machine.withEarlier_pos]
  split
  · cases closeFrom frame.tokens (start.pos + 1) 0 with
    | some pos => exact .done trivial
    | none => exact .failed _ _
  · exact .failed _ _

private theorem walks : Walks equal (IgnoresLog earlier) where
  pure := pure
  bind := bind
  cursor := fun _ _ => .done rfl
  current := by
    rintro left _ rfl
    exact Likeness.same_current left
  advance := fun _ _ => .done trivial
  rounds := fun _ _ => .done rfl
  unexpected _ := fun _ start => .failed _ start
  skipList := skipList

private theorem lookup (name : String) (span : Span) : IgnoresLog earlier Eq (lookup name span) (lookup name span) := by
  intro frame start
  unfold Eval.lookup
  rw [Machine.withEarlier_env]
  cases start.env.get? name with
  | some value => exact .done rfl
  | none => exact .failed _ start

private theorem consult (name : String) (host : Native) (arguments : Array Value) (span : Span) :
    IgnoresLog earlier Eq (consult name host arguments span) (consult name host arguments span) := by
  by_cases hstring : ∃ code rest, arguments.toList = .string code :: rest
  · obtain ⟨code, rest, hstring⟩ := hstring
    intro frame start
    rw [consult_of_string hstring, consult_of_string hstring, Machine.withEarlier_consulted,
      Machine.withEarlier_earlier]
    cases (frame.hosts host).answer (start.earlier host) code with
    | ok value => exact .done rfl
    | error text => exact .failed _ _
  · rw [consult_of_not_string (fun code rest heq => hstring ⟨code, rest, heq⟩)]
    exact fail _

private theorem inBuffer {x : Eval α} {y : Eval β} (target : Cursor) (hx : IgnoresLog earlier V x y) :
    IgnoresLog earlier V (inBuffer target x) (inBuffer target y) := by
  intro frame start
  have hinside := hx (frame.entering target) (start.entering target frame.depth)
  rw [inBuffer_apply, inBuffer_apply]
  change Outcome.SameAfter earlier V _
    ((y (frame.entering target) ((start.entering target frame.depth).withEarlier earlier)).rewound start.pos)
  generalize x (frame.entering target) _ = outcome at hinside ⊢
  generalize y (frame.entering target) _ = outcome' at hinside ⊢
  cases hinside with
  | done hresults => exact .done hresults
  | failed error after => exact .failed error _
  | unfinished => exact .unfinished

private theorem frame : IgnoresLog earlier (fun left right => left = right) frame frame := fun _ _ => .done rfl

private theorem invoke {inner inner' : Eval Value} (hinner : IgnoresLog earlier Eq inner inner') (f : Function)
    (arguments : Array Value) (span : Span) :
    IgnoresLog earlier Eq (invoke inner f arguments span) (invoke inner' f arguments span) := by
  refine bind frame ?_
  rintro outer _ rfl
  split
  · exact fail _
  · refine bind (update fun machine => ?_) fun _ _ _ => ?_
    · rw [Machine.withEarlier_record, Machine.withEarlier_bindAll]
    · exact bind (inBuffer f.body (walks.list hinner)) fun values values' hvalues => pure (hvalues.back rfl)

private theorem forms {inner inner' : Eval Value} {skip skip' : Eval Unit} (hinner : IgnoresLog earlier Eq inner inner')
    (hskip : IgnoresLog earlier anyResult skip skip') : Forms equal (IgnoresLog earlier) inner inner' skip skip' where
  toSteps := walks.toSteps
  nested := hinner
  passed := hskip
  list := walks.list hinner
  params := walks.params
  number _ := rfl
  string _ := rfl
  nil := rfl
  truthy hvalues := congrArg Value.truthy hvalues
  callees hvalues := hvalues ▸ .self rfl
  lookup hspans := hspans ▸ lookup _ _
  emptyList hspans := hspans ▸ fail _
  notCallable _ _ _ _ _ hvalues hspans := hvalues ▸ hspans ▸ fail _
  invoke hvalues harrays hspans := by
    cases hvalues
    cases hspans
    obtain rfl := Likeness.same_arrays harrays
    exact invoke hinner _ _ _
  consult _ harrays hspans := by
    cases hspans
    obtain rfl := Likeness.same_arrays harrays
    exact consult _ _ _ _
  machine := fun _ _ => .done rfl
  rewind hpositions := hpositions ▸ update fun _ => rfl
  frame := fun _ _ => .done rfl
  oneMore hpatience := ⟨_, Eq.symm hpatience, rfl⟩
  giveUp := by
    intro m loop hpatience hloop
    cases hpatience
    rw [hloop]
    exact fun _ _ => .unfinished
  record _ := update fun machine => machine.withEarlier_record earlier _
  defined name params _ _ hcursors := hcursors ▸ update fun machine => machine.withEarlier_define earlier name params _
  bound name _ _ hvalues := hvalues ▸ update fun machine => machine.withEarlier_bind earlier name _

theorem runs : Runs equal (IgnoresLog earlier) where
  toWalks := walks
  forms := forms
  noteNesting _ := fun _ _ => .done trivial
  tooNested halike := Likeness.same_located halike ▸ fun _ start => .failed _ start
  combine hop hleft hright := Likeness.same_located hop ▸ hleft ▸ hright ▸ ofExcept _
  limits := fun _ _ => .done rfl

end IgnoresLog

end Eval

end Rewind
