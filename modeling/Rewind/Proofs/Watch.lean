import Rewind.Proofs.Comparison.Forms
import Rewind.Proofs.Comparison.Loops
import Rewind.Proofs.Limits.Peaks

namespace Rewind

/-- How a computation under watch ends. -/
inductive Verdict (α : Type) where
  | done (result : α) (machine : Machine)
  /-- The computation failed while the buffer of `place` was read, at this place. -/
  | failed (error : Error) (place : Cursor) (machine : Machine)
  /-- A loop ran out of patience, on this machine. -/
  | unfinished (machine : Machine)
  /-- The watch stopped the computation. -/
  | stopped

namespace Verdict

variable {α : Type}

/-- The verdict on an outcome that a step of the evaluator has from `start`. -/
def ofOutcome (frame : Frame) (start : Machine) : Outcome α → Verdict α
  | .done a after => .done a after
  | .failed error after => .failed error ⟨frame.tokens, after.pos⟩ after
  | .unfinished => .unfinished start

/-- What is left of a verdict without its places. A stop counts as giving up. -/
def outcome : Verdict α → Outcome α
  | done a after => .done a after
  | failed error _ after => .failed error after
  | unfinished _ => .unfinished
  | stopped => .unfinished

/-- The verdict, with the machine put back to a position. The place of a failure stays. -/
def rewound (verdict : Verdict α) (pos : Nat) : Verdict α :=
  match verdict with
  | done a after => .done a { after with pos }
  | failed error place after => .failed error place { after with pos }
  | unfinished after => .unfinished after
  | stopped => .stopped

private theorem outcome_ofOutcome (frame : Frame) (start : Machine) (outcome : Outcome α) :
    (ofOutcome frame start outcome).outcome = outcome := by
  cases outcome <;> rfl

private theorem outcome_rewound (verdict : Verdict α) (pos : Nat) :
    (verdict.rewound pos).outcome = verdict.outcome.rewound pos := by
  cases verdict <;> rfl

end Verdict

/-- A computation under watch. -/
def Watched (α : Type) : Type := Frame → Machine → Verdict α

namespace Watched

protected def pure {α : Type} (a : α) : Watched α := fun _ machine => .done a machine

protected def bind {α β : Type} (x : Watched α) (f : α → Watched β) : Watched β := fun frame machine =>
  match x frame machine with
  | .done a machine => f a frame machine
  | .failed error place machine => .failed error place machine
  | .unfinished machine => .unfinished machine
  | .stopped => .stopped

instance : Monad Watched where
  pure := Watched.pure
  bind := Watched.bind

theorem bind_apply {α β : Type} (x : Watched α) (f : α → Watched β) (frame : Frame) (machine : Machine) :
    (x >>= f) frame machine = match x frame machine with
      | .done a machine => f a frame machine
      | .failed error place machine => .failed error place machine
      | .unfinished machine => .unfinished machine
      | .stopped => .stopped := rfl

/-- A step of the evaluator is never stopped. Where it fails, the verdict has the buffer that is
    read and the position. -/
def step {α : Type} (x : Eval α) : Watched α := fun frame start => .ofOutcome frame start (x frame start)

instance : MonadLift Eval Watched := ⟨step⟩

theorem liftM_apply {α : Type} (x : Eval α) (frame : Frame) (start : Machine) :
    (liftM x : Watched α) frame start = .ofOutcome frame start (x frame start) := rfl

/-- Runs `body` at a position of another buffer, with one more call active, and comes back
    to the current position however it ends. -/
def inBuffer {α : Type} (target : Cursor) (body : Watched α) : Watched α := fun frame start =>
  (body (frame.entering target) (start.entering target frame.depth)).rewound start.pos

/-- The computation as the evaluator would do it, but for what the watch stops. -/
def unwatched {α : Type} (x : Watched α) : Eval α := fun frame start => (x frame start).outcome

section Unwatched

variable {α β : Type}

theorem unwatched_liftM (x : Eval α) : (liftM x : Watched α).unwatched = x :=
  funext fun frame => funext fun start => Verdict.outcome_ofOutcome frame start _

theorem unwatched_pure (a : α) : (pure a : Watched α).unwatched = pure a := rfl

theorem unwatched_bind (x : Watched α) (f : α → Watched β) :
    (x >>= f).unwatched = x.unwatched >>= fun a => (f a).unwatched := by
  funext frame start
  show Verdict.outcome _ = _
  rw [bind_apply, Eval.bind_apply, unwatched]
  cases x frame start <;> rfl

theorem unwatched_inBuffer (target : Cursor) (body : Watched α) :
    (inBuffer target body).unwatched = Eval.inBuffer target body.unwatched := by
  funext frame start
  rw [Eval.inBuffer_apply]
  exact Verdict.outcome_rewound _ _

section Forms

open Eval

variable {tier : Tier} {item : Watched α} {combine : Located → α → α → Except Error α} {inner : Watched Value}

theorem unwatched_between (x : Watched α) : (between x).unwatched = between x.unwatched := by
  simp only [between, unwatched_bind, unwatched_liftM, unwatched_pure, liftM_eval]

private theorem unwatched_take (round : α → Watched (α ⊕ α)) (a : α) :
    (Loop.bounded.take round a).unwatched = Loop.bounded.take (fun a => (round a).unwatched) a := by
  have hwithin (rounds : Nat) (a : α) :
      (within round rounds a).unwatched = within (fun a => (round a).unwatched) rounds a := by
    induction rounds generalizing a with
    | zero => rfl
    | succ rounds ih =>
      rw [within, within, unwatched_bind]
      refine congrArg _ (funext fun next => ?_)
      cases next with
      | inl next => exact ih next
      | inr result => rfl
  simp only [Loop.bounded, unwatched_bind, unwatched_liftM, hwithin, liftM_eval]

private theorem unwatched_chain : (Loop.bounded.chain tier item combine).unwatched =
    chain tier item.unwatched combine := by
  have hround (left : α) :
      (chainRound tier item combine left).unwatched = chainRound tier item.unwatched combine left := by
    simp only [chainRound, unwatched_bind, unwatched_liftM, liftM_eval]
    refine congrArg _ (funext fun found => ?_)
    cases found with
    | none => rfl
    | some operator => simp only [unwatched_bind, unwatched_liftM, unwatched_pure]
  rw [← Loop.chain_bounded]
  simp only [Loop.chain, unwatched_bind, unwatched_take, hround]

theorem unwatched_expression :
    (Loop.bounded.expression item combine).unwatched = expression item.unwatched combine := by
  rw [Loop.expression, unwatched_chain, unwatched_chain]
  rfl

theorem unwatched_elements : (Loop.bounded.take (elementRound inner) #[]).unwatched =
    (do elementsFrom inner.unwatched (← rounds) #[]) := by
  have hround (values : Array Value) :
      (elementRound inner values).unwatched = elementRound inner.unwatched values := by
    simp only [elementRound, unwatched_bind, unwatched_liftM, liftM_eval]
    refine congrArg _ (funext fun here => ?_)
    split
    · rfl
    · simp only [unwatched_bind, unwatched_liftM]
      refine congrArg _ (funext fun value => congrArg _ (funext fun next => ?_))
      split
      · simp only [unwatched_bind, unwatched_liftM, unwatched_pure]
      · rfl
  rw [unwatched_take]
  simp only [hround, elementsFrom_eq_within]
  rfl

theorem unwatched_params : (Loop.bounded.take paramRound #[] : Watched (Array String)).unwatched =
    (do paramsFrom (← rounds) #[]) := by
  have hround (params : Array String) : (paramRound params : Watched _).unwatched = paramRound params := by
    simp only [paramRound, unwatched_bind, unwatched_liftM, liftM_eval]
    refine congrArg _ (funext fun here => ?_)
    split
    · rfl
    · simp only [unwatched_bind, unwatched_liftM]
      refine congrArg _ (funext fun param => congrArg _ (funext fun next => ?_))
      split
      · simp only [unwatched_bind, unwatched_liftM, unwatched_pure]
      · rfl
  rw [unwatched_take]
  simp only [hround, paramsFrom_eq_within]
  rfl

theorem unwatched_program :
    (Loop.bounded.program inner).unwatched = (do programFrom inner.unwatched (← rounds) .nil) := by
  have hround (last : Value) : (programRound inner last).unwatched = programRound inner.unwatched last := by
    simp only [programRound, unwatched_bind, unwatched_liftM, liftM_eval]
    refine congrArg _ (funext fun here => ?_)
    split
    · rfl
    · simp only [unwatched_bind, unwatched_pure]
  rw [← Loop.program_bounded]
  simp only [Loop.program, unwatched_take, hround]

theorem unwatched_invokeBy (body : Cursor → Watched (Array Value)) (f : Function) (arguments : Array Value)
    (span : Span) :
    (invokeBy body f arguments span).unwatched = invokeBy (fun target => (body target).unwatched) f arguments span := by
  unfold invokeBy
  simp only [unwatched_bind, unwatched_liftM, liftM_eval]
  refine congrArg _ (funext fun fr => ?_)
  split
  · rw [unwatched_liftM]
  · simp only [unwatched_bind, unwatched_liftM, unwatched_pure]

end Forms

end Unwatched

end Watched

namespace Eval

/-- The moments at which a watch is asked. -/
inductive Moment where
  /-- An operand is about to be evaluated. -/
  | operand
  /-- An expression is about to be skipped. -/
  | skip
  /-- A list is about to be evaluated. -/
  | list
  /-- The parameters of a definition are about to be read. -/
  | params
  /-- One of these has been done. -/
  | done
deriving DecidableEq

/-- For each moment, with the frame and the position at it, whether the run may go on. -/
abbrev Watch := Moment → Frame → Nat → Bool

namespace Watch

/-- The watch that stops nothing. -/
def idle : Watch := fun _ _ _ => true

variable (watch : Watch)

/-- Stops the run, unless it may go on. -/
def ask (moment : Moment) : Watched Unit := fun frame machine =>
  if watch moment frame machine.pos then .done () machine else .stopped

/-- Asks before a computation and after it. -/
def around {α : Type} (moment : Moment) (x : Watched α) : Watched α := do
  watch.ask moment
  let a ← x
  watch.ask .done
  pure a

def parts (inner : Watched Value) (skip : Watched Unit) : Parts Watched where
  inner
  skip := watch.around .skip skip
  list := watch.around .list (Loop.bounded.list inner)
  params := watch.around .params Loop.bounded.params
  invoke := invokeBy fun body => Watched.inBuffer body (watch.around .list (Loop.bounded.list inner))

/-- Evaluates an operand under watch, in its own buffer and in those of the functions
    that it calls. -/
def operand : (budget : Nat) → Watched Value
  | 0 => do tooNested (← firstToken)
  | budget + 1 => watch.around .operand do
    let located ← firstToken
    noteNesting budget
    (watch.parts (Loop.bounded.expression (operand budget) combine) (Loop.bounded.skipExpression budget)).form located

def evaluate (budget : Nat) : Watched Value := Loop.bounded.expression (watch.operand budget) combine

def program : Watched Value := do Loop.bounded.program (watch.evaluate (← frame).limits.nesting)

end Watch

end Eval

/-- Compares what is left of a watched computation without its watch. -/
def Eval.Comparison.unwatched (R : Eval.Comparison Eval) : Eval.Comparison Watched := fun V x y => R V x.unwatched y

namespace Eval

variable {like : Likeness} {R A : Comparison Eval}

private theorem Leads.unwatched (hleads : Leads A R) : Leads A.unwatched R.unwatched where
  bind hx hf := by
    rw [Comparison.unwatched, Watched.unwatched_bind]
    exact hleads.bind hx hf
  advance := by
    rw [Comparison.unwatched, Watched.unwatched_liftM]
    exact hleads.advance

theorem Entry.unwatched {token : Token} (hentry : Entry A R token) : Entry A.unwatched R.unwatched token where
  free hx := hentry.free hx
  leads hkind := (hentry.leads hkind).unwatched
  unexpected wanted := by
    rw [Comparison.unwatched, Watched.unwatched_liftM]
    exact hentry.unexpected wanted

/-- A comparison of computations of the evaluator compares watched ones, too. -/
theorem Guards.unwatched (hguards : Guards like R) : Guards like R.unwatched where
  pure hab := hguards.pure hab
  bind hx hf := by
    rw [Comparison.unwatched, Watched.unwatched_bind]
    exact hguards.bind hx hf
  expectPunct hopen hclose := by
    rw [Comparison.unwatched, Watched.unwatched_liftM]
    exact hguards.expectPunct hopen hclose
  expectName := by
    rw [Comparison.unwatched, Watched.unwatched_liftM]
    exact hguards.expectName
  tryElse := by
    rw [Comparison.unwatched, Watched.unwatched_liftM]
    exact hguards.tryElse
  operator tier hnone hsome := by
    rw [Comparison.unwatched, Watched.unwatched_bind, Watched.unwatched_liftM]
    refine (congrArg (fun rest => R _ (operator? tier >>= rest) _) (funext fun found => ?_)).mpr
      (hguards.operator tier hnone hsome)
    cases found with
    | none => rfl
    | some op =>
      refine (Watched.unwatched_bind _ _).trans ?_
      rw [Watched.unwatched_liftM]
      rfl
  skipList := by
    rw [Comparison.unwatched, Watched.unwatched_liftM]
    exact hguards.skipList
  opening {_ _ _ x x' _ _} hyes hno := by
    have hrest : (fun here : Cursor => (if here.isPunct "(" then x else x').unwatched) =
        fun here => if here.isPunct "(" then x.unwatched else x'.unwatched :=
      funext fun here => apply_ite Watched.unwatched _ _ _
    rw [Comparison.unwatched, Watched.unwatched_bind, Watched.unwatched_liftM, hrest]
    exact hguards.opening hyes hno

end Eval

namespace Interpreter

/-- The verdict on the run under watch. -/
def verdict (interpreter : Interpreter) (watch : Eval.Watch) (hosts : Hosts) (patience : Nat) : Verdict Value :=
  watch.program (interpreter.frame hosts patience) interpreter.machine

/-- The run, under watch: there is no result when it is stopped. -/
def watched (interpreter : Interpreter) (watch : Eval.Watch) (hosts : Hosts) (patience : Nat) :
    Option (Except Error Value × Interpreter) :=
  interpreter.report (interpreter.verdict watch hosts patience).outcome

end Interpreter

/-- Frames in which the watch stops nothing, and neither does it in the calls made
    there. -/
structure Eval.Watch.Free (watch : Watch) (free : Frame → Prop) : Prop where
  goesOn : ∀ {moment frame} {pos : Nat}, free frame → watch moment frame pos = true
  entering : ∀ {frame target}, free frame → free (frame.entering target)

/-- The verdict is that on the outcome, or the computation under watch was stopped. -/
inductive Verdict.Refines {α β : Type} (free : Prop) (V : α → β → Prop) : Verdict α → Outcome β → Prop where
  | done {a : α} {b : β} {after : Machine} (hresults : V a b) : Refines free V (.done a after) (.done b after)
  | failed {error : Error} {place : Cursor} {after : Machine} :
    Refines free V (.failed error place after) (.failed error after)
  | unfinished {after : Machine} : Refines free V (.unfinished after) .unfinished
  | stopped {outcome : Outcome β} (hstopped : ¬ free) : Refines free V .stopped outcome

namespace Verdict.Refines

variable {α β : Type} {free : Prop} {V : α → β → Prop}

private theorem of_outcome {V : α → α → Prop} (hV : ∀ a, V a a) (frame : Frame) (start : Machine)
    (outcome : Outcome α) :
    Refines free V (.ofOutcome frame start outcome) outcome := by
  cases outcome with
  | done a after => exact .done (hV a)
  | failed error after => exact .failed
  | unfinished => exact .unfinished

private theorem rewound {verdict : Verdict α} {outcome : Outcome β} (hrefines : Refines free V verdict outcome)
    (pos : Nat) :
    Refines free V (verdict.rewound pos) (outcome.rewound pos) := by
  cases hrefines with
  | done hresults => exact .done hresults
  | failed => exact .failed
  | unfinished => exact .unfinished
  | stopped hstopped => exact .stopped hstopped

private theorem mono {other : Prop} {verdict : Verdict α} {outcome : Outcome β}
    (hrefines : Refines free V verdict outcome) (hfree : other → free) : Refines other V verdict outcome := by
  cases hrefines with
  | done hresults => exact .done hresults
  | failed => exact .failed
  | unfinished => exact .unfinished
  | stopped hstopped => exact .stopped fun hother => hstopped (hfree hother)

private theorem weaken {W : α → β → Prop} {verdict : Verdict α} {outcome : Outcome β}
    (hrefines : Refines free V verdict outcome) (hVW : ∀ a b, V a b → W a b) : Refines free W verdict outcome := by
  cases hrefines with
  | done hresults => exact .done (hVW _ _ hresults)
  | failed => exact .failed
  | unfinished => exact .unfinished
  | stopped hstopped => exact .stopped hstopped

private theorem outcome_eq {verdict : Verdict α} {outcome : Outcome α} (hrefines : Refines free Eq verdict outcome)
    (hstopped : verdict ≠ .stopped) : verdict.outcome = outcome := by
  cases hrefines with
  | done hresults => rw [← hresults]; rfl
  | failed => rfl
  | unfinished => rfl
  | stopped => exact absurd rfl hstopped

private theorem ne_stopped {verdict : Verdict α} {outcome : Outcome β} (hrefines : Refines free V verdict outcome)
    (hfree : free) : verdict ≠ .stopped := by
  cases hrefines with
  | done | failed | unfinished => exact nofun
  | stopped hstopped => exact absurd hfree hstopped

end Verdict.Refines

namespace Eval

/-- Everything is the same only as itself. -/
def equal : Likeness := { Likeness.same with patience := Eq }

/-- `x` does what `y` does until it is stopped, and it is not stopped in free frames. -/
def Refines (free : Frame → Prop) {α β : Type} (V : α → β → Prop) (x : Watched α) (y : Eval β) : Prop :=
  ∀ frame start, Verdict.Refines (free frame) V (x frame start) (y frame start)

namespace Refines

variable {watch : Watch} {free : Frame → Prop} {α β γ δ : Type} {V : α → β → Prop} {W : γ → δ → Prop}

private theorem step {V : α → α → Prop} (hV : ∀ a, V a a) (x : Eval α) : Refines free V (liftM x) x :=
  fun frame start => .of_outcome hV frame start _

private theorem pure {a : α} {b : β} (hab : V a b) : Refines free V (Pure.pure a) (Pure.pure b) :=
  fun _ _ => .done hab

private theorem bind {x : Watched α} {y : Eval β} {f : α → Watched γ} {g : β → Eval δ} (hx : Refines free V x y)
    (hf : ∀ a b, V a b → Refines free W (f a) (g b)) : Refines free W (x >>= f) (y >>= g) := by
  intro frame start
  have hfirst := hx frame start
  rw [Watched.bind_apply, bind_apply]
  generalize x frame start = verdict at hfirst ⊢
  generalize y frame start = outcome at hfirst ⊢
  cases hfirst with
  | done hresults => exact hf _ _ hresults frame _
  | failed => exact .failed
  | unfinished => exact .unfinished
  | stopped hstopped => exact .stopped hstopped

private theorem asked (hfree : watch.Free free) (moment : Moment) {x : Watched α} {y : Eval β}
    (hx : Refines free V x y) :
    Refines free V (watch.ask moment >>= fun _ => x) y := by
  intro frame start
  rw [Watched.bind_apply]
  unfold Watch.ask
  by_cases hstopped : watch moment frame start.pos = true
  · rw [if_pos hstopped]
    exact hx frame start
  · rw [if_neg hstopped]
    exact .stopped fun hframe => hstopped (hfree.goesOn hframe)

theorem around (hfree : watch.Free free) (moment : Moment) {x : Watched α} {y : Eval β} (hx : Refines free V x y) :
    Refines free V (watch.around moment x) y := by
  refine asked hfree moment ?_
  rw [← bind_pure y]
  exact bind hx fun a b hab => asked hfree .done (pure hab)

private theorem branch (test : Cursor → Bool) {x x' : Watched α} {y y' : Eval β} (hyes : Refines free V x y)
    (hno : Refines free V x' y') :
    Refines free V (do if test (← cursor) then x else x') (do if test (← cursor) then y else y') := by
  refine bind (step (fun _ => rfl) _) ?_
  rintro here _ rfl
  split
  · exact hyes
  · exact hno

private theorem guards : Guards equal (Refines free) where
  pure := pure
  bind := bind
  expectPunct _ _ := step (fun _ => trivial) _
  expectName := step (fun _ => ⟨rfl, rfl⟩) _
  tryElse := step (fun _ => rfl) _
  operator tier hnone hsome := by
    refine bind (step (fun _ => rfl) _) ?_
    rintro found _ rfl
    cases found with
    | none => exact hnone
    | some op => exact bind (step (V := anyResult) (fun _ => trivial) _) fun _ _ _ => hsome ⟨rfl, rfl⟩
  skipList := step (fun _ => trivial) _
  opening := branch (·.isPunct "(")

private theorem loops : Loops equal (Refines free) .bounded := by
  refine .bounded guards ?_ (step (fun _ => rfl) _) (branch (·.atEnd))
  exact {
    pure := pure
    bind := bind
    expectName := guards.expectName
    closing := branch fun here => here.atEnd || here.isPunct ")"
    comma := fun hyes hno => branch (·.isPunct ",")
      (bind (step (V := anyResult) (fun _ => trivial) _) fun _ _ _ => hyes) hno }

private theorem between {x : Watched α} {y : Eval β} (hinside : Refines free V x y) :
    Refines free V (between x) (between y) :=
  bind (step (V := anyResult) (fun _ => trivial) _) fun _ _ _ => bind hinside fun _ _ hresults =>
    bind (step (V := anyResult) (fun _ => trivial) _) fun _ _ _ => pure hresults

theorem list {inner : Watched Value} {inner' : Eval Value} (hinner : Refines free Eq inner inner')
    (hadvances : Advances inner') : Refines free equal.arrays (Loop.bounded.list inner) (list inner') := by
  rw [list_eq_between]
  exact between (loops.elements hinner hadvances)

private theorem invokeBy {body : Cursor → Watched (Array Value)} {body' : Cursor → Eval (Array Value)}
    (hbody : ∀ target, Refines free equal.arrays (body target) (body' target)) (f : Function)
    (arguments : Array Value) (span : Span) :
    Refines free Eq (invokeBy body f arguments span) (invokeBy body' f arguments span) := by
  refine bind (step (fun _ => rfl) _) ?_
  rintro outer _ rfl
  split
  · exact step (fun _ => rfl) _
  · exact bind (step (V := anyResult) (fun _ => trivial) _) fun _ _ _ =>
      bind (hbody _) fun _ _ harrays => pure (harrays.back rfl)

private theorem inBuffer (hfree : ∀ {frame target}, free frame → free (frame.entering target)) (target : Cursor)
    {x : Watched α} {y : Eval β} (hx : Refines free V x y) :
    Refines free V (Watched.inBuffer target x) (Eval.inBuffer target y) := by
  intro frame start
  rw [inBuffer_apply]
  exact ((hx _ _).mono hfree).rewound _

private theorem combine {op op' : Located} {l l' r r' : Value} (hop : Located.Alike equal.spans op op') (hleft : l = l')
    (hright : r = r') : Refines free Eq (liftM (ofExcept (combine op l r))) (ofExcept (combine op' l' r')) := by
  obtain rfl := Likeness.same_located hop
  subst hleft hright
  exact step (fun _ => rfl) _

private theorem operands : Operands equal (Refines free) fun _ => Refines free where
  first hf := bind (step (V := Located.Alike equal.spans) (fun _ => ⟨rfl, rfl⟩) _) fun _ _ halike => hf halike
  noted _ _ hx := bind (step (V := anyResult) (fun _ => trivial) _) fun _ _ _ => hx
  tooNested halike := by
    obtain rfl := Likeness.same_located halike
    exact fun _ _ => .failed
  entry _ :=
    { free := id
      leads := fun _ => ⟨bind, step (fun _ => trivial) _⟩
      unexpected := fun _ _ _ => .failed }
  nothing := step (fun _ => trivial) _

private theorem skipExpression (budget : Nat) :
    Refines free anyResult (Loop.bounded.skipExpression budget) (skipExpression budget) :=
  loops.skipExpression operands budget

private theorem binds (hfree : watch.Free free) {inner : Watched Value} {inner' : Eval Value} (budget : Nat)
    (hinner : Refines free Eq inner inner') (hadvances : Advances inner') :
    Binds equal (Refines free) (watch.parts inner (Loop.bounded.skipExpression budget))
      (.of inner' (Eval.skipExpression budget)) := by
  have hlist : Refines free equal.arrays (watch.around .list (Loop.bounded.list inner)) (Eval.list inner') :=
    around hfree .list (list hinner hadvances)
  exact {
    toGuards := guards
    nested := hinner
    passed := around hfree .skip (skipExpression budget)
    list := hlist
    params := around hfree .params (between loops.params)
    number := fun _ => rfl
    string := fun _ => rfl
    nil := rfl
    truthy := fun hvalues => congrArg Value.truthy hvalues
    callees := fun hvalues => hvalues ▸ .self rfl
    lookup := fun hspans => hspans ▸ step (fun _ => rfl) _
    emptyList := fun hspans => hspans ▸ step (fun _ => rfl) _
    notCallable := fun _ _ _ _ _ hvalues hspans => hvalues ▸ hspans ▸ step (fun _ => rfl) _
    invoke := by
      intro f g left right here there hvalues harrays hspans
      cases hvalues
      cases hspans
      obtain rfl := Likeness.same_arrays harrays
      exact invokeBy (fun target => inBuffer hfree.entering target hlist) _ _ _
    consult := by
      intro name host left right here there _ harrays hspans
      cases hspans
      obtain rfl := Likeness.same_arrays harrays
      exact step (fun _ => rfl) _
    machine := step (V := fun left right : Machine => left.pos = right.pos) (fun _ => rfl) _
    rewind := fun hpositions => hpositions ▸ step (fun _ => trivial) _
    frame := step (V := fun left right : Frame => left.patience = right.patience) (fun _ => rfl) _
    oneMore := fun hpatience => ⟨_, Eq.symm hpatience, rfl⟩
    giveUp := by
      intro m loop hpatience hloop
      cases hpatience
      rw [hloop]
      exact fun _ _ => .unfinished
    record := fun _ => step (fun _ => trivial) _
    body := fun _ _ => step (fun _ => trivial) _
    bound := fun _ _ _ hvalues => hvalues ▸ step (fun _ => trivial) _ }

private theorem operand (hfree : watch.Free free) (budget : Nat) :
    Refines free Eq (watch.operand budget) (operand budget) := by
  induction budget with
  | zero => exact operands.first operands.tooNested
  | succ budget ih =>
    have hinner := loops.expression ih ((Agrees.operand budget).level (.skipOperand budget)) (.operand budget) combine
    refine around hfree .operand (operands.first fun {located _} halike => ?_)
    rw [← Parts.form_of]
    exact operands.noted located.token budget
      ((binds hfree budget hinner (.evaluate budget)).form (operands.entry _) halike)

theorem evaluate (hfree : watch.Free free) (budget : Nat) :
    Refines free Eq (watch.evaluate budget) (evaluate budget) :=
  loops.expression (operand hfree budget) ((Agrees.operand budget).level (.skipOperand budget))
    (.operand budget) combine

theorem program (hfree : watch.Free free) : Refines free Eq watch.program program := by
  refine bind (step (fun _ => rfl) _) ?_
  rintro outer _ rfl
  exact loops.program (evaluate hfree _) (.evaluate _) rfl

/-- What is never stopped is the computation that it refines. -/
theorem unwatched_eq {x : Watched α} {y : Eval α} (hx : Refines (fun _ => True) Eq x y) : x.unwatched = y :=
  funext fun frame => funext fun start => (hx frame start).outcome_eq ((hx frame start).ne_stopped trivial)

theorem unwatched_skipExpression (budget : Nat) :
    (Loop.bounded.skipExpression budget : Watched Unit).unwatched = Eval.skipExpression budget :=
  unwatched_eq fun frame start => (@skipExpression (fun _ => True) budget frame start).weaken fun left right _ =>
    show left = right from rfl

end Refines

namespace Watch

variable (watch : Watch)

/-- Any watch may stop anything. -/
private theorem free_none : watch.Free fun _ => False := ⟨False.elim, id⟩

/-- The idle watch stops nothing. -/
private theorem idle_free : idle.Free fun _ => True := ⟨fun _ => rfl, fun _ => trivial⟩

private theorem operand_eq_of_done {budget : Nat} {frame : Frame} {start after : Machine} {value : Value}
    (hdone : (watch.operand budget).unwatched frame start = .done value after) :
    Eval.operand budget frame start = .done value after := by
  have hrefines := Refines.operand watch.free_none budget frame start
  rw [← hrefines.outcome_eq fun hstopped => ?_]
  · exact hdone
  · rw [Watched.unwatched, hstopped] at hdone
    cases hdone

theorem operand_advances (budget : Nat) : Advances (watch.operand budget).unwatched :=
  fun _ _ _ _ hdone => Advances.operand budget (watch.operand_eq_of_done hdone)

theorem operand_level (budget : Nat) : Level (watch.operand budget).unwatched :=
  fun _ _ _ _ hdone => (Agrees.operand budget).level (.skipOperand budget) (watch.operand_eq_of_done hdone)

end Watch

end Eval

namespace Interpreter

variable {interpreter : Interpreter} {watch : Eval.Watch} {hosts : Hosts} {patience : Nat}

/-- A run that ends under watch ends like that without it. -/
theorem run_of_watched {ending : Except Error Value × Interpreter}
    (hwatched : interpreter.watched watch hosts patience = some ending) :
    interpreter.run hosts patience = some ending := by
  rw [run_eq_report]
  unfold watched at hwatched
  rw [← (Eval.Refines.program watch.free_none _ _).outcome_eq fun hstopped => ?_]
  · exact hwatched
  · rw [verdict, hstopped] at hwatched
    cases hwatched

/-- The watch that stops nothing does not stop the run, whose outcome is that of the verdict. -/
private theorem verdict_idle : interpreter.verdict .idle hosts patience ≠ .stopped ∧
    (interpreter.verdict .idle hosts patience).outcome =
      Eval.program (interpreter.frame hosts patience) interpreter.machine := by
  have hrefines := Eval.Refines.program Eval.Watch.idle_free (interpreter.frame hosts patience) interpreter.machine
  have hstopped := hrefines.ne_stopped trivial
  exact ⟨hstopped, hrefines.outcome_eq hstopped⟩

/-- How a run ends is how it ends under a watch that stops nothing. -/
theorem run_cases (interpreter : Interpreter) (hosts : Hosts) (patience : Nat) :
    (∃ value after, interpreter.verdict .idle hosts patience = .done value after ∧
      interpreter.run hosts patience = some (.ok value, { interpreter with machine := after })) ∨
    (∃ error place after, interpreter.verdict .idle hosts patience = .failed error place after ∧
      interpreter.run hosts patience = some (.error error, { interpreter with machine := after })) ∨
    ∃ after, interpreter.verdict .idle hosts patience = .unfinished after ∧ interpreter.run hosts patience = none := by
  obtain ⟨hstopped, houtcome⟩ := @verdict_idle interpreter hosts patience
  rw [run_eq_report, ← houtcome]
  cases hverdict : interpreter.verdict .idle hosts patience with
  | done value after => exact .inl ⟨value, after, rfl, rfl⟩
  | failed error place after => exact .inr (.inl ⟨error, place, after, rfl, rfl⟩)
  | unfinished after => exact .inr (.inr ⟨after, rfl, rfl⟩)
  | stopped => exact absurd hverdict hstopped

end Interpreter

end Rewind
