import Mathlib.Algebra.Order.BigOperators.Group.List
import Mathlib.Algebra.Order.Group.Nat
import Rewind.Proofs.Comparison.Forms
import Rewind.Proofs.Parallel.Program
import Rewind.Proofs.Reach.Confined
import Rewind.Proofs.Unbounded
import Rewind.Proofs.Written

namespace Rewind

/-- A buffer in which no loop begins. -/
def Loopless (tokens : Array Located) : Prop :=
  ∀ located ∈ tokens, located.token.keyword? ≠ some .forLoop ∧ located.token.keyword? ≠ some .whileLoop

instance (tokens : Array Located) : Decidable (Loopless tokens) :=
  inferInstanceAs (Decidable (∀ located ∈ tokens, _))

/-- The reach of a run without loops: buffers without loops, all of them shorter than
    `enough`. -/
def Reach.loopless (enough : Nat) : Reach where
  buffer tokens := Loopless tokens ∧ tokens.size < enough
  native _ := True
  calls _ := True

/-- Data that is the same on both sides, and in reach. -/
def Likeness.loopless (enough : Nat) : Likeness := { (Reach.loopless enough).likeness with spans := Eq }

private theorem Reach.loopless_closed (enough : Nat) {hosts : Hosts} (hplain : hosts.Plain) :
    (Reach.loopless enough).Closed hosts where
  answer {host earlier code value} _ hanswer := by
    cases value with
    | function f => exact absurd rfl (hplain host earlier code _ hanswer f)
    | native _ => trivial
    | number _ => trivial
    | string _ => trivial
    | nil => trivial
  push _ _ _ := trivial

private theorem Outcome.Ends.rewound {reach : Reach} {α β : Type} {V : α → β → Prop} {left : Outcome α}
    {right : Outcome β} (hends : left.Ends (·.InReach reach) V right) (pos : Nat) :
    (left.rewound pos).Ends (·.InReach reach) V (right.rewound pos) := by
  cases hends with
  | done hresults hafter => exact .done hresults (hafter.moved pos)
  | failed error hafter => exact .failed error (hafter.moved pos)

namespace Eval

/-- Two computations that end, and end alike, in every buffer without loops: the first one
    when it has patience enough, and the second one with any patience. -/
def Halts (enough : Nat) {α β : Type} (V : α → β → Prop) (x : Eval α) (y : Eval β) : Prop :=
  ∀ ⦃frame : Frame⦄ ⦃start : Machine⦄ (patience : Nat), (Reach.loopless enough).buffer frame.tokens →
    (Reach.loopless enough).Closed frame.hosts → start.InReach (.loopless enough) → enough ≤ frame.patience →
    (x frame start).Ends (·.InReach (.loopless enough)) V (y { frame with patience } start)

/-- The same of computations that begin at the token. -/
def HaltsAt (enough : Nat) (token : Token) {α β : Type} (V : α → β → Prop) (x : Eval α) (y : Eval β) : Prop :=
  ∀ ⦃frame : Frame⦄ ⦃start : Machine⦄ ⦃located : Located⦄ (patience : Nat),
    (Reach.loopless enough).buffer frame.tokens → (Reach.loopless enough).Closed frame.hosts →
    start.InReach (.loopless enough) → enough ≤ frame.patience → frame.tokens[start.pos]? = some located →
    located.token = token → (x frame start).Ends (·.InReach (.loopless enough)) V (y { frame with patience } start)

namespace Halts

variable {enough : Nat} {α β γ δ : Type} {V : α → β → Prop} {W : γ → δ → Prop}

private theorem pure {a : α} {b : β} (hab : V a b) : Halts enough V (Pure.pure a) (Pure.pure b) :=
  fun _ _ _ _ _ hstart _ => .done hab hstart

private theorem bind {x : Eval α} {y : Eval β} {f : α → Eval γ} {g : β → Eval δ} (hx : Halts enough V x y)
    (hf : ∀ a b, V a b → Halts enough W (f a) (g b)) : Halts enough W (x >>= f) (y >>= g) := by
  intro frame start patience hbuffer hclosed hstart henough
  refine bind_ends (hx patience hbuffer hclosed hstart henough) fun a b mid _ hab hmid => ?_
  exact hf a b hab patience hbuffer hclosed hmid henough

private theorem fail (error : Error) : Halts enough V (fail error : Eval α) (fail error : Eval β) :=
  fun _ _ _ _ _ hstart _ => .failed error hstart

private theorem update {change : Machine → Machine}
    (hchange : ∀ {machine}, machine.InReach (.loopless enough) → (change machine).InReach (.loopless enough)) :
    Halts enough anyResult (update change) (update change) :=
  fun _ _ _ _ _ hstart _ => .done trivial (hchange hstart)

private theorem cursor : Halts enough (Likeness.loopless enough).cursors cursor cursor :=
  fun _ _ _ hbuffer _ hstart _ => .done ⟨rfl, hbuffer⟩ hstart

private theorem skipList : Halts enough anyResult skipList skipList := by
  intro frame start patience _ _ hstart _
  rw [skipList_apply, skipList_apply]
  split
  · cases closeFrom frame.tokens (start.pos + 1) 0 with
    | some pos => exact .done trivial (hstart.moved pos)
    | none => exact .failed _ (hstart.moved _)
  · exact .failed _ hstart

private theorem steps : Steps (Likeness.loopless enough) (Halts enough) where
  pure := pure
  bind := bind
  cursor := cursor
  current := by
    rintro left _ ⟨rfl, _⟩
    exact Likeness.same_current left
  advance := fun _ _ _ _ _ hstart _ => .done trivial (hstart.moved _)
  unexpected _ := fun _ _ _ _ _ hstart _ => .failed _ hstart
  skipList := skipList

/-- A loop without a bound, beside one with as many rounds as there are tokens. -/
private theorem loops : Loops (Likeness.loopless enough) (Halts enough) .unbounded := by
  refine .of_steps steps ?_
  intro α β V round round' hprogress hround a b hab frame start patience hbuffer hclosed hstart henough
  refine take_ends hprogress (fun a b mid hab hmid => ?_) hstart hab (Nat.lt_of_lt_of_le hbuffer.2 henough)
  exact hround a b hab patience hbuffer hclosed hmid henough

private theorem list {inner inner' : Eval Value} (hinner : Halts enough (Likeness.loopless enough).values inner inner')
    (hadvances : Advances inner') :
    Halts enough (Likeness.loopless enough).arrays (Loop.unbounded.list inner) (list inner') := by
  rw [list_eq_between]
  exact steps.between (loops.elements hinner hadvances)

private theorem lookup {name : String} {left right : Span} (hspans : left = right) :
    Halts enough (Likeness.loopless enough).values (lookup name left) (lookup name right) := by
  intro frame start patience _ _ hstart _
  subst hspans
  unfold Eval.lookup
  cases hvalue : start.env.get? name with
  | some value => exact .done ⟨rfl, hstart.env hvalue⟩ hstart
  | none => exact .failed _ hstart

private theorem consult {name : String} {host : Native} (arguments : Array Value) (span : Span) :
    Halts enough (Likeness.loopless enough).values (consult name host arguments span)
      (consult name host arguments span) := by
  by_cases hstring : ∃ code rest, arguments.toList = .string code :: rest
  · obtain ⟨code, rest, hstring⟩ := hstring
    intro frame start patience _ hclosed hstart _
    have hafter := hstart.consulted hclosed (show (Reach.loopless enough).native host from trivial) code
    rw [consult_of_string hstring, consult_of_string hstring]
    cases hanswer : (frame.hosts host).answer (start.earlier host) code with
    | ok value => exact .done ⟨rfl, hclosed.answer trivial hanswer⟩ hafter
    | error text => exact .failed _ hafter
  · rw [consult_of_not_string fun code rest heq => hstring ⟨code, rest, heq⟩]
    exact fail _

private theorem inBuffer {body : Eval α} {body' : Eval β} {target : Cursor}
    (htarget : (Reach.loopless enough).buffer target.tokens) (hbody : Halts enough V body body') :
    Halts enough V (inBuffer target body) (inBuffer target body') := by
  intro frame start patience _ hclosed hstart henough
  have hinside := @hbody (frame.entering target) _ patience htarget hclosed (hstart.entering target frame.depth) henough
  rw [inBuffer_apply, inBuffer_apply]
  exact hinside.rewound start.pos

private theorem invokeBy {body body' : Eval (Array Value)}
    (hbody : Halts enough (Likeness.loopless enough).arrays body body')
    {f : Function} (hfunction : (Reach.loopless enough).buffer f.body.tokens) {arguments : Array Value}
    (harguments : ∀ value ∈ arguments.toList, value.InReach (.loopless enough)) (span : Span) :
    Halts enough (Likeness.loopless enough).values (invokeBy (Eval.inBuffer · body) f arguments span)
      (invokeBy (Eval.inBuffer · body') f arguments span) := by
  refine bind (V := fun left right => left.limits = right.limits ∧ left.depth = right.depth)
    (fun _ _ _ _ _ hstart _ => .done ⟨rfl, rfl⟩ hstart) ?_
  rintro outer outer' ⟨hlimits, hdepth⟩
  rw [hlimits, hdepth]
  split
  · exact fail _
  · refine bind (update fun hmachine => (hmachine.record _).bindAll f.params harguments) fun _ _ _ => ?_
    exact bind (inBuffer hfunction hbody) fun _ _ hvalues => pure (hvalues.back ⟨rfl, trivial⟩)

private theorem arrays_eq {left right : Array Value} (harrays : (Likeness.loopless enough).arrays left right) :
    left = right := by
  apply Array.toList_inj.1
  have heq : List.Forall₂ Eq left.toList right.toList := List.Forall₂.imp (fun _ _ hvalues => hvalues.1) harrays
  exact List.forall₂_eq_eq_eq ▸ heq

private theorem straight {inner inner' : Eval Value} {skip skip' : Eval Unit}
    (hinner : Halts enough (Likeness.loopless enough).values inner inner') (hadvances : Advances inner') :
    Straight (Likeness.loopless enough) (Halts enough) (Unbounded.parts inner skip) (.of inner' skip') where
  toGuards := steps.guards
  nested := hinner
  list := list hinner hadvances
  number _ := ⟨rfl, trivial⟩
  string _ := ⟨rfl, trivial⟩
  nil := ⟨rfl, trivial⟩
  truthy hvalues := congrArg Value.truthy hvalues.1
  callees hvalues := by
    obtain ⟨rfl, hreach⟩ := hvalues
    exact .self ⟨rfl, hreach⟩
  lookup hspans := lookup hspans
  emptyList hspans := by
    cases hspans
    exact fail _
  notCallable name {_ _ _ _} hvalues hspans := by
    cases hspans
    cases hvalues.1
    exact fail _
  invoke hfunctions harrays hspans := by
    obtain ⟨heq, hfunction⟩ := hfunctions
    cases heq
    cases hspans
    obtain rfl := arrays_eq harrays
    exact invokeBy (list hinner hadvances) hfunction (Confined.arrays_inReach harrays) _
  consult _ harrays hspans := by
    cases hspans
    obtain rfl := arrays_eq harrays
    exact consult _ _

private theorem operands : Operands (Likeness.loopless enough) (Halts enough) (HaltsAt enough) where
  first hf := by
    intro frame start patience hbuffer hclosed hstart henough
    rw [liftM_eval, bind_apply, bind_apply, firstToken_apply, firstToken_apply]
    cases hcurrent : frame.tokens[start.pos]? with
    | none => exact .failed _ hstart
    | some located => exact hf ⟨rfl, rfl⟩ patience hbuffer hclosed hstart henough hcurrent rfl
  noted token budget hx := by
    intro frame start located patience hbuffer hclosed hstart henough hcurrent htoken
    have hnoted (depth : Nat) : ({ start with deepestNesting := depth } : Machine).InReach (.loopless enough) :=
      ⟨hstart.env, hstart.calls⟩
    exact hx patience hbuffer hclosed (hnoted _) henough hcurrent htoken
  tooNested halike := by
    obtain rfl := Likeness.same_located halike
    exact fun _ _ _ _ _ _ hstart _ _ _ => .failed _ hstart
  entry token :=
    { free := fun hx _ _ _ patience hbuffer hclosed hstart henough _ _ => hx patience hbuffer hclosed hstart henough
      leads := fun _ =>
        { bind := by
            intro α β γ δ V W x y f g hx hf frame start located patience hbuffer hclosed hstart henough hcurrent htoken
            refine bind_ends (hx patience hbuffer hclosed hstart henough hcurrent htoken) fun a b mid _ hab hmid => ?_
            exact hf a b hab patience hbuffer hclosed hmid henough
          advance := fun _ _ _ _ _ _ hstart _ _ _ => .done trivial (hstart.moved _) }
      unexpected := fun _ _ _ _ _ _ _ hstart _ _ _ => .failed _ hstart }
  nothing := pure trivial

private theorem takeBody (name : String) (params : List String) :
    Halts enough anyResult (takeBody name params) (takeBody name params) := by
  refine bind cursor ?_
  rintro body _ ⟨rfl, hbody⟩
  have hdefined : Halts enough anyResult (Eval.update (·.define name params body))
      (Eval.update (·.define name params body)) :=
    update fun hmachine => hmachine.define name params hbody
  split
  · exact bind skipList fun _ _ _ => hdefined
  · exact hdefined

private theorem form {inner inner' : Eval Value} {skip skip' : Eval Unit}
    (hinner : Halts enough (Likeness.loopless enough).values inner inner') (hadvances : Advances inner')
    (located : Located) :
    HaltsAt enough located.token (Likeness.loopless enough).values ((Unbounded.parts inner skip).form located)
      (Eval.form inner' skip' located) := by
  have hstraight : Straight (Likeness.loopless enough) (Halts enough) (Unbounded.parts inner skip) (.of inner' skip') :=
    straight hinner hadvances
  rw [← Parts.form_of]
  intro frame start here patience hbuffer hclosed hstart henough hcurrent htoken
  obtain ⟨hfor, hwhile⟩ := hbuffer.1 here (Array.mem_of_getElem? hcurrent)
  rw [htoken] at hfor hwhile
  have hform := hstraight.form (operands.entry located.token) ⟨rfl, rfl⟩
    (fun hkeyword => absurd hkeyword hfor) (fun hkeyword => absurd hkeyword hwhile)
    (fun hkeyword => hstraight.define ((operands.entry _).leads_of_keyword hkeyword)
      (steps.between loops.params) takeBody)
    (fun hkeyword => hstraight.assign ((operands.entry _).leads_of_keyword hkeyword) fun name _ _ hvalues => by
      obtain ⟨rfl, hvalue⟩ := hvalues
      exact update fun hmachine => hmachine.bind name hvalue)
  exact hform patience hbuffer hclosed hstart henough hcurrent htoken

private theorem combine {op op' : Located} {l l' r r' : Value}
    (halike : Located.Alike (Likeness.loopless enough).spans op op') (hleft : (Likeness.loopless enough).values l l')
    (hright : (Likeness.loopless enough).values r r') :
    Halts enough (Likeness.loopless enough).values (ofExcept (combine op l r)) (ofExcept (combine op' l' r')) := by
  obtain rfl := Likeness.same_located halike
  obtain ⟨rfl, _⟩ := hleft
  obtain ⟨rfl, _⟩ := hright
  unfold Eval.combine
  cases hvalue : Value.operate? op.token.lexeme l r with
  | none => exact fail _
  | some value => exact pure ⟨rfl, Value.operate?_inReach hvalue⟩

/-- The recursion is over the levels of nesting that are left. A call goes back to some buffer
    and some position, but one level further in. -/
private theorem operand (budget : Nat) :
    Halts enough (Likeness.loopless enough).values (Unbounded.operand budget) (operand budget) := by
  induction budget with
  | zero => exact operands.first operands.tooNested
  | succ budget ih =>
    have hlevel := (Agrees.operand budget).level (.skipOperand budget)
    have hinner := loops.expression ih hlevel (Advances.operand budget) combine
    refine operands.first fun {located _} halike => operands.noted _ budget ?_
    obtain rfl := Likeness.same_located halike
    exact form hinner (Advances.evaluate budget) located

private theorem program : Halts enough (Likeness.loopless enough).values Unbounded.program program := by
  refine bind (V := fun left right => left.limits = right.limits) (fun _ _ _ _ _ hstart _ => .done rfl hstart) ?_
  intro outer outer' hlimits
  rw [hlimits]
  have hlevel := (Agrees.operand outer'.limits.nesting).level (.skipOperand _)
  exact loops.program (loops.expression (operand _) hlevel (Advances.operand _) combine) (Advances.evaluate _)
    ⟨rfl, trivial⟩

end Halts

end Eval

/-- The size of the buffer that a function's body is in. -/
def Value.bufferSize : Value → Nat
  | function f => f.body.tokens.size
  | number _ | string _ | native _ | nil => 0

namespace Interpreter

/-- Every buffer that a run sees is shorter than some number. -/
private theorem exists_size_lt_of_sees (interpreter : Interpreter) :
    ∃ enough, ∀ tokens, interpreter.Sees tokens → tokens.size < enough := by
  let sizes := interpreter.machine.env.entries.map fun entry => entry.2.bufferSize
  refine ⟨interpreter.tokens.size + sizes.sum + 1, ?_⟩
  rintro tokens (rfl | ⟨name, f, hbound, rfl⟩)
  · omega
  · have hmem : (name, Value.function f) ∈ interpreter.machine.env.entries := by
      obtain ⟨before, later, hentries, _⟩ := List.lookup_eq_some_iff.1 hbound
      simp [hentries]
    have hle : f.body.tokens.size ≤ sizes.sum := List.le_sum_of_mem (List.mem_map.2 ⟨_, hmem, rfl⟩)
    omega

private theorem report_of_ends {enough : Nat} {left right : Outcome Value}
    (hends : left.Ends (·.InReach (.loopless enough)) (Likeness.loopless enough).values right)
    (interpreter : Interpreter) :
    ∃ ended, interpreter.report left = some ended ∧ interpreter.report right = some ended := by
  cases hends with
  | done hresults _ =>
    obtain ⟨rfl, _⟩ := hresults
    exact ⟨_, rfl, rfl⟩
  | failed error _ => exact ⟨_, rfl, rfl⟩

/-- A run without loops ends as it does without any bound on its loops, however much patience
    either of them has beyond some number. -/
private theorem exists_ended_of_loopless (interpreter : Interpreter) {hosts : Hosts} (hplain : hosts.Plain)
    (hloopless : ∀ tokens, interpreter.Sees tokens → Loopless tokens) :
    ∃ enough, ∀ more patience, enough ≤ more → ∃ ended, interpreter.unbounded hosts more = some ended ∧
      interpreter.run hosts patience = some ended := by
  obtain ⟨enough, henough⟩ := interpreter.exists_size_lt_of_sees
  have hbuffer : (Reach.loopless enough).buffer interpreter.tokens := ⟨hloopless _ (.inl rfl), henough _ (.inl rfl)⟩
  have hmachine : interpreter.machine.InReach (.loopless enough) := by
    refine ⟨fun {name value} hbound => ?_, trivial⟩
    cases value with
    | function f => exact ⟨hloopless _ (.inr ⟨name, f, hbound, rfl⟩), henough _ (.inr ⟨name, f, hbound, rfl⟩)⟩
    | native _ => trivial
    | number _ => trivial
    | string _ => trivial
    | nil => trivial
  refine ⟨enough, fun more patience hmore => ?_⟩
  have hends := @Eval.Halts.program enough (interpreter.frame hosts more) _ patience hbuffer
    (Reach.loopless_closed enough hplain) hmachine hmore
  exact report_of_ends hends interpreter

/-- A run ends if no buffer that it can read has a loop, however its functions call themselves or
    each other. Its ending does not depend on the patience, and with enough patience it does not
    depend on a bound on the rounds of its chains, lists and parameters and of the program
    either: a successful expression moves past a token, so a round that has another one after it
    has moved on. -/
theorem loopless_programs_end (interpreter : Interpreter) {hosts : Hosts} (hplain : hosts.Plain)
    (hloopless : ∀ tokens, interpreter.Sees tokens → Loopless tokens) :
    (∃ result after,
      (∀ patience, interpreter.run hosts patience = some (result, after)) ∧
      (∀ patience, interpreter.interpret hosts patience = some (result.map fun _ => after.machine.env, after)) ∧
      ∃ enough, ∀ patience, enough ≤ patience → interpreter.unbounded hosts patience = some (result, after)) ∧
    ∀ budget, Eval.Advances (Eval.evaluate budget) ∧ Eval.Progresses (Eval.elementRound (Eval.evaluate budget)) ∧
      Eval.Progresses (Eval.programRound (Eval.evaluate budget)) := by
  refine ⟨?_, fun budget => ⟨.evaluate budget, .elementRound (.evaluate budget), .programRound (.evaluate budget)⟩⟩
  obtain ⟨enough, hends⟩ := interpreter.exists_ended_of_loopless hplain hloopless
  obtain ⟨⟨result, after⟩, hunbounded, hrun⟩ := hends enough 0 (Nat.le_refl enough)
  have hrun (patience : Nat) : interpreter.run hosts patience = some (result, after) := by
    obtain ⟨ended, hended, hrun⟩ := hends enough patience (Nat.le_refl enough)
    rw [hrun, ← hended, hunbounded]
  refine ⟨result, after, hrun, fun patience => ?_, enough, fun more hmore => ?_⟩
  · rw [interpret, hrun]
    rfl
  · obtain ⟨ended, hended, hsame⟩ := hends more 0 hmore
    rw [hended, ← hsame, hrun]

/-- A machine on which another source has defined a function that calls one named `ping`. -/
def ponging : Machine := (Machine.ofConfig {}).define "pong" ["n"] ⟨tokenize "fn pong(n) (call ping(n + 1))", 5⟩

/-- Two functions in two buffers that call each other for ever, but for the limits. -/
def pinging : Interpreter := onMachine "fn ping(n) (call pong(n)) call ping(0)" ponging ⟨4, 100⟩

private theorem pinging_loopless (tokens : Array Located) (hsees : pinging.Sees tokens) : Loopless tokens := by
  rcases hsees with rfl | ⟨name, f, hbound, rfl⟩
  · show Loopless (tokenize "fn ping(n) (call pong(n)) call ping(0)")
    decide +kernel
  · change ((Env.set {} "pong" _).get? name) = _ at hbound
    rw [Env.get?_set] at hbound
    split at hbound <;> cases hbound
    show Loopless (tokenize "fn pong(n) (call ping(n + 1))")
    decide +kernel

/-- They end with the failure of the limit on calls, with no patience at all. -/
theorem loopless_programs_end_of_pinging :
    ∃ error after, (∀ patience, pinging.run (fun _ => .echo) patience = some (.error error, after)) ∧
      error.cause.message = "maximum call depth of 4 exceeded" ∧
      ∃ enough, ∀ patience, enough ≤ patience → pinging.unbounded (fun _ => .echo) patience =
        some (.error error, after) := by
  have hplain : Hosts.Plain fun _ => .echo := by
    rintro host earlier code value hanswer f rfl
    cases hanswer
  obtain ⟨⟨result, after, hrun, _, hunbounded⟩, _⟩ := loopless_programs_end pinging hplain pinging_loopless
  have hends : (pinging.run (fun _ => .echo) 0).any (fun ended => match ended.1 with
      | .error error => error.cause.message == "maximum call depth of 4 exceeded"
      | .ok _ => false) = true := by decide +kernel
  rw [hrun] at hends
  cases result with
  | ok value => cases hends
  | error error => exact ⟨error, after, hrun, beq_iff_eq.1 hends, hunbounded⟩

end Interpreter

end Rewind
