import Rewind.Proofs.Correspondence
import Rewind.Proofs.Lines

namespace Rewind

/-- Coming back from bodies, both sides are where they were. -/
private theorem Outcome.Corresponds.rewound {k : Correspondence} {α β : Type} {V : α → β → Prop} {outcome : Outcome α}
    {outcome' : Outcome β} {tokens tokens' body body' : Array Located} {l r : Nat}
    (hechoes : Corresponds k V (Eval.Together k body body') outcome outcome')
    (hplaces : k.places ⟨tokens, l⟩ ⟨tokens', r⟩) :
    Corresponds k V (Eval.Together k tokens tokens') (outcome.rewound l) (outcome'.rewound r) := by
  cases hechoes with
  | done hresults hmachines => exact .done hresults ⟨hmachines.machines.moved l r, hplaces⟩
  | failed herrors hmachines => exact .failed herrors (hmachines.moved l r)
  | unfinished => exact .unfinished

namespace Eval

variable {k : Correspondence} {α β : Type} {V : α → β → Prop} {frame : Frame} {start : Machine}

/-- Where it may begin, a computation under the watch is not stopped at its end. -/
private theorem around_of_goesOn {moment : Moment} (hgoes : k.watch moment frame start.pos = true) (x : Watched α) :
    (k.watch.around moment x).unwatched frame start = x.unwatched frame start := by
  have hask : k.watch.ask .done = pure () := rfl
  unfold Watch.around Watched.unwatched
  rw [Watched.bind_apply, Watch.ask, if_pos hgoes, hask]
  dsimp only
  rw [Watched.bind_apply]
  cases x frame start <;> rfl

private theorem around_of_stopped {moment : Moment} (hstops : k.watch moment frame start.pos = false) (x : Watched α) :
    (k.watch.around moment x).unwatched frame start = .unfinished := by
  unfold Watch.around Watched.unwatched
  rw [Watched.bind_apply, Watch.ask, hstops]
  rfl

namespace Corresponds

variable {tokens tokens' : Array Located}

/-- A region that may be read, on both sides from its first token to its last. -/
private theorem between {moment : Moment}
    (hmoment : ∀ frame pos, k.watch moment frame pos = !k.barred ⟨frame.tokens, pos⟩) {x : Watched α} {y : Eval β}
    (hx : Corresponds k tokens tokens' V x.unwatched y) :
    Corresponds k tokens tokens' V (k.watch.around moment (Eval.between x)).unwatched (Eval.between y) := by
  intro frame left right hadmits htogether
  by_cases hbarred : k.barred ⟨tokens, left.pos⟩ = true
  · rw [around_of_stopped (by rw [hmoment, hbarred]; rfl)]
    exact .unfinished
  · rw [around_of_goesOn (by rw [hmoment]; simp [hbarred]), Watched.unwatched_between]
    refine bind_echoes (V := anyResult) (M := Together k tokens tokens') ?_ fun _ hmid => ?_
    · -- the opening parenthesis is a token like any other where it is not barred
      rw [liftM_eval, expectPunct_apply, expectPunct_apply]
      dsimp only
      by_cases hopen : (Cursor.mk tokens left.pos).isPunct "(" = true
      · have hopen' := htogether.isPunct_eq "(" ▸ hopen
        obtain ⟨located, hcurrent, _⟩ := isPunct_iff.1 hopen
        rw [if_pos hopen, if_pos hopen']
        exact .done trivial
          ⟨htogether.machines.moved _ _, k.step htogether.places hcurrent fun hbar => absurd hbar hbarred⟩
      · have hopen' := htogether.isPunct_eq "(" ▸ hopen
        rw [if_neg hopen, if_neg hopen']
        exact .failed (.expected _ htogether.look) htogether.machines
    · have hclose : Corresponds k tokens tokens' anyResult (Eval.expectPunct ")") (Eval.expectPunct ")") :=
        expectPunct (by decide)
      have hrest := bind hx fun a b hab => bind hclose fun _ _ _ => pure hab
      exact hrest frame _ _ hadmits hmid

/-- A loop over tokens may have the bound of either buffer. -/
private theorem loop {loop : Nat → Eval α} {loop' : Nat → Eval β} (hsettled : Settled loop) (hsettled' : Settled loop')
    (hloop : ∀ rounds, Corresponds k tokens tokens' V (loop rounds) (loop' rounds)) :
    Corresponds k tokens tokens' V (do loop (← rounds)) (do loop' (← rounds)) := by
  intro frame left right hadmits htogether
  -- a loop that has settled gives the same for the larger bound
  let bound := max tokens.size tokens'.size + 1
  have hleft : loop (tokens.size + 1) { frame with tokens } left = loop bound { frame with tokens } left :=
    hsettled (by dsimp only; omega) (by dsimp only [bound]; omega)
  have hright : loop' (tokens'.size + 1) { frame with tokens := tokens' } right =
      loop' bound { frame with tokens := tokens' } right :=
    hsettled' (by dsimp only; omega) (by dsimp only [bound]; omega)
  rw [bind_apply, bind_apply]
  dsimp only [rounds]
  rw [hleft, hright]
  exact hloop bound frame left right hadmits htogether

section Forms

private theorem list {inner : Watched Value} {inner' : Eval Value} (hadvances : Advances inner.unwatched)
    (hadvances' : Advances inner') (hinner :
      Corresponds k tokens tokens' (Value.AlikeBy k.places) inner.unwatched inner') :
    Corresponds k tokens tokens' (alikeness k tokens tokens').arrays
      (k.watch.around .list (Loop.bounded.list inner)).unwatched
      (list inner') := by
  rw [list_eq_between]
  apply between fun _ _ => rfl
  rw [Watched.unwatched_elements]
  exact loop (.elementsFrom hadvances #[]) (.elementsFrom hadvances' #[]) fun rounds =>
    lists.elementsFrom hinner rounds .nil

private theorem params : Corresponds k tokens tokens' Eq (k.watch.around .params Loop.bounded.params).unwatched
    (Eval.between do paramsFrom (← rounds) #[]) := by
  apply between fun _ _ => rfl
  rw [Watched.unwatched_params]
  exact loop (.paramsFrom #[]) (.paramsFrom #[]) fun rounds => lists.paramsFrom rounds #[]

private theorem takeBody (name : String) (params : List String) :
    Corresponds k tokens tokens' anyResult (takeBody name params) (takeBody name params) := by
  intro frame left right hadmits htogether
  have hdefine : Corresponds k tokens tokens' anyResult (Eval.update (·.define name params ⟨tokens, left.pos⟩))
      (Eval.update (·.define name params ⟨tokens', right.pos⟩)) :=
    update (fun _ => rfl) (fun _ => rfl) fun hmatches => hmatches.define name params htogether.places
  unfold Eval.takeBody
  rw [bind_apply, bind_apply]
  dsimp only [cursor]
  rw [htogether.isPunct_eq]
  split
  · exact bind skipList (fun _ _ _ => hdefine) frame left right hadmits htogether
  · exact hdefine frame left right hadmits htogether

private theorem lookup (name : String) {here there : Span} (hspans : k.spans here there) :
    Corresponds k tokens tokens' (Value.AlikeBy k.places) (lookup name here) (lookup name there) := by
  intro frame left right _ htogether
  have hbound := htogether.machines.env name
  unfold Eval.lookup
  generalize left.env.get? name = found at hbound ⊢
  generalize right.env.get? name = found' at hbound ⊢
  cases hbound with
  | none => exact .failed (.atSpan hspans rfl) htogether.machines
  | some hvalues => exact .done hvalues htogether

private theorem consult {name : String} {host : Native} {arguments arguments' : Array Value}
    (harguments : (alikeness k tokens tokens').arrays arguments arguments') {here there : Span}
    (hspans : k.spans here there) :
    Corresponds k tokens tokens' (Value.AlikeBy k.places) (consult name host arguments here)
      (consult name host arguments' there) := by
  intro frame left right hadmits htogether
  rcases Value.AlikeBy.handed harguments with ⟨code, rest, rest', hstring, hstring'⟩ | ⟨hnone, hnone'⟩
  · have hafter : Together k tokens tokens' (consulted host code { frame with tokens } left)
        (consulted host code { frame with tokens := tokens' } right) :=
      ⟨htogether.machines.consulted host code rfl, by simpa using htogether.places⟩
    rw [consult_of_string hstring, consult_of_string hstring', htogether.machines.earlier_eq]
    dsimp only
    split
    · rename_i value hanswer
      refine .done (.self fun f hfunction => ?_) hafter
      subst hfunction
      exact hadmits host _ code f hanswer
    · exact .failed (.atSpan hspans rfl) hafter.machines
  · rw [consult_of_not_string hnone, consult_of_not_string hnone']
    exact .failed (.atSpan hspans rfl) htogether.machines

/-- A call goes on at the bodies of both functions, which stand for each other. -/
private theorem invokeBy {body body' : Eval (Array Value)}
    (hbody : ∀ tokens tokens', Corresponds k tokens tokens' (alikeness k tokens tokens').arrays body body')
    {f g : Function} (hfunctions : Value.AlikeBy k.places (.function f) (.function g))
    {arguments arguments' : Array Value} (harguments : (alikeness k tokens tokens').arrays arguments arguments')
    {here there : Span} (hspans : k.spans here there) :
    Corresponds k tokens tokens' (Value.AlikeBy k.places) (invokeBy (inBuffer · body) f arguments here)
      (invokeBy (inBuffer · body') g arguments' there) := by
  intro frame left right hadmits htogether
  obtain ⟨_, heq, _, hname, hparams, hbodies⟩ := hfunctions.exists_function
  cases heq
  have hcalled := htogether.machines.called hname hparams harguments
  unfold Eval.invokeBy
  rw [bind_apply, bind_apply]
  dsimp only [liftM_eval, Eval.frame]
  split
  · exact .failed (.atSpan hspans rfl) htogether.machines
  · rw [bind_apply, bind_apply]
    dsimp only [Eval.update]
    refine bind_echoes (V := (alikeness k tokens tokens').arrays) (M := Together k tokens tokens') ?_
      fun harrays hmid => .done (harrays.back (.plain (by simp))) hmid
    have hentered := hbody f.body.tokens g.body.tokens { frame with depth := frame.depth + 1 } _ _ hadmits
      ⟨⟨hcalled.toAlikeBy.entering f.body g.body frame.depth, hcalled.log⟩, hbodies⟩
    rw [inBuffer_apply, inBuffer_apply, Machine.bindAll_pos, Machine.bindAll_pos]
    exact hentered.rewound htogether.places

private theorem callees {v w : Value} (halike : Value.AlikeBy k.places v w) :
    (alikeness k tokens tokens').Callees v w := by
  cases v with
  | function f =>
    obtain ⟨g, rfl, _⟩ := halike.exists_function
    exact .function halike
  | number | string | native | nil =>
    obtain rfl := halike.eq_of_ne_function (by simp)
    exact .self halike

private theorem step {V : α → β → Prop} {x : Eval α} {y : Eval β} (hx : Corresponds k tokens tokens' V x y) :
    Comparison.unwatched (Corresponds k tokens tokens') V (liftM x) y := by
  rw [Comparison.unwatched, Watched.unwatched_liftM]
  exact hx

private theorem binds {inner : Watched Value} {inner' : Eval Value} (budget : Nat)
    (hadvances : Advances inner.unwatched) (hadvances' : Advances inner')
    (hinner : ∀ tokens tokens', Corresponds k tokens tokens' (Value.AlikeBy k.places) inner.unwatched inner')
    (hskip : Corresponds k tokens tokens' anyResult (skipExpression budget) (skipExpression budget)) :
    Binds (alikeness k tokens tokens') (Comparison.unwatched (Corresponds k tokens tokens'))
      (k.watch.parts inner (Loop.bounded.skipExpression budget)) (.of inner' (skipExpression budget)) where
  toGuards := guards.unwatched
  nested := hinner tokens tokens'
  passed := by
    intro frame left right hadmits htogether
    rw [show (k.watch.parts inner (Loop.bounded.skipExpression budget)).skip =
      k.watch.around .skip (Loop.bounded.skipExpression budget) from rfl, around_of_goesOn rfl,
      Refines.unwatched_skipExpression]
    exact hskip frame left right hadmits htogether
  list := list hadvances hadvances' (hinner tokens tokens')
  params := params
  number _ := .plain (by simp)
  string _ := .plain (by simp)
  nil := .plain (by simp)
  truthy := Value.AlikeBy.truthy
  callees := callees
  lookup hspans := step (lookup _ hspans)
  emptyList hspans := step (fail (.atSpan hspans rfl))
  notCallable name _ _ _ _ hvalues hspans := step (fail (.notCallable hspans name hvalues))
  invoke hfunctions harguments hspans := by
    have hcall := invokeBy (fun tokens tokens' => list hadvances hadvances' (hinner tokens tokens')) hfunctions
      harguments hspans
    simp only [← Watched.unwatched_inBuffer] at hcall
    rw [← Watched.unwatched_invokeBy] at hcall
    exact hcall
  consult _ harguments hspans := step (consult harguments hspans)
  machine := step fun _ _ _ _ htogether => .done htogether.places htogether
  rewind hpositions := step fun _ _ _ _ htogether => .done trivial ⟨htogether.machines.moved _ _, hpositions⟩
  frame := step fun _ _ _ _ htogether => .done rfl htogether
  oneMore hpatience := ⟨_, Eq.symm hpatience, rfl⟩
  giveUp _ _ := step fun _ _ _ _ _ => .unfinished
  record _ := step (update (fun _ => rfl) (fun _ => rfl) fun hmatches => hmatches.record rfl)
  body name params := step (takeBody name params)
  bound name _ _ hvalues := step (update (fun _ => rfl) (fun _ => rfl) fun hmatches => hmatches.bind name hvalues)

end Forms

section Expressions

variable {item : Eval α} {item' : Eval β} {combine : Located → α → α → Except Error α}
  {combine' : Located → β → β → Except Error β}

private theorem chain (tier : Tier) (hitem : Corresponds k tokens tokens' V item item') (hmoves : Advances item)
    (hmoves' : Advances item')
    (hcombine : ∀ {op op' l l' r r'}, Located.Alike k.spans op op' → V l l' → V r r' →
      Corresponds k tokens tokens' V (ofExcept (combine op l r)) (ofExcept (combine' op' l' r'))) :
    Corresponds k tokens tokens' V (chain tier item combine) (chain tier item' combine') :=
  bind hitem fun first first' hfirst => loop (.chainFrom hmoves first) (.chainFrom hmoves' first') fun rounds =>
    guards.chainFrom tier hitem hcombine rounds hfirst

private theorem expression (hitem : Corresponds k tokens tokens' V item item') (hmoves : Advances item)
    (hmoves' : Advances item') (hlevel : Level item) (hlevel' : Level item')
    (hcombine : ∀ {op op' l l' r r'}, Located.Alike k.spans op op' → V l l' → V r r' →
      Corresponds k tokens tokens' V (ofExcept (combine op l r)) (ofExcept (combine' op' l' r'))) :
    Corresponds k tokens tokens' V (expression item combine) (expression item' combine') :=
  chain .multiplicative (chain .additive hitem hmoves hmoves' hcombine) (.chain hlevel hmoves)
    (.chain hlevel' hmoves') hcombine

end Expressions

/-- Both sides note a level of nesting and stay at the token. -/
private theorem noted {token : Token} {x : Eval α} {y : Eval β} (budget : Nat)
    (hx : CorrespondsAt k tokens tokens' token V x y) :
    CorrespondsAt k tokens tokens' token V (noteNesting budget >>= fun _ => x) (noteNesting budget >>= fun _ => y) := by
  intro frame left right located located' hadmits htogether hleft hright htoken htoken'
  have hmachines := htogether.machines
  have hnoted {depth depth' : Nat} : Together k tokens tokens' { left with deepestNesting := depth }
      { right with deepestNesting := depth' } :=
    ⟨⟨⟨hmachines.env, hmachines.made, hmachines.calls⟩, hmachines.log⟩, htogether.places⟩
  exact hx frame _ _ located located' hadmits hnoted hleft hright htoken htoken'

private theorem tooNested {token : Token} {located located' : Located}
    (halike : Located.Alike k.spans located located') :
    CorrespondsAt k tokens tokens' token V (tooNested located) (tooNested located') :=
  fun _ _ _ _ _ _ htogether _ _ _ _ => .failed (.atSpan halike.span rfl) htogether.machines

private theorem combine {op op' : Located} {l l' r r' : Value} (hop : Located.Alike k.spans op op')
    (hleft : Value.AlikeBy k.places l l') (hright : Value.AlikeBy k.places r r') :
    Corresponds k tokens tokens' (Value.AlikeBy k.places) (ofExcept (combine op l r))
      (ofExcept (combine op' l' r')) := by
  unfold Eval.combine
  rw [← hleft.operate?_eq _ hright, ← hop.token]
  cases hvalue : Value.operate? op.token.lexeme l r with
  | some value => exact pure (.plain (Value.operate?_ne_function hvalue))
  | none => exact fail (.operands hop hleft hright)

private theorem skipOperand (budget : Nat) :
    Corresponds k tokens tokens' anyResult (skipOperand budget) (skipOperand budget) := by
  induction budget with
  | zero => exact first tooNested
  | succ budget ih =>
    refine first fun halike => noted budget (guards.skipFormBy ?_ (entry _) halike)
    exact expression ih (.skipOperand budget) (.skipOperand budget) (.skipOperand budget) (.skipOperand budget)
      fun _ _ _ => pure trivial

private theorem skipExpression (budget : Nat) :
    Corresponds k tokens tokens' anyResult (skipExpression budget) (skipExpression budget) :=
  expression (skipOperand budget) (.skipOperand budget) (.skipOperand budget) (.skipOperand budget)
    (.skipOperand budget) fun _ _ _ => pure trivial

private theorem evaluate_of_operand {budget : Nat}
    (hoperand : Corresponds k tokens tokens' (Value.AlikeBy k.places) (k.watch.operand budget).unwatched
      (operand budget)) :
    Corresponds k tokens tokens' (Value.AlikeBy k.places)
      (Loop.bounded.expression (k.watch.operand budget) Eval.combine).unwatched (evaluate budget) := by
  have hlevel : Level (operand budget) := (Agrees.operand budget).level (.skipOperand budget)
  rw [Watched.unwatched_expression]
  exact expression hoperand (k.watch.operand_advances budget) (.operand budget) (k.watch.operand_level budget) hlevel
    combine

private theorem operand (budget : Nat) (tokens tokens' : Array Located) :
    Corresponds k tokens tokens' (Value.AlikeBy k.places) (k.watch.operand budget).unwatched (operand budget) := by
  induction budget generalizing tokens tokens' with
  | zero =>
    rw [Watch.operand, Watched.unwatched_bind, Watched.unwatched_liftM]
    exact first fun halike => Watched.unwatched_liftM _ ▸ tooNested halike
  | succ budget ih =>
    intro frame left right hadmits htogether
    rw [Watch.operand, around_of_goesOn rfl]
    simp only [Watched.unwatched_bind, Watched.unwatched_liftM]
    refine first (fun halike => noted budget ?_) frame left right hadmits htogether
    have hadvances : Advances (Loop.bounded.expression (k.watch.operand budget) Eval.combine).unwatched := by
      rw [Watched.unwatched_expression]
      exact .expression (k.watch.operand_level budget) (k.watch.operand_advances budget)
    rw [← Parts.form_of]
    exact (binds budget hadvances (.evaluate budget) (fun tokens tokens' => evaluate_of_operand (ih tokens tokens'))
      (skipExpression budget)).form (entry _).unwatched halike

private theorem programFrom {inner inner' : Eval Value}
    (hinner : Corresponds k tokens tokens' (Value.AlikeBy k.places) inner inner') (rounds : Nat) {last last' : Value}
    (hlast : Value.AlikeBy k.places last last') :
    Corresponds k tokens tokens' (Value.AlikeBy k.places) (programFrom inner rounds last)
      (programFrom inner' rounds last') := by
  induction rounds generalizing last last' with
  | zero => exact pure hlast
  | succ rounds ih =>
    exact branch (·.atEnd) (fun hplaces => Cursor.atEnd_eq_of_alike (k.current hplaces)) (pure hlast)
      (bind hinner fun _ _ hvalues => ih hvalues)

private theorem program : Corresponds k tokens tokens' (Value.AlikeBy k.places) k.watch.program.unwatched program := by
  intro frame left right hadmits htogether
  have hevaluate : Corresponds k tokens tokens' (Value.AlikeBy k.places)
    (k.watch.evaluate frame.limits.nesting).unwatched
      (evaluate frame.limits.nesting) := evaluate_of_operand (operand frame.limits.nesting tokens tokens')
  have hadvances : Advances (k.watch.evaluate frame.limits.nesting).unwatched := by
    rw [Watch.evaluate, Watched.unwatched_expression]
    exact .expression (k.watch.operand_level _) (k.watch.operand_advances _)
  have hloop := loop (.programFrom hadvances .nil) (.programFrom (.evaluate frame.limits.nesting) .nil)
    fun rounds => programFrom hevaluate rounds (.plain (by simp))
  rw [Watch.program, Watched.unwatched_bind, Watched.unwatched_liftM]
  simp only [Watched.unwatched_program]
  exact hloop frame left right hadmits htogether

end Corresponds

end Eval

/-- Endings that stand for each other: the same value up to the bodies of functions, or
    the same failure up to its place, on machines that match. -/
inductive Correspondence.Endings (k : Correspondence) :
    Except Error Value × Interpreter → Except Error Value × Interpreter → Prop where
  | ok {v w : Value} {left right : Interpreter} (hvalues : Value.AlikeBy k.places v w)
    (hmachines : Machine.Matches k.places left.machine right.machine) : Endings k (.ok v, left) (.ok w, right)
  | error {error error' : Error} {left right : Interpreter} (herrors : Error.AlikeBy k.spans error error')
    (hmachines : Machine.Matches k.places left.machine right.machine) :
    Endings k (.error error, left) (.error error', right)

namespace Interpreter

/-- Begins a buffer of tokens on a machine that earlier ones have used. -/
def onTokens (tokens : Array Located) (machine : Machine) (limits : Limits) : Interpreter where
  tokens
  limits
  machine := { machine with pos := 0, deepestCall := 0, deepestNesting := 0 }

theorem onMachine_eq_onTokens (source : String) (machine : Machine) (limits : Limits) :
    onMachine source machine limits = onTokens (tokenize source) machine limits := rfl

/-- Where one buffer is read to an end under the watch of a correspondence, the other one
    is too, and the endings stand for each other. -/
theorem ends_of_watched {k : Correspondence} {tokens tokens' : Array Located} {machine : Machine} {limits : Limits}
    {hosts : Hosts} {patience : Nat} {ending : Except Error Value × Interpreter}
    (hbuffers : k.places ⟨tokens, 0⟩ ⟨tokens', 0⟩)
    (hbodies : ∀ name f, machine.env.get? name = some (.function f) → k.places f.body f.body)
    (hadmits : k.Admits hosts) (hwatched : (onTokens tokens machine limits).watched k.watch hosts patience =
      some ending) :
    ∃ ending', (onTokens tokens' machine limits).Ends hosts ending' ∧ k.Endings ending ending' := by
  have hmachines : Machine.Matches k.places (onTokens tokens machine limits).machine
    (onTokens tokens' machine limits).machine :=
    .self hbodies
  have hechoes := Eval.Corresponds.program ((onTokens tokens machine limits).frame hosts patience) _ _ hadmits
    ⟨hmachines, hbuffers⟩
  have hrun : (onTokens tokens' machine limits).run hosts patience = (onTokens tokens' machine limits).report
      (Eval.program { (onTokens tokens machine limits).frame hosts patience with tokens := tokens' }
        (onTokens tokens' machine limits).machine) := rfl
  unfold watched at hwatched
  change report _ (k.watch.program.unwatched
    { (onTokens tokens machine limits).frame hosts patience with tokens } _) = _
    at hwatched
  generalize k.watch.program.unwatched _ _ = outcome at hechoes hwatched
  generalize Eval.program _ _ = outcome' at hechoes hrun
  cases hechoes with
  | done hvalues hafter =>
    cases hwatched
    exact ⟨_, ⟨patience, hrun⟩, .ok hvalues hafter.machines⟩
  | failed herrors hafter =>
    cases hwatched
    exact ⟨_, ⟨patience, hrun⟩, .error herrors hafter⟩
  | unfinished => cases hwatched

end Interpreter

end Rewind
