import Rewind.Proofs.Parallel.Region

namespace Rewind

/-- Outcomes that stand for each other still do when both sides come back to positions
    that do. -/
private theorem Outcome.Matched.rewound {α β : Type} {V : α → β → Prop} {outcome : Outcome α} {outcome' : Outcome β}
    {h : Alignment} {l r : Nat} (hmatched : Matched False V Machine.Alike outcome outcome')
    (hpaired : h.paired l r) :
    Matched h.oneWay V (Eval.Aligned h) (outcome.rewound l) (outcome'.rewound r) := by
  cases hmatched with
  | done hresults hmachines => exact .done hresults ⟨hmachines.moved l r, hpaired⟩
  | failed hmachines => exact .failed (hmachines.moved l r)
  | unfinished => exact .unfinished
  | lost hway _ => exact hway.elim

namespace Eval

/-- What a form evaluates an expression with. Over any two buffers it does the same, and
    wherever it succeeds it has moved on, past as many opening parentheses as closing
    ones. -/
structure Nested (inner : Eval Value) : Prop where
  parallel : ∀ h, Parallel h Value.Alike inner inner
  advances : Advances inner
  level : Level inner

namespace Parallel

variable {h : Alignment}

section Forms

variable {inner : Eval Value} {skip : Eval Unit}

/-- The elements of a list, with what evaluates each of them. -/
private theorem elements (hinner : Nested inner) (hboth : ¬ h.oneWay) :
    Parallel h (likeness h).arrays (do elementsFrom inner (← rounds) #[]) (do elementsFrom inner (← rounds) #[]) :=
  loop (.elementsFrom hinner.advances #[]) (.elementsFrom hinner.advances #[]) fun rounds =>
    (lists hboth).elementsFrom (hinner.parallel h) rounds .nil

private theorem list (hinner : Nested inner) : Parallel h (likeness h).arrays (list inner) (list inner) := by
  rw [list_eq_between]
  refine between (fun _ hboth => elements hinner hboth) ?_
  exact Level.rounds.bind fun rounds => Agrees.elementsFrom_level hinner.level rounds #[]

private theorem header : Parallel h Eq (Eval.between do paramsFrom (← rounds) #[])
    (Eval.between do paramsFrom (← rounds) #[]) :=
  between
    (fun _ hboth => loop (.paramsFrom #[]) (.paramsFrom #[]) fun rounds => (lists hboth).paramsFrom rounds #[])
    (Level.rounds.bind fun rounds => Agrees.paramsFrom_level rounds #[])

/-- Bodies that begin alike are evaluated alike. -/
private theorem list_of_bodies (hinner : Nested inner) (frame : Frame) {left right : Machine}
    (halike : left.Alike right) {body body' : Cursor} (hbodies : body.Alike body') :
    Outcome.Matched False (likeness h).arrays Machine.Alike
      (Eval.list inner { frame with tokens := body.tokens } { left with pos := body.pos })
      (Eval.list inner { frame with tokens := body'.tokens } { right with pos := body'.pos }) := by
  cases hbodies with
  | whole hsame =>
    have hlist := list (h := .whole body.tokens body'.tokens) hinner frame
      { left with pos := body.pos } { right with pos := body'.pos } ⟨halike.moved _ _, hsame⟩
    exact hlist.mono Aligned.alike
  | list hopen hopen' hclose hsame =>
    rw [list_eq_between]
    exact (between_of_region (fun _ hboth => elements hinner hboth) frame (halike.moved body.pos body'.pos)
      hopen hopen' hclose hsame).mono And.left
  | neither hopen hopen' =>
    rw [list_eq_between, between_of_not_open hopen, between_of_not_open hopen']
    exact .failed (halike.moved _ _)

private theorem callees {v w : Value} (halike : v.Alike w) : (likeness h).Callees v w := by
  cases v with
  | function f =>
    obtain ⟨g, rfl, _⟩ := halike.exists_function
    exact .function halike
  | number | string | native | nil =>
    obtain rfl := halike.eq_of_ne_function (by simp)
    exact .self halike

private theorem lookup (name : String) (here there : Span) :
    Parallel h Value.Alike (lookup name here) (lookup name there) := by
  intro frame left right haligned
  have hbound := haligned.alike.env name
  unfold Eval.lookup
  generalize left.env.get? name = found at hbound ⊢
  generalize right.env.get? name = found' at hbound ⊢
  cases hbound with
  | none => exact .failed haligned.alike
  | some hvalues => exact .done hvalues haligned

private theorem invoke (hinner : Nested inner)
    {f g : Function} {arguments arguments' : Array Value} (hfunctions : (Value.function f).Alike (.function g))
    (harguments : (likeness h).arrays arguments arguments') (here there : Span) :
    Parallel h Value.Alike (invoke inner f arguments here) (invoke inner g arguments' there) := by
  intro frame left right haligned
  obtain ⟨_, heq, _, _, hparams, hbodies⟩ := hfunctions.exists_function
  cases heq
  rw [invoke_apply, invoke_apply]
  dsimp only
  split
  · exact .failed haligned.alike
  · have hbound := (((haligned.alike.record (.called f arguments.size) (.called g arguments'.size)).bindAll f.params
      harguments)).entering f.body g.body frame.depth
    have hlist := list_of_bodies (h := h) hinner { frame with depth := frame.depth + 1 } hbound hbodies
    rw [← hparams]
    exact (hlist.rewound haligned.paired).map fun harrays => harrays.back (.refl .nil)

private theorem consult {name : String} {host : Native} {arguments arguments' : Array Value}
    (harguments : (likeness h).arrays arguments arguments') (here there : Span) :
    Parallel h Value.Alike (consult name host arguments here) (consult name host arguments' there) := by
  intro frame left right haligned
  rcases Value.AlikeBy.handed harguments with ⟨code, rest, rest', hstring, hstring'⟩ | ⟨hnone, hnone'⟩
  · rw [consult_of_string hstring, consult_of_string hstring']
    have hconsulted {frame frame' : Frame} :
        Aligned h (consulted host code frame left) (consulted host code frame' right) :=
      ⟨haligned.alike.consulted host code _ _, by simpa using haligned.paired⟩
    dsimp only
    rw [haligned.alike.earlier_eq]
    split
    · exact .done (.refl _) hconsulted
    · exact .failed hconsulted.alike
  · rw [consult_of_not_string hnone, consult_of_not_string hnone']
    exact .failed haligned.alike

private theorem effects (hinner : Nested inner) :
    Effects (likeness h) (Parallel h) (.of inner skip) (.of inner skip) where
  nested := hinner.parallel h
  list := list hinner
  number _ := .refl _
  string _ := .refl _
  nil := .refl _
  truthy := Value.AlikeBy.truthy
  callees := callees
  lookup _ := lookup _ _ _
  emptyList _ := fail
  notCallable _ _ _ _ _ _ _ := fail
  invoke hfunctions harguments _ := invoke hinner hfunctions harguments _ _
  consult _ harguments _ := consult harguments _ _
  machine := fun _ _ _ haligned => .done haligned.paired haligned
  rewind hpositions := fun _ _ _ haligned => .done trivial ⟨haligned.alike.moved _ _, hpositions⟩
  frame := fun _ _ _ haligned => .done rfl haligned
  oneMore hpatience := ⟨_, Eq.symm hpatience, rfl⟩
  giveUp hpatience hloop := by
    cases hpatience
    rw [hloop]
    exact fun _ _ _ _ => .unfinished
  record _ := update (fun _ => rfl) (fun _ => rfl) fun halike => halike.record _ _

private theorem binds (hinner : Nested inner) (hskip : Parallel h anyResult skip skip) :
    Binds (likeness h) (Parallel h) (.of inner skip) (.of inner skip) where
  toGuards := guards
  toEffects := effects hinner
  passed := hskip
  params := header
  body := takeBody
  bound name _ _ hvalues := update (fun _ => rfl) (fun _ => rfl) fun halike => halike.bind name hvalues

end Forms

section Expressions

variable {α β : Type} {V : α → β → Prop} {item : Eval α} {item' : Eval β}
  {combine : Located → α → α → Except Error α} {combine' : Located → β → β → Except Error β}

private theorem chain (tier : Tier) (hitem : Parallel h V item item') (hmoves : Advances item)
    (hmoves' : Advances item')
    (hcombine : ∀ {op op' l l' r r'}, Located.Alike (likeness h).spans op op' → V l l' → V r r' →
      Parallel h V (ofExcept (combine op l r)) (ofExcept (combine' op' l' r'))) :
    Parallel h V (chain tier item combine) (chain tier item' combine') :=
  bind hitem fun first first' hfirst => loop (.chainFrom hmoves first) (.chainFrom hmoves' first') fun rounds =>
    guards.chainFrom tier hitem hcombine rounds hfirst

private theorem expression (hitem : Parallel h V item item') (hmoves : Advances item) (hmoves' : Advances item')
    (hlevel : Level item) (hlevel' : Level item')
    (hcombine : ∀ {op op' l l' r r'}, Located.Alike (likeness h).spans op op' → V l l' → V r r' →
      Parallel h V (ofExcept (combine op l r)) (ofExcept (combine' op' l' r'))) :
    Parallel h V (expression item combine) (expression item' combine') :=
  chain .multiplicative (chain .additive hitem hmoves hmoves' hcombine) (.chain hlevel hmoves) (.chain hlevel' hmoves')
    hcombine

end Expressions

/-- Both sides note a level of nesting and stay at the token. -/
private theorem noted {α β : Type} {V : α → β → Prop} {token : Token} {x : Eval α} {y : Eval β} (budget : Nat)
    (hx : ParallelAt h token V x y) :
    ParallelAt h token V (noteNesting budget >>= fun _ => x) (noteNesting budget >>= fun _ => y) := by
  intro frame left right located located' haligned hleft hright htoken htoken'
  have hnoted {depth depth' : Nat} :
      Aligned h { left with deepestNesting := depth } { right with deepestNesting := depth' } :=
    ⟨⟨haligned.alike.env, haligned.alike.made, haligned.alike.calls⟩, haligned.paired⟩
  exact hx frame _ _ located located' hnoted hleft hright htoken htoken'

private theorem tooNested {α β : Type} {V : α → β → Prop} {token : Token} {located located' : Located} :
    ParallelAt h token V (tooNested located) (tooNested located') :=
  fun _ _ _ _ _ haligned _ _ _ _ => .failed haligned.alike

private theorem combine {op op' : Located} {l l' r r' : Value} (hop : Located.Alike (likeness h).spans op op')
    (hleft : l.Alike l') (hright : r.Alike r') :
    Parallel h Value.Alike (ofExcept (combine op l r)) (ofExcept (combine op' l' r')) := by
  unfold Eval.combine
  rw [hleft.operate?_eq _ hright, hop.token]
  cases Value.operate? op'.token.lexeme l' r' with
  | some value => exact pure (.refl value)
  | none => exact fail

private theorem skipOperand (budget : Nat) : Parallel h anyResult (skipOperand budget) (skipOperand budget) := by
  induction budget with
  | zero => exact first fun _ => tooNested
  | succ budget ih =>
    refine first fun halike => noted budget (guards.skipFormBy ?_ (entry _) halike)
    exact expression ih (.skipOperand budget) (.skipOperand budget) (.skipOperand budget) (.skipOperand budget)
      fun _ _ _ => pure trivial

private theorem skipExpression (budget : Nat) : Parallel h anyResult (skipExpression budget) (skipExpression budget) :=
  expression (skipOperand budget) (.skipOperand budget) (.skipOperand budget) (.skipOperand budget)
    (.skipOperand budget) fun _ _ _ => pure trivial

private theorem evaluate_of_operand {budget : Nat}
    (hoperand : Parallel h Value.Alike (operand budget) (operand budget)) :
    Parallel h Value.Alike (evaluate budget) (evaluate budget) := by
  have hlevel : Level (operand budget) := (Agrees.operand budget).level (.skipOperand budget)
  exact expression hoperand (.operand budget) (.operand budget) hlevel hlevel combine

private theorem operand (budget : Nat) : Parallel h Value.Alike (operand budget) (operand budget) := by
  induction budget generalizing h with
  | zero => exact first fun _ => tooNested
  | succ budget ih =>
    refine first fun halike => noted budget ?_
    have hinner : Nested (Eval.evaluate budget) :=
      ⟨fun _ => evaluate_of_operand ih, .evaluate budget, (Agrees.evaluate budget).level (.skipExpression budget)⟩
    rw [← Parts.form_of, ← Parts.form_of]
    exact (binds hinner (skipExpression budget)).form (entry _) halike

theorem evaluate (budget : Nat) : Parallel h Value.Alike (evaluate budget) (evaluate budget) :=
  evaluate_of_operand (operand budget)

end Parallel

section Programs

variable {inner : Eval Value} {frame : Frame} {start : Machine}

theorem program_apply (frame : Frame) (start : Machine) :
    program frame start = programFrom (evaluate frame.limits.nesting) (frame.tokens.size + 1) .nil frame start := rfl

theorem programFrom_of_current {located : Located} (hcurrent : frame.tokens[start.pos]? = some located) (rounds : Nat)
    (last : Value) : programFrom inner (rounds + 1) last frame start =
      (inner >>= programFrom inner rounds) frame start := by
  have hlt : start.pos < frame.tokens.size := (Array.getElem?_eq_some_iff.1 hcurrent).1
  rw [programFrom, bind_apply]
  dsimp only [cursor]
  rw [if_neg (by simp [Cursor.atEnd, hlt])]

theorem programFrom_of_ended (hcurrent : frame.tokens[start.pos]? = none) (rounds : Nat) (last : Value) :
    programFrom inner (rounds + 1) last frame start = .done last start := by
  have hend := Array.getElem?_eq_none_iff.1 hcurrent
  rw [programFrom, bind_apply]
  dsimp only [cursor]
  rw [if_pos (by simp [Cursor.atEnd, hend])]
  rfl

end Programs

namespace Parallel

variable {h : Alignment} {inner : Eval Value}

private theorem programFrom (hboth : ¬ h.oneWay) (hinner : Parallel h Value.Alike inner inner) (rounds : Nat)
    {last last' : Value} (hlast : last.Alike last') :
    Parallel h Value.Alike (programFrom inner rounds last) (programFrom inner rounds last') := by
  induction rounds generalizing last last' with
  | zero => exact pure hlast
  | succ rounds ih =>
    intro frame left right haligned
    cases h.pair haligned.paired with
    | token hleft hright _ =>
      rw [programFrom_of_current hleft, programFrom_of_current hright]
      exact bind hinner (fun _ _ hvalues => ih hvalues) frame left right haligned
    | ended hleft hright =>
      rw [programFrom_of_ended hleft, programFrom_of_ended hright]
      exact .done hlast haligned
    | beyond _ _ hway => exact absurd hway hboth

theorem program (hboth : ¬ h.oneWay) : Parallel h Value.Alike program program := by
  intro frame left right haligned
  have hloop := loop (.programFrom (.evaluate frame.limits.nesting) .nil)
    (.programFrom (.evaluate frame.limits.nesting) .nil)
    fun rounds => programFrom hboth (evaluate frame.limits.nesting) rounds (.refl .nil)
  exact hloop frame left right haligned

/-- What succeeds over all of the left buffer happens over the right one too, which then
    goes on from where the left one ends. -/
theorem programFrom_of_done (hinner : Parallel h Value.Alike inner inner) (hmoves : Advances inner) {rounds : Nat}
    {frame : Frame} {left right after : Machine} {last last' value : Value} (haligned : Aligned h left right)
    (hlast : last.Alike last') (hrounds : h.left.size - left.pos < rounds)
    (hdone : Eval.programFrom inner rounds last { frame with tokens := h.left } left = .done value after) :
    ∃ value' after', value.Alike value' ∧ Aligned h after after' ∧ h.left[after.pos]? = none ∧
      ∀ rounds', h.right.size - right.pos < rounds' →
        Eval.programFrom inner rounds' last' { frame with tokens := h.right } right =
          Eval.programFrom inner rounds' value' { frame with tokens := h.right } after' := by
  induction rounds generalizing left right last last' with
  | zero => cases hrounds
  | succ rounds ih =>
    cases hleft : h.left[left.pos]? with
    | none =>
      rw [programFrom_of_ended hleft] at hdone
      cases hdone
      exact ⟨last', right, hlast, haligned, hleft, fun _ _ => rfl⟩
    | some located =>
      rw [programFrom_of_current hleft] at hdone
      obtain ⟨v, mid, hfirst, hrest⟩ := bind_eq_done_iff.1 hdone
      have hmatched := hinner frame left right haligned
      rw [hfirst] at hmatched
      generalize hright : inner { frame with tokens := h.right } right = outcome' at hmatched
      cases hmatched with
      | lost _ hlost => exact absurd rfl (hlost _ _)
      | @done _ w _ mid' hvalues hmachines =>
        have hlt : left.pos < h.left.size := (Array.getElem?_eq_some_iff.1 hleft).1
        have hmoved : left.pos < mid.pos := hmoves hfirst
        have hmoved' : right.pos < mid'.pos := hmoves hright
        obtain ⟨value', after', hvalue, hafter, hend, hsame⟩ := ih hmachines hvalues (by omega) hrest
        refine ⟨value', after', hvalue, hafter, hend, fun rounds' hrounds' => ?_⟩
        obtain ⟨located', hcurrent', _⟩ := h.current haligned.paired hleft
        have hlt' : right.pos < h.right.size := (Array.getElem?_eq_some_iff.1 hcurrent').1
        obtain ⟨n, rfl⟩ : ∃ n, rounds' = n + 1 := ⟨rounds' - 1, by omega⟩
        have hbound : Eval.programFrom inner n w { frame with tokens := h.right } mid' =
            Eval.programFrom inner (n + 1) w { frame with tokens := h.right } mid' :=
          Settled.programFrom hmoves w (by dsimp only; omega) (by dsimp only; omega)
        rw [programFrom_of_current hcurrent', bind_of_done hright, hbound]
        exact hsame (n + 1) (by omega)

end Parallel

end Eval

end Rewind
