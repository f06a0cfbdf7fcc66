import Rewind.Proofs.Comparison.Guarded
import Rewind.Proofs.Rounds

namespace Rewind.Eval

section Lifted

variable {m : Type → Type} [Monad m] [MonadLiftT Eval m]

/-- The comparison goes through loops over tokens, which may be taken in a way of their
    own. -/
structure Loops (like : Likeness) (R : Comparison m) (loop : Loop m) : Prop extends Guards like R, Lists like R where
  ending : ∀ {α β : Type} {W : α → β → Prop} {x x' : m α} {y y' : Eval β}, R W x y → R W x' y' →
    R W (do if (← cursor).atEnd then x else x') (do if (← cursor).atEnd then y else y')
  take : ∀ {α β : Type} {V : α → β → Prop} {round : α → m (α ⊕ α)} {round' : β → Eval (β ⊕ β)},
    Progresses round' → (∀ a b, V a b → R (Sum.LiftRel V V) (round a) (round' b)) →
      ∀ {a : α} {b : β}, V a b → R V (loop.take round a) (Loop.bounded.take round' b)

/-- The comparison goes through operands, which begin with a look at the first token: `A`
    compares what may come after it. -/
structure Operands (like : Likeness) (R : Comparison m) (A : Token → Comparison m) : Prop where
  first : ∀ {α β : Type} {V : α → β → Prop} {f : Located → m α} {g : Located → Eval β},
    (∀ {located located'}, Located.Alike like.spans located located' → A located.token V (f located) (g located')) →
      R V (liftM firstToken >>= f) (firstToken >>= g)
  noted : ∀ {α β : Type} {V : α → β → Prop} {x : m α} {y : Eval β} (token : Token) (budget : Nat), A token V x y →
    A token V (liftM (noteNesting budget) >>= fun _ => x) (noteNesting budget >>= fun _ => y)
  tooNested : ∀ {α β : Type} {V : α → β → Prop} {located located' : Located},
    Located.Alike like.spans located located' →
      A located.token V (liftM (tooNested located : Eval α)) (tooNested located' : Eval β)
  entry : ∀ token, Entry (A token) R token
  nothing : R anyResult (liftM (Pure.pure () : Eval Unit)) (Pure.pure ())

namespace Loops

variable {like : Likeness} {R : Comparison m} {loop : Loop m}

/-- Loops with the same bound on their rounds. -/
theorem bounded (hguards : Guards like R) (hlists : Lists like R) (hrounds : R Eq (liftM rounds) rounds)
    (hending : ∀ {α β : Type} {W : α → β → Prop} {x x' : m α} {y y' : Eval β}, R W x y → R W x' y' →
      R W (do if (← cursor).atEnd then x else x') (do if (← cursor).atEnd then y else y')) :
    Loops like R .bounded where
  toGuards := hguards
  closing := hlists.closing
  comma := hlists.comma
  ending := hending
  take := by
    intro α β V round round' _ hround a b hab
    refine hguards.bind hrounds ?_
    rintro rounds _ rfl
    induction rounds generalizing a b with
    | zero => exact hguards.pure hab
    | succ rounds ih =>
      refine hguards.bind (hround a b hab) ?_
      rintro _ _ (hnext | hresults)
      · exact ih hnext
      · exact hguards.pure hresults

section Expressions

variable {α β : Type} {V : α → β → Prop} {item : m α} {item' : Eval β} {combine : Located → α → α → Except Error α}
  {combine' : Located → β → β → Except Error β}

theorem chain (hloops : Loops like R loop) {tier : Tier} (hitem : R V item item') (hadvances : Advances item')
    (hcombine : ∀ {op op' l l' r r'}, Located.Alike like.spans op op' → V l l' → V r r' →
      R V (liftM (ofExcept (combine op l r))) (ofExcept (combine' op' l' r'))) :
    R V (loop.chain tier item combine) (chain tier item' combine') := by
  rw [← Loop.chain_bounded]
  refine hloops.bind hitem fun first first' hfirst =>
    hloops.take (.chainRound hadvances) (fun left left' hleft => ?_) hfirst
  refine hloops.operator tier (hloops.pure (.inr hleft)) fun hop => hloops.bind hitem fun right right' hright => ?_
  exact hloops.bind (hcombine hop hleft hright) fun _ _ hvalues => hloops.pure (.inl hvalues)

theorem expression (hloops : Loops like R loop) (hitem : R V item item') (hlevel : Level item')
    (hadvances : Advances item') (hcombine : ∀ {op op' l l' r r'}, Located.Alike like.spans op op' → V l l' → V r r' →
      R V (liftM (ofExcept (combine op l r))) (ofExcept (combine' op' l' r'))) :
    R V (loop.expression item combine) (expression item' combine') :=
  hloops.chain (hloops.chain hitem hadvances hcombine) (.chain hlevel hadvances) hcombine

end Expressions

section Lists

variable {inner : m Value} {inner' : Eval Value}

theorem elements (hloops : Loops like R loop) (hinner : R like.values inner inner') (hadvances : Advances inner') :
    R like.arrays (loop.take (elementRound inner) #[]) (do elementsFrom inner' (← rounds) #[]) := by
  have htake : R like.arrays (loop.take (elementRound inner) #[]) (Loop.bounded.take (elementRound inner') #[]) := by
    refine hloops.take (.elementRound hadvances) (fun values values' hvalues => ?_) .nil
    refine hloops.closing (hloops.pure (.inr hvalues)) (hloops.bind hinner fun value value' hvalue => ?_)
    exact hloops.comma (hloops.pure (.inl (hvalues.push hvalue))) (hloops.pure (.inl (hvalues.push hvalue)))
  simp only [elementsFrom_eq_within]
  exact htake

theorem params (hloops : Loops like R loop) :
    R Eq (loop.take paramRound #[]) (do paramsFrom (← rounds) #[]) := by
  have htake : R Eq (loop.take paramRound #[]) (Loop.bounded.take paramRound #[]) := by
    refine hloops.take .paramRound ?_ rfl
    rintro params _ rfl
    refine hloops.closing (hloops.pure (.inr rfl)) (hloops.bind hloops.expectName ?_)
    rintro ⟨param, _⟩ ⟨_, _⟩ ⟨rfl, _⟩
    exact hloops.comma (hloops.pure (.inl rfl)) (hloops.pure (.inr rfl))
  simp only [paramsFrom_eq_within]
  exact htake

theorem program (hloops : Loops like R loop) (hinner : R like.values inner inner') (hadvances : Advances inner')
    (hnil : like.values .nil .nil) :
    R like.values (loop.program inner) (do programFrom inner' (← rounds) .nil) := by
  rw [← Loop.program_bounded]
  refine hloops.take (.programRound hadvances) (fun last last' hlast => ?_) hnil
  exact hloops.ending (hloops.pure (.inr hlast)) (hloops.bind hinner fun _ _ hvalues => hloops.pure (.inl hvalues))

end Lists

section Skipping

variable {A : Token → Comparison m}

private theorem skipOperand (hloops : Loops like R loop) (hoperands : Operands like R A) (budget : Nat) :
    R anyResult (loop.skipOperand budget) (skipOperand budget) := by
  induction budget with
  | zero => exact hoperands.first hoperands.tooNested
  | succ budget ih =>
    refine hoperands.first fun halike => hoperands.noted _ budget ?_
    refine hloops.skipFormBy ?_ (hoperands.entry _) halike
    exact hloops.expression ih (.skipOperand budget) (.skipOperand budget) fun _ _ _ => hoperands.nothing

theorem skipExpression (hloops : Loops like R loop) (hoperands : Operands like R A) (budget : Nat) :
    R anyResult (loop.skipExpression budget) (skipExpression budget) :=
  hloops.expression (hloops.skipOperand hoperands budget) (.skipOperand budget) (.skipOperand budget) fun _ _ _ =>
    hoperands.nothing

end Skipping

end Loops

end Lifted

/-- Through the steps by which tokens are read, and the loops. -/
theorem Loops.of_steps {like : Likeness} {R : Comparison Eval} {loop : Loop Eval} (hsteps : Steps like R)
    (htake : ∀ {α β : Type} {V : α → β → Prop} {round : α → Eval (α ⊕ α)} {round' : β → Eval (β ⊕ β)},
      Progresses round' → (∀ a b, V a b → R (Sum.LiftRel V V) (round a) (round' b)) →
        ∀ {a : α} {b : β}, V a b → R V (loop.take round a) (Loop.bounded.take round' b)) :
    Loops like R loop where
  toGuards := hsteps.guards
  closing := hsteps.lists.closing
  comma := hsteps.lists.comma
  ending := hsteps.branch (·.atEnd) fun hcursors => Cursor.atEnd_eq_of_alike (hsteps.current hcursors)
  take := htake

end Rewind.Eval
