import Rewind.Proofs.Comparison.Guarded

namespace Rewind.Eval

/-- The comparison goes through every form around the computations `inner` and
    `inner'` of an expression and `skip` and `skip'` that move past one. -/
structure Forms (like : Likeness) (R : Comparison Eval) (inner inner' : Eval Value)
    (skip skip' : Eval Unit) : Prop extends Steps like R, Effects like R (.of inner skip) (.of inner' skip') where
  passed : R anyResult skip skip'
  params : R Eq (do paramsFrom (← rounds) #[]) (do paramsFrom (← rounds) #[])
  defined : ∀ (name : String) (params : List String) {left right : Cursor}, like.cursors left right →
    R anyResult (update (·.define name params left)) (update (·.define name params right))
  bound : ∀ (name : String) {v w : Value}, like.values v w →
    R anyResult (update (·.bind name v)) (update (·.bind name w))

namespace Steps

variable {like : Likeness} {R : Comparison Eval}

/-- Both sides end a list, or the program, at the same token. -/
private theorem closing_eq (hsteps : Steps like R) {left right : Cursor} (hcursors : like.cursors left right) :
    (left.atEnd || left.isPunct ")") = (right.atEnd || right.isPunct ")") := by
  rw [Cursor.atEnd_eq_of_alike (hsteps.current hcursors), hsteps.isPunct_eq ")" hcursors]

theorem lists (hsteps : Steps like R) : Lists like R where
  pure := hsteps.pure
  bind := hsteps.bind
  expectName := hsteps.expectName
  closing hyes hno := hsteps.branch (fun here => here.atEnd || here.isPunct ")") hsteps.closing_eq hyes hno
  comma hyes hno := hsteps.branch (·.isPunct ",") (hsteps.isPunct_eq ",")
    (hsteps.bind hsteps.advance fun _ _ _ => hyes) hno

theorem elementsFrom (hsteps : Steps like R) {inner inner' : Eval Value}
    (hinner : R like.values inner inner') (rounds : Nat) {left right : Array Value}
    (harrays : like.arrays left right) :
    R like.arrays (elementsFrom inner rounds left) (elementsFrom inner' rounds right) :=
  hsteps.lists.elementsFrom hinner rounds harrays

theorem paramsFrom (hsteps : Steps like R) (rounds : Nat) (params : Array String) :
    R Eq (paramsFrom rounds params) (paramsFrom rounds params) :=
  hsteps.lists.paramsFrom rounds params

theorem between (hsteps : Steps like R) {α β : Type} {V : α → β → Prop} {x : Eval α} {y : Eval β}
    (hinside : R V x y) : R V (between x) (between y) :=
  hsteps.bind (hsteps.expectPunct _) fun _ _ _ => hsteps.bind hinside fun _ _ hresults =>
    hsteps.bind (hsteps.expectPunct _) fun _ _ _ => hsteps.pure hresults

theorem skipForm (hsteps : Steps like R) {skip skip' : Eval Unit} (hskip : R anyResult skip skip')
    {located located' : Located} (halike : Located.Alike like.spans located located') :
    R anyResult (skipForm skip located) (skipForm skip' located') :=
  hsteps.guards.skipFormBy hskip (hsteps.entry _) halike

end Steps

namespace Walks

variable {like : Likeness} {R : Comparison Eval}

theorem list (hwalks : Walks like R) {inner inner' : Eval Value} (hinner : R like.values inner inner') :
    R like.arrays (list inner) (list inner') := by
  rw [list_eq_between, list_eq_between]
  refine hwalks.between (hwalks.bind hwalks.rounds ?_)
  rintro rounds _ rfl
  exact hwalks.elementsFrom hinner rounds .nil

theorem params (hwalks : Walks like R) :
    R Eq (do Eval.paramsFrom (← Eval.rounds) #[]) (do Eval.paramsFrom (← Eval.rounds) #[]) := by
  refine hwalks.bind hwalks.rounds ?_
  rintro rounds _ rfl
  exact hwalks.paramsFrom rounds #[]

end Walks

namespace Forms

variable {like : Likeness} {R : Comparison Eval} {inner inner' : Eval Value} {skip skip' : Eval Unit}

theorem binds (hforms : Forms like R inner inner' skip skip') :
    Binds like R (.of inner skip) (.of inner' skip') where
  toGuards := hforms.guards
  toEffects := hforms.toEffects
  passed := hforms.passed
  params := hforms.between hforms.params
  body name params := by
    change R anyResult (takeBody name params) (takeBody name params)
    refine hforms.bind hforms.cursor fun left right hcursors => ?_
    rw [hforms.isPunct_eq "(" hcursors]
    have hdefined := hforms.defined name params hcursors
    split
    · exact hforms.bind hforms.skipList fun _ _ _ => hdefined
    · exact hdefined
  bound := hforms.bound

theorem call (hforms : Forms like R inner inner' skip skip') : R like.values (call inner) (call inner') :=
  hforms.binds.call hforms.leads

theorem conditional (hforms : Forms like R inner inner' skip skip') :
    R like.values (conditional inner) (conditional inner') :=
  hforms.binds.conditional hforms.leads

theorem forLoop (hforms : Forms like R inner inner' skip skip') :
    R like.values (forLoop inner skip) (forLoop inner' skip') := by
  rw [← Parts.forLoop_of, ← Parts.forLoop_of]
  exact hforms.binds.forLoop hforms.leads

theorem whileLoop (hforms : Forms like R inner inner' skip skip') :
    R like.values (whileLoop inner) (whileLoop inner') := by
  rw [← Parts.whileLoop_of inner skip, ← Parts.whileLoop_of inner' skip']
  exact hforms.binds.whileLoop hforms.leads

theorem define (hforms : Forms like R inner inner' skip skip') : R like.values define define := by
  have hdefine := hforms.binds.define hforms.leads hforms.binds.params hforms.binds.body
  rw [Parts.define_of, Parts.define_of] at hdefine
  exact hdefine

theorem assign (hforms : Forms like R inner inner' skip skip') :
    R like.values (assign inner) (assign inner') :=
  hforms.binds.assign hforms.leads hforms.bound

/-- One form inside out: what holds of the expressions in it holds of the form. -/
theorem form (hforms : Forms like R inner inner' skip skip') {located located' : Located}
    (halike : Located.Alike like.spans located located') :
    R like.values (form inner skip located) (form inner' skip' located') := by
  rw [← Parts.form_of, ← Parts.form_of]
  exact hforms.binds.form (hforms.entry _) halike

theorem programFrom (hforms : Forms like R inner inner' skip skip') (rounds : Nat) {last last' : Value}
    (hlast : like.values last last') :
    R like.values (programFrom inner rounds last) (programFrom inner' rounds last') := by
  induction rounds generalizing last last' with
  | zero => exact hforms.pure hlast
  | succ rounds ih =>
    exact hforms.branch (·.atEnd) (fun hcursors => Cursor.atEnd_eq_of_alike (hforms.current hcursors))
      (hforms.pure hlast) (hforms.bind hforms.nested fun _ _ hvalues => ih hvalues)

end Forms

end Rewind.Eval
