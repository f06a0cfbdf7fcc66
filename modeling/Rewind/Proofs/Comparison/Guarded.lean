import Mathlib.Data.List.Forall2
import Rewind.Proofs.Comparison
import Rewind.Proofs.Comparison.Parts

namespace Rewind

section Related

variable {α β : Type} {R : α → β → Prop}

theorem rel_getLast? {left : List α} {right : List β} (hlists : List.Forall₂ R left right) :
    Option.Rel R left.getLast? right.getLast? := by
  induction hlists with
  | nil => exact .none
  | @cons a b left right hhead _ ih =>
    rw [List.getLast?_cons, List.getLast?_cons]
    generalize left.getLast? = last at ih ⊢
    generalize right.getLast? = last' at ih ⊢
    cases ih with
    | none => exact .some hhead
    | some hlast => exact .some hlast

theorem rel_getD {left : Option α} {right : Option β} {a : α} {b : β} (hoptions : Option.Rel R left right)
    (hdefaults : R a b) : R (left.getD a) (right.getD b) := by
  cases hoptions with
  | none => exact hdefaults
  | some hvalues => exact hvalues

end Related

/-- Callees that a call treats alike: two functions, the same native, or two
    values that cannot be called. -/
inductive Likeness.Callees (like : Likeness) : Value → Value → Prop where
  | function {f g : Function} (hvalues : like.values (.function f) (.function g)) :
    Callees like (.function f) (.function g)
  | native {host : Native} (hvalues : like.values (.native host) (.native host)) :
    Callees like (.native host) (.native host)
  | neither {v w : Value} (hleft : v.callable = false) (hright : w.callable = false)
    (hvalues : like.values v w) : Callees like v w

/-- Arrays of values that are alike one by one. -/
def Likeness.arrays (like : Likeness) (left right : Array Value) : Prop :=
  List.Forall₂ like.values left.toList right.toList

theorem Likeness.same_arrays {left right : Array Value} (harrays : Likeness.same.arrays left right) :
    left = right := by
  apply Array.toList_inj.1
  exact List.forall₂_eq_eq_eq ▸ harrays

/-- A value that is like itself is treated as such by a call. -/
theorem Likeness.Callees.self {like : Likeness} {v : Value} (hvalues : like.values v v) : like.Callees v v := by
  cases v with
  | function f => exact .function hvalues
  | native host => exact .native hvalues
  | number x => exact .neither rfl rfl hvalues
  | string text => exact .neither rfl rfl hvalues
  | nil => exact .neither rfl rfl hvalues

theorem Likeness.same_callees (v : Value) : Likeness.same.Callees v v := .self rfl

theorem Likeness.arrays.push {like : Likeness} {left right : Array Value} {v w : Value}
    (harrays : like.arrays left right) (hvalues : like.values v w) :
    like.arrays (left.push v) (right.push w) := by
  unfold arrays at *
  rw [Array.toList_push, Array.toList_push]
  exact List.rel_append harrays (.cons hvalues .nil)

private theorem Likeness.arrays.back? {like : Likeness} {left right : Array Value}
    (harrays : like.arrays left right) : Option.Rel like.values left.back? right.back? := by
  rw [← Array.getLast?_toList, ← Array.getLast?_toList]
  exact rel_getLast? harrays

/-- The last values of two arrays are alike, also where a default stands in. -/
theorem Likeness.arrays.back {like : Likeness} {left right : Array Value} {v w : Value}
    (harrays : like.arrays left right) (hvalues : like.values v w) :
    like.values (left.back?.getD v) (right.back?.getD w) :=
  rel_getD harrays.back? hvalues

/-- The function that an event names. -/
def Event.function? : Event → Option Function
  | bound _ (.function f) => some f
  | called f _ => some f
  | defined f => some f
  | _ => none

namespace Eval

section Lifted

variable {m : Type → Type} [Monad m] [MonadLiftT Eval m]

/-- The comparison goes through the loops inside of a list. -/
structure Lists (like : Likeness) (R : Comparison m) : Prop where
  pure : ∀ {α β : Type} {V : α → β → Prop} {a : α} {b : β}, V a b → R V (pure a) (pure b)
  bind : ∀ {α β γ δ : Type} {V : α → β → Prop} {W : γ → δ → Prop} {x : m α} {y : Eval β}
    {f : α → m γ} {g : β → Eval δ}, R V x y → (∀ a b, V a b → R W (f a) (g b)) →
      R W (x >>= f) (y >>= g)
  expectName : R like.names (liftM expectName) expectName
  closing : ∀ {α β : Type} {W : α → β → Prop} {x x' : m α} {y y' : Eval β}, R W x y → R W x' y' →
    R W (liftM cursor >>= fun here => if here.atEnd || here.isPunct ")" then x else x')
      (cursor >>= fun here => if here.atEnd || here.isPunct ")" then y else y')
  comma : ∀ {α β : Type} {W : α → β → Prop} {x x' : m α} {y y' : Eval β}, R W x y → R W x' y' →
    R W (do if (← cursor).isPunct "," then liftM advance >>= fun _ => x else x')
      (do if (← cursor).isPunct "," then advance >>= fun _ => y else y')

end Lifted

namespace Lists

variable {like : Likeness} {R : Comparison Eval}

theorem elementsFrom (hlists : Lists like R) {inner inner' : Eval Value}
    (hinner : R like.values inner inner') (rounds : Nat) {left right : Array Value}
    (harrays : like.arrays left right) :
    R like.arrays (elementsFrom inner rounds left) (elementsFrom inner' rounds right) := by
  induction rounds generalizing left right with
  | zero => exact hlists.pure harrays
  | succ rounds ih =>
    refine hlists.closing (hlists.pure harrays) (hlists.bind hinner fun v w hvalues => ?_)
    have hrest := ih (harrays.push hvalues)
    exact hlists.comma hrest hrest

theorem paramsFrom (hlists : Lists like R) (rounds : Nat) (params : Array String) :
    R Eq (paramsFrom rounds params) (paramsFrom rounds params) := by
  induction rounds generalizing params with
  | zero => exact hlists.pure rfl
  | succ rounds ih =>
    refine hlists.closing (hlists.pure rfl) (hlists.bind hlists.expectName ?_)
    rintro ⟨param, _⟩ ⟨_, _⟩ ⟨rfl, _⟩
    exact hlists.comma (ih _) (hlists.pure rfl)

end Lists

section Lifted

variable {m : Type → Type} [Monad m] [MonadLiftT Eval m]

/-- A keyword is no punctuation. -/
theorem Entry.leads_of_keyword {A R : Comparison m} {token : Token} {keyword : Keyword} (hentry : Entry A R token)
    (hkeyword : token.keyword? = some keyword) : Leads A R := by
  refine hentry.leads fun hkind => ?_
  simp [Token.keyword?, hkind] at hkeyword

theorem Guards.skipFormBy {like : Likeness} {R A : Comparison m} (hguards : Guards like R) {skip : m Unit}
    {skip' : Eval Unit} (hskip : R anyResult skip skip') {located located' : Located}
    (hentry : Entry A R located.token) (halike : Located.Alike like.spans located located') :
    A anyResult (skipFormBy skip located) (skipForm skip' located') := by
  have hsemicolon := @hguards.expectPunct ";" (by decide) (by decide)
  have hequals := @hguards.expectPunct "=" (by decide) (by decide)
  unfold Eval.skipFormBy Eval.skipForm
  rw [← halike.token]
  cases hkind : located.token.kind with
  | number => exact (hentry.leads (by simp [hkind])).advance
  | string => exact (hentry.leads (by simp [hkind])).advance
  | name =>
    have hleads := hentry.leads (by simp [hkind])
    cases located.token.keyword? with
    | none => exact hleads.advance
    | some keyword =>
      cases keyword with
      | call =>
        exact hleads.bind hleads.advance fun _ _ _ => hguards.bind hguards.expectName fun _ _ _ => hguards.skipList
      | cond =>
        refine hleads.bind hleads.advance fun _ _ _ => hguards.bind hskip fun _ _ _ =>
          hguards.bind hguards.skipList fun _ _ _ => hguards.bind hguards.tryElse ?_
        rintro found _ rfl
        split
        · exact hguards.skipList
        · exact hguards.pure trivial
      | otherwise => exact hleads.advance
      | forLoop =>
        exact hleads.bind hleads.advance fun _ _ _ => hguards.bind hskip fun _ _ _ =>
          hguards.bind hsemicolon fun _ _ _ => hguards.bind hskip fun _ _ _ =>
          hguards.bind hsemicolon fun _ _ _ => hguards.bind hskip fun _ _ _ => hguards.skipList
      | whileLoop =>
        exact hleads.bind hleads.advance fun _ _ _ => hguards.bind hskip fun _ _ _ => hguards.skipList
      | define =>
        exact hleads.bind hleads.advance fun _ _ _ => hguards.bind hguards.expectName fun _ _ _ =>
          hguards.bind hguards.skipList fun _ _ _ => hguards.opening hguards.skipList (hguards.pure trivial)
      | assign =>
        exact hleads.bind hleads.advance fun _ _ _ => hguards.bind hguards.expectName fun _ _ _ =>
          hguards.bind hequals fun _ _ _ => hskip
  | punct =>
    dsimp only
    split
    · exact hentry.free hguards.skipList
    · exact hentry.unexpected _
  | operator => exact hentry.unexpected _

/-- The comparison goes through what a form that is no loop does besides reading its own
    tokens. -/
structure Actions (like : Likeness) (R : Comparison m) (parts : Parts m) (parts' : Parts Eval) : Prop where
  nested : R like.values parts.inner parts'.inner
  list : R like.arrays parts.list parts'.list
  number : ∀ x, like.values (.number x) (.number x)
  string : ∀ text, like.values (.string text) (.string text)
  nil : like.values .nil .nil
  truthy : ∀ {v w : Value}, like.values v w → v.truthy = w.truthy
  callees : ∀ {v w : Value}, like.values v w → like.Callees v w
  lookup : ∀ {name : String} {left right : Span}, like.spans left right →
    R like.values (liftM (lookup name left)) (lookup name right)
  emptyList : ∀ {left right : Span}, like.spans left right →
    R like.values (liftM (failAt left .emptyList : Eval Value)) (failAt right .emptyList)
  notCallable : ∀ (name : String) {v w : Value} {left right : Span}, like.values v w →
    like.spans left right →
      R like.values (liftM (failAt left (.notCallable name v) : Eval Value)) (failAt right (.notCallable name w))
  invoke : ∀ {f g : Function} {left right : Array Value} {here there : Span},
    like.values (.function f) (.function g) → like.arrays left right → like.spans here there →
      R like.values (parts.invoke f left here) (parts'.invoke g right there)
  consult : ∀ {name : String} {host : Native} {left right : Array Value} {here there : Span},
    like.values (.native host) (.native host) → like.arrays left right → like.spans here there →
      R like.values (liftM (consult name host left here)) (consult name host right there)

/-- The comparison goes through what loops do, too. -/
structure Effects (like : Likeness) (R : Comparison m) (parts : Parts m) (parts' : Parts Eval) : Prop
    extends Actions like R parts parts' where
  machine : R (fun left right => like.positions left.pos right.pos) (liftM machine) machine
  rewind : ∀ {left right : Nat}, like.positions left right → R anyResult (liftM (rewind left)) (rewind right)
  frame : R (fun left right => like.patience left.patience right.patience) (liftM frame) frame
  oneMore : ∀ {n m : Nat}, like.patience (n + 1) m → ∃ k, m = k + 1 ∧ like.patience n k
  giveUp : ∀ {m : Nat} {loop : Nat → Eval Value}, like.patience 0 m → loop 0 = giveUp →
    R like.values (liftM (giveUp : Eval Value)) (loop m)
  record : ∀ {event}, event.function? = none →
    R anyResult (liftM (update (·.record event))) (update (·.record event))

/-- The comparison goes through every form that is put together from the parts, but for
    loops, and for definitions and assignments, which bind a name. -/
structure Straight (like : Likeness) (R : Comparison m) (parts : Parts m) (parts' : Parts Eval) : Prop
    extends Guards like R, Actions like R parts parts'

namespace Straight

variable {like : Likeness} {R A : Comparison m} {parts : Parts m} {parts' : Parts Eval}

theorem call (hstraight : Straight like R parts parts') (hleads : Leads A R) :
    A like.values parts.call parts'.call := by
  refine hleads.bind hleads.advance fun _ _ _ => hstraight.bind hstraight.expectName ?_
  rintro ⟨name, here⟩ ⟨_, there⟩ ⟨rfl, hspans⟩
  refine hstraight.bind (hstraight.lookup hspans) fun v w hvalues => ?_
  cases hstraight.callees hvalues with
  | function hfunctions =>
    exact hstraight.bind hstraight.list fun left right harrays => hstraight.invoke hfunctions harrays hspans
  | native hnatives =>
    exact hstraight.bind hstraight.list fun left right harrays => hstraight.consult hnatives harrays hspans
  | neither hleft hright hvalues =>
    have hfail := hstraight.notCallable name hvalues hspans
    cases v <;> cases w <;> first | exact hfail | simp [Value.callable] at hleft hright

theorem conditional (hstraight : Straight like R parts parts') (hleads : Leads A R) :
    A like.values parts.conditional parts'.conditional := by
  refine hleads.bind hleads.advance fun _ _ _ => hstraight.bind hstraight.nested fun v w hvalues => ?_
  rw [hstraight.truthy hvalues]
  split
  · refine hstraight.bind hstraight.list fun left right harrays => hstraight.bind hstraight.tryElse ?_
    rintro found _ rfl
    have hlast := hstraight.pure (harrays.back (hstraight.number 0))
    split
    · exact hstraight.bind hstraight.skipList fun _ _ _ => hlast
    · exact hlast
  · refine hstraight.bind hstraight.skipList fun _ _ _ => hstraight.bind hstraight.tryElse ?_
    rintro found _ rfl
    split
    · exact hstraight.bind hstraight.list fun left right harrays =>
        hstraight.pure (harrays.back (hstraight.number 0))
    · exact hstraight.pure (hstraight.number 0)

theorem define (hstraight : Straight like R parts parts') (hleads : Leads A R)
    (hparams : R Eq parts.params parts'.params)
    (hbody : ∀ (name : String) (params : List String),
      R anyResult (liftM (takeBody name params)) (takeBody name params)) :
    A like.values parts.define parts'.define := by
  refine hleads.bind hleads.advance fun _ _ _ => hstraight.bind hstraight.expectName ?_
  rintro ⟨name, _⟩ ⟨_, _⟩ ⟨rfl, _⟩
  refine hstraight.bind hparams ?_
  rintro params _ rfl
  exact hstraight.bind (hbody name params.toList) fun _ _ _ => hstraight.pure hstraight.nil

theorem assign (hstraight : Straight like R parts parts') (hleads : Leads A R)
    (hbound : ∀ (name : String) {v w : Value}, like.values v w →
      R anyResult (liftM (update (·.bind name v))) (update (·.bind name w))) :
    A like.values parts.assign parts'.assign := by
  refine hleads.bind hleads.advance fun _ _ _ => hstraight.bind hstraight.expectName ?_
  rintro ⟨name, _⟩ ⟨_, _⟩ ⟨rfl, _⟩
  exact hstraight.bind (hstraight.expectPunct (by decide) (by decide)) fun _ _ _ =>
    hstraight.bind hstraight.nested fun _ _ hvalues =>
    hstraight.bind (hbound name hvalues) fun _ _ _ => hstraight.pure hstraight.nil

/-- One form inside out: what holds of the expressions in it holds of the form. -/
theorem form (hstraight : Straight like R parts parts') {located located' : Located}
    (hentry : Entry A R located.token) (halike : Located.Alike like.spans located located')
    (hfor : located.token.keyword? = some .forLoop → A like.values parts.forLoop parts'.forLoop)
    (hwhile : located.token.keyword? = some .whileLoop → A like.values parts.whileLoop parts'.whileLoop)
    (hdefine : located.token.keyword? = some .define → A like.values parts.define parts'.define)
    (hassign : located.token.keyword? = some .assign → A like.values parts.assign parts'.assign) :
    A like.values (parts.form located) (parts'.form located') := by
  unfold Parts.form
  rw [← halike.token]
  split
  · rename_i hkind
    have hleads := hentry.leads (by simp [hkind])
    exact hleads.bind hleads.advance fun _ _ _ => hstraight.pure (hstraight.number _)
  · rename_i hkind
    have hleads := hentry.leads (by simp [hkind])
    exact hleads.bind hleads.advance fun _ _ _ => hstraight.pure (hstraight.string _)
  · rename_i hkind
    have hleads := hentry.leads (by simp [hkind])
    split
    · exact hstraight.call hleads
    · exact hstraight.conditional hleads
    · rename_i hkeyword
      exact hfor hkeyword
    · rename_i hkeyword
      exact hwhile hkeyword
    · rename_i hkeyword
      exact hdefine hkeyword
    · rename_i hkeyword
      exact hassign hkeyword
    · exact hleads.bind hleads.advance fun _ _ _ => hstraight.lookup halike.span
    · exact hleads.bind hleads.advance fun _ _ _ => hstraight.lookup halike.span
  · split
    · refine hentry.free (hstraight.bind hstraight.list fun left right harrays => ?_)
      have hback := harrays.back?
      generalize left.back? = l at hback ⊢
      generalize right.back? = r at hback ⊢
      cases hback with
      | none => exact hstraight.emptyList halike.span
      | some hlast => exact hstraight.pure hlast
    · exact hentry.unexpected _
  · exact hentry.unexpected _

end Straight

/-- The comparison goes through every form that is put together from the parts. Only
    definitions and assignments, which bind a name, are left to be shown. -/
structure Guarded (like : Likeness) (R : Comparison m) (parts : Parts m) (parts' : Parts Eval) : Prop
    extends Straight like R parts parts', Effects like R parts parts' where
  passed : R anyResult parts.skip parts'.skip

namespace Guarded

variable {like : Likeness} {R A : Comparison m} {parts : Parts m} {parts' : Parts Eval}

private theorem forRounds (hguarded : Guarded like R parts parts') {start start' : Nat}
    (hstart : like.positions start start') {patience patience' : Nat}
    (hpatience : like.patience patience patience') (iterations : Nat) {last last' : Value}
    (hlast : like.values last last') :
    R like.values (parts.forRounds start patience iterations last)
      (parts'.forRounds start' patience' iterations last') := by
  have hsemicolon := @hguarded.expectPunct ";" (by decide) (by decide)
  induction patience generalizing patience' iterations last last' with
  | zero =>
    exact @hguarded.giveUp patience' (fun patience => parts'.forRounds start' patience iterations last') hpatience rfl
  | succ patience ih =>
    obtain ⟨patience', rfl, hless⟩ := hguarded.oneMore hpatience
    refine hguarded.bind hguarded.nested fun v w hvalues => hguarded.bind hsemicolon fun _ _ _ => ?_
    rw [hguarded.truthy hvalues]
    split
    · refine hguarded.bind hguarded.nested fun _ _ _ => hguarded.bind hguarded.list fun left right harrays => ?_
      refine hguarded.bind (hguarded.rewind hstart) fun _ _ _ => ?_
      exact ih hless _ (harrays.back hguarded.nil)
    · exact hguarded.bind hguarded.passed fun _ _ _ => hguarded.bind hguarded.skipList fun _ _ _ =>
        hguarded.bind (hguarded.record rfl) fun _ _ _ => hguarded.pure hlast

theorem forLoop (hguarded : Guarded like R parts parts') (hleads : Leads A R) :
    A like.values parts.forLoop parts'.forLoop :=
  hleads.bind hleads.advance fun _ _ _ => hguarded.bind hguarded.nested fun _ _ _ =>
    hguarded.bind (hguarded.expectPunct (by decide) (by decide)) fun _ _ _ =>
    hguarded.bind hguarded.machine fun _ _ hstart => hguarded.bind hguarded.frame fun _ _ hpatience =>
    hguarded.forRounds hstart hpatience 0 hguarded.nil

private theorem whileRounds (hguarded : Guarded like R parts parts') {start start' : Nat}
    (hstart : like.positions start start') {patience patience' : Nat}
    (hpatience : like.patience patience patience') (iterations : Nat) {last last' : Value}
    (hlast : like.values last last') :
    R like.values (parts.whileRounds start patience iterations last)
      (parts'.whileRounds start' patience' iterations last') := by
  induction patience generalizing patience' iterations last last' with
  | zero =>
    exact @hguarded.giveUp patience' (fun patience => parts'.whileRounds start' patience iterations last') hpatience rfl
  | succ patience ih =>
    obtain ⟨patience', rfl, hless⟩ := hguarded.oneMore hpatience
    refine hguarded.bind hguarded.nested fun v w hvalues => ?_
    rw [hguarded.truthy hvalues]
    split
    · refine hguarded.bind hguarded.list fun left right harrays => ?_
      refine hguarded.bind (hguarded.rewind hstart) fun _ _ _ => ?_
      exact ih hless _ (harrays.back hguarded.nil)
    · exact hguarded.bind hguarded.skipList fun _ _ _ => hguarded.bind (hguarded.record rfl) fun _ _ _ =>
        hguarded.pure hlast

theorem whileLoop (hguarded : Guarded like R parts parts') (hleads : Leads A R) :
    A like.values parts.whileLoop parts'.whileLoop :=
  hleads.bind hleads.advance fun _ _ _ => hguarded.bind hguarded.machine fun _ _ hstart =>
    hguarded.bind hguarded.frame fun _ _ hpatience => hguarded.whileRounds hstart hpatience 0 hguarded.nil

theorem form (hguarded : Guarded like R parts parts') {located located' : Located}
    (hentry : Entry A R located.token) (halike : Located.Alike like.spans located located')
    (hdefine : located.token.keyword? = some .define → A like.values parts.define parts'.define)
    (hassign : located.token.keyword? = some .assign → A like.values parts.assign parts'.assign) :
    A like.values (parts.form located) (parts'.form located') :=
  hguarded.toStraight.form hentry halike (fun hkeyword => hguarded.forLoop (hentry.leads_of_keyword hkeyword))
    (fun hkeyword => hguarded.whileLoop (hentry.leads_of_keyword hkeyword)) hdefine hassign

end Guarded

/-- The comparison goes through what binds a name, too, whatever the name is. -/
structure Binds (like : Likeness) (R : Comparison m) (parts : Parts m) (parts' : Parts Eval) : Prop
    extends Guarded like R parts parts' where
  params : R Eq parts.params parts'.params
  body : ∀ (name : String) (params : List String), R anyResult (liftM (takeBody name params)) (takeBody name params)
  bound : ∀ (name : String) {v w : Value}, like.values v w →
    R anyResult (liftM (update (·.bind name v))) (update (·.bind name w))

theorem Binds.form {like : Likeness} {R A : Comparison m} {parts : Parts m} {parts' : Parts Eval}
    (hbinds : Binds like R parts parts') {located located' : Located} (hentry : Entry A R located.token)
    (halike : Located.Alike like.spans located located') :
    A like.values (parts.form located) (parts'.form located') := by
  exact hbinds.toGuarded.form hentry halike
    (fun hkeyword => hbinds.define (hentry.leads_of_keyword hkeyword) hbinds.params hbinds.body)
    (fun hkeyword => hbinds.assign (hentry.leads_of_keyword hkeyword) hbinds.bound)

end Lifted

end Eval

end Rewind
