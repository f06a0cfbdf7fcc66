import Mathlib.Data.List.Forall2
import Rewind.Proofs.Alignment
import Rewind.Proofs.Step

namespace Rewind

/-- The bodies of two functions begin alike. -/
inductive Cursor.Alike (left right : Cursor) : Prop where
  /-- Everything that follows is the same. -/
  | whole (hsame : ∀ n, SameTokens left.tokens right.tokens left.pos right.pos n)
  /-- The same list stands there. -/
  | list {n : Nat} (hopen : left.isPunct "(" = true) (hopen' : right.isPunct "(" = true)
    (hclose : Eval.closeFrom left.tokens (left.pos + 1) 0 = some (left.pos + 1 + n))
    (hsame : SameTokens left.tokens right.tokens (left.pos + 1) (right.pos + 1) n)
  /-- No list stands there. -/
  | neither (hleft : left.isPunct "(" = false) (hright : right.isPunct "(" = false)

private theorem Cursor.Alike.refl (cursor : Cursor) : cursor.Alike cursor := .whole fun _ => .refl _ _ _

/-- The value, but for where the body of a function begins. -/
def Value.outline : Value → Value
  | function f => function { f with body := ⟨#[], 0⟩ }
  | value => value

namespace Value

private theorem truthy_outline (value : Value) : value.outline.truthy = value.truthy := by
  cases value <;> rfl

/-- No operator looks at the body of a function. -/
private theorem operate?_outline (operator : String) (left right : Value) :
    operate? operator left.outline right.outline = operate? operator left right := by
  cases left <;> cases right <;> rfl

/-- What an operator yields is no function. -/
theorem operate?_ne_function {operator : String} {left right value : Value}
    (hvalue : operate? operator left right = some value) (f : Function) : value ≠ .function f := by
  rintro rfl
  unfold operate? at hvalue
  split at hvalue
  · obtain ⟨_, _, heq⟩ := Option.map_eq_some_iff.1 hvalue
    cases heq
  · split at hvalue <;> cases hvalue
  · split at hvalue <;> cases hvalue
  · cases hvalue

/-- The same value, but for where the bodies of functions begin. These are related. -/
structure AlikeBy (bodies : Cursor → Cursor → Prop) (left right : Value) : Prop where
  outline : left.outline = right.outline
  bodies : ∀ {f g}, left = .function f → right = .function g → bodies f.body g.body

/-- The same value, but for where the bodies of functions begin, which they do alike. -/
abbrev Alike : Value → Value → Prop := AlikeBy Cursor.Alike

namespace AlikeBy

variable {bodies : Cursor → Cursor → Prop} {v w : Value}

theorem self {value : Value} (hbody : ∀ f, value = .function f → bodies f.body f.body) :
    AlikeBy bodies value value where
  outline := rfl
  bodies := by
    rintro f g rfl heq
    cases heq
    exact hbody f rfl

theorem plain {value : Value} (hplain : ∀ f, value ≠ .function f) : AlikeBy bodies value value :=
  self fun f heq => absurd heq (hplain f)

theorem truthy (halike : AlikeBy bodies v w) : v.truthy = w.truthy := by
  rw [← truthy_outline, ← truthy_outline w, halike.outline]

theorem eq_of_ne_function (halike : AlikeBy bodies v w) (hplain : ∀ f, v ≠ .function f) : v = w := by
  have houtline := halike.outline
  cases v <;> cases w <;> first | exact houtline | exact absurd rfl (hplain _) | cases houtline

private theorem eq_string_iff (halike : AlikeBy bodies v w) (code : String) : v = .string code ↔ w = .string code := by
  have houtline := halike.outline
  constructor
  · rintro rfl
    exact (halike.eq_of_ne_function (by simp)).symm
  · rintro rfl
    cases v with
    | string text => exact houtline
    | function f => cases houtline
    | number | native | nil => cases houtline

theorem exists_function {f : Function} (halike : AlikeBy bodies (.function f) w) :
    ∃ g, w = .function g ∧ f.id = g.id ∧ f.name = g.name ∧ f.params = g.params ∧ bodies f.body g.body := by
  have houtline := halike.outline
  cases w with
  | function g =>
    injection houtline with hfunctions
    injection hfunctions with hid hname hparams
    exact ⟨g, rfl, hid, hname, hparams, halike.bodies rfl rfl⟩
  | number | string | native | nil => cases houtline

/-- No operator depends on where the bodies of functions begin. -/
theorem operate?_eq {l l' r r' : Value} (operator : String) (hleft : AlikeBy bodies l l')
    (hright : AlikeBy bodies r r') : operate? operator l r = operate? operator l' r' := by
  rw [← operate?_outline, ← operate?_outline _ l', hleft.outline, hright.outline]

/-- Arguments that are alike hand the same code to a host, or none. -/
theorem handed {arguments arguments' : Array Value}
    (halike : List.Forall₂ (AlikeBy bodies) arguments.toList arguments'.toList) :
    (∃ code rest rest', arguments.toList = .string code :: rest ∧ arguments'.toList = .string code :: rest') ∨
    (∀ code rest, arguments.toList ≠ .string code :: rest) ∧ ∀ code rest, arguments'.toList ≠ .string code :: rest := by
  generalize arguments.toList = values at halike ⊢
  generalize arguments'.toList = values' at halike ⊢
  cases halike with
  | nil => exact .inr ⟨by simp, by simp⟩
  | @cons v w rest rest' hvalue _ =>
    by_cases hstring : ∃ code, v = .string code
    · obtain ⟨code, rfl⟩ := hstring
      obtain rfl := (hvalue.eq_string_iff code).1 rfl
      exact .inl ⟨code, rest, rest', rfl, rfl⟩
    · refine .inr ⟨fun code rest heq => ?_, fun code rest heq => ?_⟩
      · injection heq with hv
        exact hstring ⟨code, hv⟩
      · injection heq with hw
        exact hstring ⟨code, (hvalue.eq_string_iff code).2 hw⟩

theorem refl (value : Value) : value.Alike value := self fun f _ => .refl f.body

end AlikeBy

end Value

/-- The same machine up to positions, peaks and log, and up to where the bodies of
    functions begin. These are related. -/
structure Machine.AlikeBy (bodies : Cursor → Cursor → Prop) (left right : Machine) : Prop where
  env : ∀ name, Option.Rel (Value.AlikeBy bodies) (left.env.get? name) (right.env.get? name)
  made : left.made = right.made
  calls : left.calls = right.calls

/-- The same machine up to positions, peaks and log, and up to where the bodies of
    functions begin, which they do alike. -/
abbrev Machine.Alike : Machine → Machine → Prop := Machine.AlikeBy Cursor.Alike

namespace Machine.AlikeBy

variable {bodies : Cursor → Cursor → Prop} {left right : Machine}

theorem moved (halike : AlikeBy bodies left right) (l r : Nat) :
    AlikeBy bodies { left with pos := l } { right with pos := r } :=
  ⟨halike.env, halike.made, halike.calls⟩

theorem record (halike : AlikeBy bodies left right) (event event' : Event) :
    AlikeBy bodies (left.record event) (right.record event') :=
  ⟨halike.env, halike.made, halike.calls⟩

theorem bind (halike : AlikeBy bodies left right) (name : String) {v w : Value}
    (hvalues : Value.AlikeBy bodies v w) : AlikeBy bodies (left.bind name v) (right.bind name w) where
  env other := by
    simp only [Machine.bind, Env.get?_set]
    split
    · exact .some hvalues
    · exact halike.env other
  made := halike.made
  calls := halike.calls

theorem bindAll (halike : AlikeBy bodies left right) (params : List String) {values values' : List Value}
    (hvalues : List.Forall₂ (Value.AlikeBy bodies) values values') :
    AlikeBy bodies (left.bindAll params values) (right.bindAll params values') := by
  induction params generalizing left right values values' with
  | nil => exact halike
  | cons param params ih =>
    cases hvalues with
    | nil => exact ih (halike.bind param (.plain (by simp))) .nil
    | cons hvalue hvalues => exact ih (halike.bind param hvalue) hvalues

theorem define (halike : AlikeBy bodies left right) (name : String) (params : List String) {body body' : Cursor}
    (hbody : bodies body body') : AlikeBy bodies (left.define name params body) (right.define name params body') := by
  have hcounted : AlikeBy bodies { left with made := left.made + 1 } { right with made := right.made + 1 } :=
    ⟨halike.env, by rw [halike.made], halike.calls⟩
  refine (hcounted.record _ _).bind name ⟨?_, ?_⟩
  · rw [halike.made]
    rfl
  · rintro f g ⟨⟩ ⟨⟩
    exact hbody

theorem entering (halike : AlikeBy bodies left right) (target target' : Cursor) (depth : Nat) :
    AlikeBy bodies (left.entering target depth) (right.entering target' depth) :=
  ⟨halike.env, halike.made, halike.calls⟩

theorem consulted (halike : AlikeBy bodies left right) (host : Native) (code : String) (frame frame' : Frame) :
    AlikeBy bodies (Eval.consulted host code frame left) (Eval.consulted host code frame' right) := by
  unfold Eval.consulted
  dsimp only
  split <;> split <;> exact ⟨halike.env, halike.made, by simp only [Machine.record, halike.calls]⟩

theorem earlier_eq (halike : AlikeBy bodies left right) (host : Native) : left.earlier host = right.earlier host := by
  unfold Machine.earlier
  rw [halike.calls]

theorem refl (machine : Machine) : machine.Alike machine where
  env name := by
    cases machine.env.get? name with
    | none => exact .none
    | some value => exact .some (.refl value)
  made := rfl
  calls := rfl

end Machine.AlikeBy

end Rewind
