import Rewind.Proofs.Comparison.Loops
import Rewind.Proofs.Control.Following

namespace Rewind

/-- A value through which no body is reached but where bodies may begin. -/
def Landed (landings : Landings) (value : Value) : Prop := Value.Rest landings value value

/-- The same of each of several values. -/
def LandedAll (landings : Landings) (values : Array Value) : Prop :=
  List.Forall₂ (Value.Rest landings) values.toList values.toList

/-- Everything is the same only as itself. Positions are inside of the buffer, and no
    body is reached through a value but where bodies may begin. -/
def Settings.likeness (settings : Settings) (tokens : Array Located) : Likeness where
  spans := Eq
  cursors := Eq
  positions left right := left = right ∧ right ≤ tokens.size
  patience := Eq
  values left right := left = right ∧ Landed settings.landings right

/-- Arrays that are alike are the same array. -/
theorem Settings.arrays_iff {settings : Settings} {tokens : Array Located} {left right : Array Value} :
    (settings.likeness tokens).arrays left right ↔ left = right ∧ LandedAll settings.landings right := by
  have hlists (xs ys : List Value) : List.Forall₂ (settings.likeness tokens).values xs ys ↔
      xs = ys ∧ List.Forall₂ (Value.Rest settings.landings) ys ys := by
    constructor
    · intro halike
      induction halike with
      | nil => exact ⟨rfl, .nil⟩
      | cons hvalue _ ih => exact ⟨congrArg₂ List.cons hvalue.1 ih.1, .cons hvalue.2 ih.2⟩
    · rintro ⟨rfl, hlanded⟩
      exact List.forall₂_same.2 fun value hvalue => ⟨rfl, List.forall₂_same.1 hlanded value hvalue⟩
  exact (hlists _ _).trans (and_congr_left' Array.toList_inj)

namespace Control.Follows

open Eval

variable {settings : Settings} {tokens : Array Located} {nesting depth : UInt64}

section Steps

theorem advance : Follows settings tokens nesting depth anyResult (liftM advance) advance :=
  step Resumes.steps.advance Shallow.walks.advance fun _ _ => trivial

private theorem expectPunct (lexeme : String) :
    Follows settings tokens nesting depth anyResult (liftM (expectPunct lexeme)) (expectPunct lexeme) :=
  step (Resumes.steps.expectPunct lexeme) (Shallow.walks.expectPunct lexeme) fun _ _ => trivial

private theorem cursor : Follows settings tokens nesting depth Eq (liftM cursor) cursor :=
  step Resumes.steps.cursor Shallow.walks.cursor fun _ _ => rfl

private theorem operator? (tier : Tier) :
    Follows settings tokens nesting depth Eq (liftM (operator? tier)) (operator? tier) :=
  step (Resumes.steps.operator? tier) (Shallow.walks.operator? tier) fun _ _ => rfl

theorem unexpected {α β : Type} {V : α → β → Prop} (wanted : Wanted) : Follows settings tokens nesting depth V
    (liftM (unexpected wanted : Eval α)) (unexpected wanted : Eval β) :=
  fun _ _ _ _ hready => .failed hready fun _ => Shallow.expected_not_deep wanted _

theorem combine {op op' : Located} {l l' r r' : Value} (hop : Located.Alike Eq op op')
    (hleft : (settings.likeness tokens).values l l') (hright : (settings.likeness tokens).values r r') :
    Follows settings tokens nesting depth (settings.likeness tokens).values
      (liftM (ofExcept (combine op l r))) (ofExcept (combine op' l' r')) := by
  obtain rfl := Likeness.same_located hop
  obtain ⟨rfl, hleft⟩ := hleft
  obtain ⟨rfl, hright⟩ := hright
  exact step (Resumes.combine ⟨rfl, rfl⟩ hleft hright) (Shallow.combine op l r) fun _ hvalue => ⟨rfl, hvalue⟩

theorem failAt {α β : Type} {V : α → β → Prop} (span : Span) (cause : Cause)
    (hcause : ∀ limit, cause ≠ .callDepth limit) :
    Follows settings tokens nesting depth V (liftM (failAt span cause : Eval α)) (failAt span cause : Eval β) :=
  fun _ _ _ _ hready => .failed hready fun _ ⟨limit, hdeep⟩ => hcause limit hdeep

theorem update {change : Machine → Machine} (hpos : ∀ machine, (change machine).pos = machine.pos)
    (hchange : ∀ {left right : Machine}, left.Rest settings.landings right →
      (change left).Rest settings.landings (change right)) :
    Follows settings tokens nesting depth anyResult (liftM (update change)) (update change) :=
  step (W := fun _ (_ : Unit) => True) (z := Pure.pure ()) (Resumes.update hpos hpos hchange)
    (fun _ _ => ⟨(), trivial⟩) fun _ _ => trivial

theorem rewind {pos : Nat} (hinside : pos ≤ tokens.size) :
    Follows settings tokens nesting depth anyResult (liftM (rewind pos)) (rewind pos) := by
  intro registers htokens _ _ hready
  have hmachine := hready.machine
  exact .done trivial ⟨hready.hosts, ⟨hmachine.env, hmachine.made, hmachine.calls, hmachine.log⟩, htokens ▸ hinside⟩

end Steps

section Loops

variable {α β : Type} {V : α → β → Prop}

private theorem branch (test : Cursor → Bool) {x x' : Control α} {y y' : Eval β}
    (hyes : Follows settings tokens nesting depth V x y) (hno : Follows settings tokens nesting depth V x' y') :
    Follows settings tokens nesting depth V (do if test (← Eval.cursor) then x else x')
      (do if test (← Eval.cursor) then y else y') := by
  refine bind cursor ?_
  rintro here _ rfl
  split
  · exact hyes
  · exact hno

theorem guards : Guards (settings.likeness tokens) (Follows settings tokens nesting depth) where
  pure := pure
  bind := bind
  expectPunct _ _ := expectPunct _
  expectName := step Resumes.steps.expectName Shallow.walks.expectName fun _ _ => ⟨rfl, rfl⟩
  tryElse := step (Resumes.steps.tryKeyword _) (Shallow.walks.tryKeyword _) fun _ _ => rfl
  operator tier hnone hsome := by
    refine bind (operator? tier) ?_
    rintro found _ rfl
    cases found with
    | none => exact hnone
    | some op => exact bind advance fun _ _ _ => hsome ⟨rfl, rfl⟩
  skipList := step Resumes.steps.skipList Shallow.walks.skipList fun _ _ => trivial
  opening := branch (·.isPunct "(")

theorem loops : Loops (settings.likeness tokens) (Follows settings tokens nesting depth) .bounded := by
  refine .bounded guards ?_ (fun _ _ _ _ hready => .done rfl hready) (branch (·.atEnd))
  exact {
    pure := pure
    bind := bind
    expectName := guards.expectName
    closing := branch fun here => here.atEnd || here.isPunct ")"
    comma := fun hyes hno => branch (·.isPunct ",") (bind advance fun _ _ _ => hyes) hno }

theorem between {x : Control α} {y : Eval β} (hinside : Follows settings tokens nesting depth V x y) :
    Follows settings tokens nesting depth V (between x) (between y) :=
  bind (expectPunct _) fun _ _ _ => bind hinside fun _ _ hresults => bind (expectPunct _) fun _ _ _ => pure hresults

theorem list {inner : Control Value} {inner' : Eval Value} (hadvances : Advances inner')
    (hinner : Follows settings tokens nesting depth (settings.likeness tokens).values inner inner') :
    Follows settings tokens nesting depth (settings.likeness tokens).arrays (Loop.bounded.list inner)
      (list inner') := by
  rw [list_eq_between]
  exact between (loops.elements hinner hadvances)

end Loops

end Control.Follows

end Rewind
