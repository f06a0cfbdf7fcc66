import Rewind.Proofs.Control.Calls

namespace Rewind.Control.Follows

open Eval

variable {settings : Settings} {tokens : Array Located} {nesting depth : UInt64} {inner : Control Value}
  {inner' : Eval Value}

/-- The levels that are left to a walk at a level of nesting. -/
def budgetAt (settings : Settings) (nesting : UInt64) : Nat := settings.nesting.toNat - nesting.toNat

private theorem skip : Follows settings tokens nesting depth anyResult Control.skip
    (skipExpression (budgetAt settings nesting)) := by
  intro registers htokens hnesting hdepth hready
  have hskip : Follows settings tokens nesting depth anyResult (liftM (skipExpression (budgetAt settings nesting)))
      (skipExpression (budgetAt settings nesting)) :=
    step (Resumes.skipExpression _) (Shallow.skipExpression _) fun _ _ => trivial
  have hlevels : levels settings registers = .done (budgetAt settings nesting) registers := by
    rw [← hnesting]
    rfl
  unfold Control.skip
  rw [bind_of_done hlevels]
  exact hskip registers htokens hnesting hdepth hready

theorem leads : Leads (Follows settings tokens nesting depth) (Follows settings tokens nesting depth) := ⟨bind, advance⟩

private theorem entry (token : Token) :
    Eval.Entry (Follows settings tokens nesting depth) (Follows settings tokens nesting depth) token where
  free := id
  leads _ := leads
  unexpected := unexpected

/-- Every form is followed if expressions are, and calls of functions. -/
theorem binds (hadvances : Advances inner')
    (hinner : Follows settings tokens nesting depth (settings.likeness tokens).values inner inner')
    (invoke : Function → Array Value → Span → Control Value) (invoke' : Function → Array Value → Span → Eval Value)
    (hinvoke : ∀ {f : Function}, Landed settings.landings (.function f) → ∀ {arguments : Array Value},
      LandedAll settings.landings arguments → ∀ span, Follows settings tokens nesting depth
        (settings.likeness tokens).values (invoke f arguments span) (invoke' f arguments span)) :
    Binds (settings.likeness tokens) (Follows settings tokens nesting depth)
      ((Control.parts inner).calling invoke)
      ((Parts.of inner' (skipExpression (budgetAt settings nesting))).calling invoke') where
  toGuards := guards
  nested := hinner
  passed := skip
  list := list hadvances hinner
  params := between loops.params
  number _ := ⟨rfl, .number _⟩
  string _ := ⟨rfl, .string _⟩
  nil := ⟨rfl, .nil⟩
  truthy := by
    rintro value _ ⟨rfl, _⟩
    rfl
  callees := by
    rintro value _ ⟨rfl, hvalue⟩
    exact .self ⟨rfl, hvalue⟩
  lookup := by
    rintro name span _ rfl
    exact step (Resumes.lookup name span) (Shallow.lookup name span) fun _ hvalue => ⟨rfl, hvalue⟩
  emptyList := by
    rintro span _ rfl
    exact failAt _ _ fun _ => nofun
  notCallable := by
    rintro name value _ span _ ⟨rfl, _⟩ rfl
    exact failAt _ _ fun _ => nofun
  invoke := by
    rintro f _ arguments _ span _ ⟨hsame, hf⟩ harguments rfl
    cases hsame
    obtain ⟨rfl, harguments⟩ := Settings.arrays_iff.1 harguments
    exact hinvoke hf harguments span
  consult := by
    rintro name host arguments _ span _ _ harguments rfl
    obtain ⟨rfl, harguments⟩ := Settings.arrays_iff.1 harguments
    exact step (Resumes.consult span harguments) (Shallow.consult name host arguments span)
      fun _ hvalue => ⟨rfl, hvalue⟩
  machine := fun _ htokens _ _ hready => .done ⟨rfl, htokens ▸ hready.inside⟩ hready
  rewind := by
    rintro pos _ ⟨rfl, hinside⟩
    exact rewind hinside
  frame := fun _ _ _ _ hready => .done rfl hready
  oneMore hpatience := ⟨_, Eq.symm hpatience, rfl⟩
  giveUp := by
    rintro _ loop rfl hloop
    rw [hloop]
    exact fun _ _ _ _ _ => .unfinished
  record _ := update (fun _ => rfl) fun hrest => hrest.record rfl
  body name params :=
    step ((Resumes.inside 0 (Stretch.whole tokens)).binds.body name params) (Shallow.takeBody name params)
      fun _ _ => trivial
  bound name := by
    rintro value _ ⟨rfl, hvalue⟩
    exact update (fun _ => rfl) fun hrest => hrest.bind name hvalue

/-- What is inside of a form can be followed in every buffer and at every depth that
    its level of nesting allows. -/
def Everywhere (settings : Settings) (nesting : UInt64) (inner : Control Value) (inner' : Eval Value) : Prop :=
  ∀ tokens depth, depth ≤ nesting → depth ≤ settings.calls →
    Follows settings tokens nesting depth (settings.likeness tokens).values inner inner'

/-- Where one more call is a level further in, all forms are followed. -/
theorem Everywhere.binds (hinner : Everywhere settings nesting inner inner') (hadvances : Advances inner')
    (hdepth : depth < nesting) (hcalls : depth ≤ settings.calls) (hnesting : nesting ≤ settings.nesting) :
    Binds (settings.likeness tokens) (Follows settings tokens nesting depth) (Control.parts inner)
      (.of inner' (skipExpression (budgetAt settings nesting))) :=
  Follows.binds hadvances (hinner tokens depth (UInt64.le_of_lt hdepth) hcalls) _ _ fun hf _ harguments span =>
    invoke hdepth hnesting (fun tokens depth hdepth hcalls => list hadvances (hinner tokens depth hdepth hcalls)) hf
      harguments span

theorem Everywhere.form (hinner : Everywhere settings nesting inner inner') (hadvances : Advances inner')
    (hdepth : depth < nesting) (hcalls : depth ≤ settings.calls) (hnesting : nesting ≤ settings.nesting)
    (located : Located) : Follows settings tokens nesting depth (settings.likeness tokens).values
      ((Control.parts inner).form located)
      (Eval.form inner' (skipExpression (budgetAt settings nesting)) located) := by
  rw [← Parts.form_of]
  exact (hinner.binds hadvances hdepth hcalls hnesting).form (entry _) ⟨rfl, rfl⟩

end Rewind.Control.Follows
