import Rewind.Proofs.Control

namespace Rewind

/-- The failure of some limit on calls. -/
def Error.Deep (error : Error) : Prop := ∃ limit, error.cause = .callDepth limit

/-- The whole of a buffer as a part of itself. -/
def Stretch.whole (tokens : Array Located) : Stretch where
  tokens
  offset := 0
  origin := 0
  offset_le := Nat.zero_le _

private theorem Stretch.whole_rest (tokens : Array Located) : (Stretch.whole tokens).rest = tokens :=
  restFrom_zero tokens

private theorem Stretch.whole_positions {tokens : Array Located} {pos : Nat} (hinside : pos ≤ tokens.size) :
    (Stretch.whole tokens).Positions pos pos :=
  ⟨(Nat.zero_add pos).symm, Nat.zero_le pos, hinside⟩

/-- Every bound function, and every function that a host returns, has its body at a landing,
    and the cursor is in its buffer. -/
structure Registers.Ready (registers : Registers) (settings : Settings) : Prop where
  hosts : settings.hosts.Land settings.landings
  machine : registers.machine.Rest settings.landings registers.machine
  inside : registers.machine.pos ≤ registers.tokens.size

namespace Eval

/-- `x` does not fail for the limit on calls. -/
def Shallow {α β : Type} (V : α → β → Prop) (x : Eval α) (_ : Eval β) : Prop :=
  ∀ frame start, match x frame start with
    | .done a _ => ∃ b, V a b
    | .failed error _ => ¬ error.Deep
    | .unfinished => True

namespace Shallow

theorem expected_not_deep (wanted : Wanted) (found : Option Located) : ¬ (Error.expected wanted found).Deep := by
  rintro ⟨limit, hcause⟩
  cases hcause

theorem walks : Walks .same Shallow where
  pure hab := fun _ _ => ⟨_, hab⟩
  bind := by
    intro α β γ δ V W x y f g hx hf frame start
    have hfirst := hx frame start
    rw [bind_apply]
    cases hdone : x frame start with
    | done a mid =>
      rw [hdone] at hfirst
      obtain ⟨b, hab⟩ := hfirst
      exact hf a b hab frame mid
    | failed error mid =>
      rw [hdone] at hfirst
      exact hfirst
    | unfinished => trivial
  cursor := fun _ _ => ⟨_, rfl⟩
  current := by
    rintro left _ rfl
    exact Likeness.same_current left
  advance := fun _ _ => ⟨(), trivial⟩
  unexpected wanted := fun _ _ => expected_not_deep wanted _
  skipList := by
    intro frame start
    rw [skipList_apply]
    by_cases hopen : (Cursor.mk frame.tokens start.pos).isPunct "("
    · rw [if_pos hopen]
      cases closeFrom frame.tokens (start.pos + 1) 0 with
      | some pos => exact ⟨(), trivial⟩
      | none => exact expected_not_deep _ _
    · rw [if_neg hopen]
      exact expected_not_deep _ _
  rounds := fun _ _ => ⟨_, rfl⟩

private theorem tooNested {α β : Type} {V : α → β → Prop} (located : Located) (y : Eval β) :
    Shallow V (tooNested located : Eval α) y := by
  rintro frame start ⟨limit, hcause⟩
  cases hcause

private theorem skipOperand (budget : Nat) : Shallow anyResult (skipOperand budget) (skipOperand budget) := by
  induction budget with
  | zero => exact walks.bind walks.firstToken fun located _ _ => tooNested located _
  | succ budget ih =>
    have hinner : Shallow anyResult (Eval.skipExpression budget) (Eval.skipExpression budget) :=
      walks.expression ih fun _ _ _ => walks.pure trivial
    refine walks.bind walks.firstToken fun located _ halike => ?_
    exact walks.bind (V := anyResult) (fun _ _ => ⟨(), trivial⟩) fun _ _ _ => walks.skipForm hinner halike

theorem skipExpression (budget : Nat) : Shallow anyResult (skipExpression budget) (skipExpression budget) :=
  walks.expression (skipOperand budget) fun _ _ _ => walks.pure trivial

theorem lookup (name : String) (span : Span) : Shallow anyResult (lookup name span) (pure ()) := by
  intro frame start
  unfold Eval.lookup
  cases start.env.get? name with
  | some value => exact ⟨(), trivial⟩
  | none =>
    rintro ⟨limit, hcause⟩
    cases hcause

theorem combine (operator : Located) (left right : Value) :
    Shallow anyResult (ofExcept (combine operator left right)) (pure ()) := by
  unfold Eval.combine
  cases Value.operate? operator.token.lexeme left right with
  | some value => exact fun _ _ => ⟨(), trivial⟩
  | none =>
    rintro frame start ⟨limit, hcause⟩
    cases hcause

theorem consult (name : String) (host : Native) (arguments : Array Value) (span : Span) :
    Shallow anyResult (consult name host arguments span) (pure ()) := by
  by_cases hstring : ∃ code rest, arguments.toList = .string code :: rest
  · obtain ⟨code, rest, hstring⟩ := hstring
    intro frame start
    rw [consult_of_string hstring]
    cases (frame.hosts host).answer (start.earlier host) code with
    | ok value => exact ⟨(), trivial⟩
    | error text =>
      rintro ⟨limit, hcause⟩
      cases hcause
  · rw [consult_of_not_string (fun code rest heq => hstring ⟨code, rest, heq⟩)]
    rintro frame start ⟨limit, hcause⟩
    cases hcause

theorem takeBody (name : String) (params : List String) :
    Shallow anyResult (takeBody name params) (pure ()) := by
  refine walks.bind (g := fun _ => Pure.pure ()) walks.cursor fun body _ _ => ?_
  have hupdate : Shallow anyResult (update (·.define name params body)) (Pure.pure ()) := fun _ _ => ⟨(), trivial⟩
  split
  · exact walks.bind (g := fun _ => Pure.pure ()) walks.skipList fun _ _ _ => hupdate
  · exact hupdate

end Shallow

end Eval

/-- An outcome on registers that follows one without: only the machine differs from
    the registers at the start, and it is fit to go on with. -/
inductive Followed (settings : Settings) (registers : Registers) {α β : Type} (V : α → β → Prop) :
    Outcome β → Ending α → Prop where
  | done {a : α} {b : β} {machine : Machine} (hresults : V a b)
    (hready : Registers.Ready { registers with machine } settings) :
    Followed settings registers V (.done b machine) (.done a { registers with machine })
  | failed {error : Error} {machine : Machine} (hready : Registers.Ready { registers with machine } settings)
    (hdeep : settings.nesting ≤ settings.calls → ¬ error.Deep) :
    Followed settings registers V (.failed error machine) (.failed error { registers with machine })
  | unfinished : Followed settings registers V .unfinished .unfinished

/-- What follows from a state on the way follows from the start. -/
private theorem Followed.from_start {settings : Settings} {registers : Registers} {machine : Machine} {α β : Type}
    {V : α → β → Prop} {outcome : Outcome β} {ending : Ending α}
    (hfollowed : Followed settings { registers with machine } V outcome ending) :
    Followed settings registers V outcome ending := by
  cases hfollowed with
  | done hresults hready => exact .done hresults hready
  | failed hready hdeep => exact .failed hready hdeep
  | unfinished => exact .unfinished

namespace Control

/-- `x` does on registers what `y` does, in a buffer and at a level of nesting and
    of calls. It does not break down, and leaves the control state as it was. -/
def Follows (settings : Settings) (tokens : Array Located) (nesting depth : UInt64) {α β : Type}
    (V : α → β → Prop) (x : Control α) (y : Eval β) : Prop :=
  ∀ registers : Registers, registers.tokens = tokens → registers.nesting = nesting →
    registers.depth = depth → registers.Ready settings →
    Followed settings registers V (y (registers.frame settings) registers.machine) (x settings registers)

namespace Follows

variable {settings : Settings} {tokens : Array Located} {nesting depth : UInt64} {α β γ δ : Type}
  {V : α → β → Prop} {W : γ → δ → Prop}

theorem pure {a : α} {b : β} (hresults : V a b) :
    Follows settings tokens nesting depth V (Pure.pure a) (Pure.pure b) :=
  fun _ _ _ _ hready => .done hresults hready

theorem bind {x : Control α} {y : Eval β} {f : α → Control γ} {g : β → Eval δ}
    (hx : Follows settings tokens nesting depth V x y)
    (hf : ∀ a b, V a b → Follows settings tokens nesting depth W (f a) (g b)) :
    Follows settings tokens nesting depth W (x >>= f) (y >>= g) := by
  intro registers htokens hnesting hdepth hready
  have hfirst := hx registers htokens hnesting hdepth hready
  rw [Eval.bind_apply, bind_apply]
  generalize y (registers.frame settings) registers.machine = outcome at hfirst ⊢
  generalize x settings registers = ending at hfirst ⊢
  cases hfirst with
  | @done a b machine hresults hready =>
    exact (hf a b hresults { registers with machine } htokens hnesting hdepth hready).from_start
  | failed hready hdeep => exact .failed hready hdeep
  | unfinished => exact .unfinished

theorem mono {V' : α → β → Prop} {x : Control α} {y : Eval β} (hx : Follows settings tokens nesting depth V x y)
    (himplies : ∀ a b, V a b → V' a b) : Follows settings tokens nesting depth V' x y := by
  intro registers htokens hnesting hdepth hready
  have hfollowed := hx registers htokens hnesting hdepth hready
  generalize y (registers.frame settings) registers.machine = outcome at hfollowed ⊢
  generalize x settings registers = ending at hfollowed ⊢
  cases hfollowed with
  | done hresults hready => exact .done (himplies _ _ hresults) hready
  | failed hready hdeep => exact .failed hready hdeep
  | unfinished => exact .unfinished

/-- A step without a part in the control state follows itself. -/
theorem step {y : Eval α} {U : α → α → Prop} {V' : α → α → Prop} {W : α → β → Prop} {z : Eval β}
    (hresumes : Eval.Resumes (Stretch.whole tokens) settings.landings V' y y) (hshallow : Eval.Shallow W y z)
    (hresults : ∀ a, V' a a → U a a) : Follows settings tokens nesting depth U (liftM y) y := by
  rintro registers rfl _ _ hready
  have hself := hresumes (registers.frame settings) registers.machine registers.machine rfl hready.hosts
    ⟨hready.machine, Stretch.whole_positions hready.inside⟩
  rw [Stretch.whole_rest] at hself
  have hshallow := hshallow (registers.frame settings) registers.machine
  change Followed settings registers U _ (quietly y settings registers)
  unfold quietly
  change Outcome.Alike V' _ (y (registers.frame settings) registers.machine)
    (y (registers.frame settings) registers.machine) at hself
  cases hdone : y (registers.frame settings) registers.machine with
  | done a machine =>
    rw [hdone] at hself
    cases hself with
    | done hself hmachines =>
      exact .done (hresults a hself) ⟨hready.hosts, hmachines.rest, hmachines.positions.inside⟩
  | failed error machine =>
    rw [hdone] at hself hshallow
    cases hself with
    | failed herrors hmachines =>
      exact .failed ⟨hready.hosts, hmachines.rest, hmachines.positions.inside⟩ fun _ => hshallow
  | unfinished => exact .unfinished

end Follows

end Control

end Rewind
