import Rewind.Proofs.Rest.Running

namespace Rewind

/-- Coming back from a body, only the machines that it leaves matter. -/
private theorem Outcome.Alike.rewound {α β : Type} {V : α → β → Prop} {stretch stretch' : Stretch}
    {landings : Landings} {outcome : Outcome α} {outcome' : Outcome β} {left right : Nat}
    (halike : Outcome.Alike V (Eval.Standing stretch' landings) outcome outcome')
    (hpositions : stretch.Positions left right) :
    Outcome.Alike V (Eval.Standing stretch landings) (outcome.rewound left) (outcome'.rewound right) := by
  cases halike with
  | done hresults hmachines =>
    have hrest := hmachines.rest
    exact .done hresults ⟨⟨hrest.env, hrest.made, hrest.calls, hrest.log⟩, hpositions⟩
  | failed herrors hmachines =>
    have hrest := hmachines.rest
    exact .failed herrors ⟨⟨hrest.env, hrest.made, hrest.calls, hrest.log⟩, hpositions⟩
  | unfinished => exact .unfinished

private theorem Outcome.Alike.map {α β γ δ : Type} {V : α → β → Prop} {W : γ → δ → Prop}
    {M : Machine → Machine → Prop} {outcome : Outcome α} {outcome' : Outcome β} {f : α → γ} {g : β → δ}
    (halike : Outcome.Alike V M outcome outcome') (hresults : ∀ a b, V a b → W (f a) (g b)) :
    Outcome.Alike W M (outcome.map f) (outcome'.map g) := by
  cases halike with
  | done hab hmachines => exact .done (hresults _ _ hab) hmachines
  | failed herrors hmachines => exact .failed herrors hmachines
  | unfinished => exact .unfinished

namespace Eval.Resumes

variable {stretch : Stretch} {landings : Landings}

theorem lookup (name : String) (span : Span) :
    Resumes stretch landings (Value.Rest landings) (lookup name span) (lookup name span) := by
  intro frame left right _ _ hstanding
  have henv := hstanding.rest.env name
  unfold Eval.lookup
  generalize left.env.get? name = value at henv ⊢
  generalize right.env.get? name = value' at henv ⊢
  cases henv with
  | none => exact .failed (.refl _) hstanding
  | some hvalues => exact .done hvalues hstanding

private theorem consulted {left right : Machine} (hrest : left.Rest landings right) (host : Native) (code : String)
    (frame frame' : Frame) (hhosts : frame.hosts = frame'.hosts) :
    (consulted host code frame left).Rest landings (consulted host code frame' right) := by
  have htold : (if (frame.hosts host).logged then left.record (.shellRun code) else left).Rest landings
      (if (frame'.hosts host).logged then right.record (.shellRun code) else right) := by
    rw [hhosts]
    split
    · exact hrest.record rfl
    · exact hrest
  exact ⟨htold.env, htold.made, congrArg (Array.push · _) htold.calls, htold.log⟩

/-- Both sides hand over the same code, or none. -/
private theorem string_iff {values values' : Array Value} (harrays : (stretch.likeness landings).arrays values values')
    (code : String) :
    (∃ rest, values.toList = .string code :: rest) ↔ ∃ rest, values'.toList = .string code :: rest := by
  unfold Likeness.arrays at harrays
  generalize values.toList = list at harrays ⊢
  generalize values'.toList = list' at harrays ⊢
  cases harrays with
  | nil => rfl
  | cons hvalue _ =>
    cases hvalue with
    | function => simp
    | plain _ => simp

theorem consult {name : String} {host : Native} {values values' : Array Value} (span : Span)
    (harrays : (stretch.likeness landings).arrays values values') :
    Resumes stretch landings (Value.Rest landings) (consult name host values span)
      (consult name host values' span) := by
  by_cases hstring : ∃ code rest, values.toList = .string code :: rest
  · obtain ⟨code, rest, hstring⟩ := hstring
    obtain ⟨rest', hstring'⟩ := (string_iff harrays code).1 ⟨rest, hstring⟩
    intro frame left right _ hhosts hstanding
    have hearlier : right.earlier host = left.earlier host := by
      unfold Machine.earlier
      rw [hstanding.rest.calls]
    have hafter := consulted hstanding.rest host code frame { frame with tokens := stretch.rest } rfl
    have hstanding' : Standing stretch landings (Eval.consulted host code frame left)
        (Eval.consulted host code { frame with tokens := stretch.rest } right) :=
      ⟨hafter, by rw [consulted_pos, consulted_pos]; exact hstanding.positions⟩
    rw [consult_of_string hstring, consult_of_string hstring', hearlier]
    cases hanswer : (frame.hosts host).answer (left.earlier host) code with
    | ok value => exact .done (hhosts host _ code value hanswer) hstanding'
    | error text => exact .failed (.refl _) hstanding'
  · have hstring' : ∀ code rest, values'.toList ≠ .string code :: rest := fun code rest heq =>
      hstring ⟨code, (string_iff harrays code).2 ⟨rest, heq⟩⟩
    rw [consult_of_not_string (fun code rest heq => hstring ⟨code, rest, heq⟩),
      consult_of_not_string hstring']
    exact fail (.refl _)

/-- A call goes on in the buffer of the function, wherever that buffer is cut. -/
private theorem invoke {inner : Eval Value}
    (hlist : ∀ stretch : Stretch, Resumes stretch landings (stretch.likeness landings).arrays
      (Eval.list inner) (Eval.list inner))
    {f g : Function} {values values' : Array Value} (span : Span)
    (hfunctions : Value.Rest landings (.function f) (.function g))
    (harrays : (stretch.likeness landings).arrays values values') :
    Resumes stretch landings (Value.Rest landings) (invoke inner f values span)
      (invoke inner g values' span) := by
  intro frame left right _ hhosts hstanding
  rw [invoke_apply, invoke_apply]
  by_cases hdepth : frame.limits.calls ≤ frame.depth
  · rw [if_pos hdepth, if_pos (show _ from hdepth)]
    exact .failed (.refl _) hstanding
  rw [if_neg hdepth, if_neg (show _ from hdepth)]
  cases hfunctions with
  | plain hplain => exact absurd rfl (hplain f)
  | function hid hname hparams hbody hallowed =>
    have hsize : values.size = values'.size := harrays.length_eq
    have hline : (Event.called f values.size).line = (Event.called g values'.size).line := by
      simp [Event.line, Event.details, Event.level, Event.message, hname, hsize]
    have hbound := (hstanding.rest.record hline).bindAll f.params harrays
    rw [hparams] at hbound ⊢
    generalize (left.record (.called f values.size)).bindAll g.params values.toList = bound at hbound ⊢
    generalize (right.record (.called g values'.size)).bindAll g.params values'.toList = bound' at hbound ⊢
    obtain ⟨offset, hoffset, hrest, hshift⟩ := hbody
    have hentered : Machine.Rest landings (bound.entering f.body frame.depth)
        (bound'.entering g.body frame.depth) := ⟨hbound.env, hbound.made, hbound.calls, hbound.log⟩
    have hback (values values' : Array Value) (harrays : (stretch.likeness landings).arrays values values') :
        Value.Rest landings (values.back?.getD .nil) (values'.back?.getD .nil) :=
      Likeness.arrays.back harrays .nil
    by_cases hinside : f.body.pos ≤ f.body.tokens.size
    · have houtcome := hlist ⟨f.body.tokens, offset, f.body.pos, hoffset⟩ (frame.entering f.body)
        (bound.entering f.body frame.depth) (bound'.entering g.body frame.depth) rfl hhosts
        ⟨hentered, hshift, Nat.le_refl _, hinside⟩
      rw [Stretch.rest, ← hrest] at houtcome
      exact (houtcome.rewound hstanding.positions).map hback
    · have houtside : (frame.entering f.body).tokens.size ≤ (bound.entering f.body frame.depth).pos :=
        Nat.le_of_lt (Nat.lt_of_not_le hinside)
      have houtside' : (Frame.entering { frame with tokens := stretch.rest } g.body).tokens.size ≤
          (bound'.entering g.body frame.depth).pos := by
        simp only [Frame.entering, Machine.entering, hrest, size_restFrom]
        omega
      rw [list_of_outside houtside, list_of_outside houtside']
      have hfailed : Outcome.Alike (stretch.likeness landings).arrays (Standing stretch landings)
          (.failed (.expected (.punct "(") none) { bound.entering f.body frame.depth with pos := left.pos })
          (.failed (.expected (.punct "(") none) { bound'.entering g.body frame.depth with pos := right.pos }) :=
        .failed (.refl _) ⟨⟨hbound.env, hbound.made, hbound.calls, hbound.log⟩, hstanding.positions⟩
      exact hfailed.map hback

private theorem callees {v w : Value} (hvalues : Value.Rest landings v w) :
    (stretch.likeness landings).Callees v w := by
  have hvalues' := hvalues
  cases hvalues' with
  | function => exact .function hvalues
  | plain => exact .self hvalues

theorem combine {op op' : Located} {l l' r r' : Value} (hop : Located.Alike Eq op op')
    (hleft : Value.Rest landings l l') (hright : Value.Rest landings r r') :
    Resumes stretch landings (Value.Rest landings) (ofExcept (combine op l r))
      (ofExcept (combine op' l' r')) := by
  obtain rfl := Likeness.same_located hop
  have hoperate := hleft.operate? op.token.lexeme hright
  unfold Eval.combine
  generalize Value.operate? op.token.lexeme l r = result at hoperate ⊢
  generalize Value.operate? op.token.lexeme l' r' = result' at hoperate ⊢
  cases hoperate with
  | some hvalues => exact steps.pure hvalues
  | none => exact fail (.operands op hleft hright)

private theorem forms {inner : Eval Value} {skip : Eval Unit} (hadvances : Advances inner)
    (hinner : ∀ stretch : Stretch, Resumes stretch landings (Value.Rest landings) inner inner)
    (hskip : Resumes stretch landings anyResult skip skip) :
    Forms (stretch.likeness landings) (Resumes stretch landings) inner inner skip skip where
  toSteps := steps
  nested := hinner stretch
  passed := hskip
  list := list hadvances (hinner stretch)
  params := params
  number := .number
  string := .string
  nil := .nil
  truthy hvalues := hvalues.truthy
  callees := callees
  lookup hspans := hspans ▸ lookup _ _
  emptyList hspans := hspans ▸ fail (.refl _)
  notCallable name _ _ _ _ hvalues hspans := hspans ▸ fail (.notCallable _ name hvalues)
  invoke hfunctions harrays hspans :=
    hspans ▸ invoke (fun stretch => list hadvances (hinner stretch)) _ hfunctions harrays
  consult _ harrays hspans := hspans ▸ consult _ harrays
  machine := fun _ _ _ _ _ hstanding => .done hstanding.positions hstanding
  rewind hpositions := fun _ _ _ _ _ hstanding =>
    have hrest := hstanding.rest
    .done trivial ⟨⟨hrest.env, hrest.made, hrest.calls, hrest.log⟩, hpositions⟩
  frame := fun _ _ _ _ _ hstanding => .done rfl hstanding
  oneMore hpatience := ⟨_, hpatience.symm, rfl⟩
  giveUp hpatience hloop := by
    obtain rfl := hpatience
    rw [hloop]
    exact fun _ _ _ _ _ _ => .unfinished
  record _ := update (fun _ => rfl) (fun _ => rfl) fun hrest => hrest.record rfl
  defined name params left right hcursors := by
    have hbody : left.Rest right := by
      refine ⟨stretch.offset, ?_, ?_, hcursors.positions.shift⟩
      · rw [hcursors.tokens]; exact stretch.offset_le
      · rw [hcursors.tokens]; exact hcursors.rest
    have hallowed : landings.allowed left = true := by
      apply landings.inside
      rw [hcursors.tokens]
      exact hcursors.positions.inside
    exact update (fun _ => rfl) (fun _ => rfl) fun hrest => hrest.define name params hbody hallowed
  bound name _ _ hvalues := update (fun _ => rfl) (fun _ => rfl) fun hrest => hrest.bind name hvalues

private theorem tooNested {α β : Type} {V : α → β → Prop} (located : Located) :
    Resumes stretch landings V (tooNested located) (tooNested located) :=
  fun _ _ _ _ _ hstanding => .failed (.refl _) hstanding

private theorem noteNesting (budget : Nat) :
    Resumes stretch landings anyResult (noteNesting budget) (noteNesting budget) := by
  intro frame left right _ _ hstanding
  have hrest := hstanding.rest
  exact .done trivial ⟨⟨hrest.env, hrest.made, hrest.calls, hrest.log⟩, hstanding.positions⟩

private theorem skipOperand (budget : Nat) :
    Resumes stretch landings anyResult (skipOperand budget) (skipOperand budget) := by
  induction budget with
  | zero =>
    refine bind steps.firstToken fun located located' halike => ?_
    obtain rfl := Likeness.same_located halike
    exact tooNested located
  | succ budget ih =>
    refine bind steps.firstToken fun located located' halike => bind (noteNesting budget) fun _ _ _ => ?_
    exact steps.skipForm (expression (.skipOperand budget) (.skipOperand budget) ih
      fun _ _ _ => steps.pure trivial) halike

theorem skipExpression (budget : Nat) :
    Resumes stretch landings anyResult (skipExpression budget) (skipExpression budget) :=
  expression (.skipOperand budget) (.skipOperand budget) (skipOperand budget) fun _ _ _ => steps.pure trivial

theorem operand (budget : Nat) (stretch : Stretch) :
    Resumes stretch landings (Value.Rest landings) (operand budget) (operand budget) := by
  induction budget generalizing stretch with
  | zero =>
    refine bind steps.firstToken fun located located' halike => ?_
    obtain rfl := Likeness.same_located halike
    exact tooNested located
  | succ budget ih =>
    have hlevel : Level (Eval.operand budget) := (Agrees.operand budget).level (.skipOperand budget)
    refine bind steps.firstToken fun located located' halike => bind (noteNesting budget) fun _ _ _ => ?_
    exact (forms (.evaluate budget) (fun stretch => expression hlevel (.operand budget) (ih stretch) combine)
      (skipExpression budget)).form halike

theorem additive (budget : Nat) (stretch : Stretch) :
    Resumes stretch landings (Value.Rest landings) (Eval.chain .additive (Eval.operand budget) Eval.combine)
      (Eval.chain .additive (Eval.operand budget) Eval.combine) :=
  chain .additive (.operand budget) (operand budget stretch) combine

theorem evaluate (budget : Nat) (stretch : Stretch) :
    Resumes stretch landings (Value.Rest landings) (evaluate budget) (evaluate budget) :=
  expression ((Agrees.operand budget).level (.skipOperand budget)) (.operand budget) (operand budget stretch)
    combine

theorem inside (budget : Nat) (stretch : Stretch) :
    Forms (stretch.likeness landings) (Resumes stretch landings) (Eval.evaluate budget) (Eval.evaluate budget)
      (Eval.skipExpression budget) (Eval.skipExpression budget) :=
  forms (.evaluate budget) (evaluate budget) (skipExpression budget)

end Eval.Resumes

end Rewind
