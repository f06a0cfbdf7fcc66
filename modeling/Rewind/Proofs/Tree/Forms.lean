import Rewind.Proofs.Tree.Lists

namespace Rewind

/-- The same scene with another number of calls. -/
def Scene.withCalls (scene : Scene) (calls : Nat) : Scene := { scene with calls }

namespace Eval

/-- `inner` evaluates every expression that is read, in every buffer and with any
    number of calls. -/
def Everywhere (scene : Scene) (inner : Eval Value) : Prop :=
  ∀ (calls : Nat) (tokens : Array Located) {tree : Tree} {p q : Nat}, Reads tokens (.expression tree) p q →
    Simulates (scene.withCalls calls) tokens p q Value.Means inner ((scene.withCalls calls).eval tree)

theorem Everywhere.here {scene : Scene} {inner : Eval Value} (hinner : Everywhere scene inner)
    {tokens : Array Located} {tree : Tree} {p q : Nat} (hreads : Reads tokens (.expression tree) p q) :
    Simulates scene tokens p q Value.Means inner (scene.eval tree) :=
  hinner scene.calls tokens hreads

/-- The names of the parameters, and nothing else, come from between the
    parentheses of a definition. -/
theorem Moves.paramsFrom {tokens : Array Located} {names : List String} {p q : Nat}
    (hreads : Reads tokens (.params names) p q) {rounds : Nat} (hrounds : tokens.size - p < rounds)
    (params : Array String) : Moves tokens p q (params ++ names.toArray) (paramsFrom rounds params) := by
  induction names generalizing p rounds params with
  | nil =>
    obtain ⟨rounds, rfl⟩ : ∃ n, rounds = n + 1 := ⟨rounds - 1, by omega⟩
    cases hreads with
    | paramsEnd hclose =>
      refine Moves.cursor.bind ?_
      rw [if_pos (Bool.or_eq_true_iff.2 (.inr hclose)), Array.append_empty]
      exact .pure params
  | cons name names ih =>
    obtain ⟨rounds, rfl⟩ : ∃ n, rounds = n + 1 := ⟨rounds - 1, by omega⟩
    have hopen {span : Span} (hname : NameAt tokens p name span) :
        ¬ ((Cursor.mk tokens p).atEnd || (Cursor.mk tokens p).isPunct ")") = true :=
      Simulates.not_closing_of_begun (Reads.begun_of_kind hname (by simp) (Nat.lt_succ_self p))
    cases hreads with
    | paramsLast hname hcomma =>
      refine Moves.cursor.bind ?_
      rw [if_neg (hopen hname)]
      refine (Moves.expectName hname).bind (Moves.cursor.bind ?_)
      rw [if_neg hcomma]
      exact .pure _
    | paramsComma hname hcomma hrest =>
      obtain ⟨located, hcurrent, _⟩ := isPunct_iff.1 hcomma
      have hinside := hcomma.lt
      refine Moves.cursor.bind ?_
      rw [if_neg (hopen hname)]
      refine (Moves.expectName hname).bind (Moves.cursor.bind ?_)
      rw [if_pos hcomma]
      have hnext := ih hrest (show tokens.size - (p + 2) < rounds by omega) (params.push name)
      rw [show params.push name ++ names.toArray = params ++ (name :: names).toArray by simp] at hnext
      exact (Moves.advance hcurrent).bind hnext

namespace Simulates

variable {scene : Scene} {tokens : Array Located} {p q r : Nat} {inner : Eval Value} {skip : Eval Unit}

theorem lookup (name : String) (span : Span) :
    Simulates scene tokens p p Value.Means (lookup name span) (TreeEval.lookup name span) := by
  intro frame start state _ _ hpos hmeans
  have henv := hmeans.env name
  unfold Eval.lookup TreeEval.lookup
  generalize start.env.get? name = value at henv ⊢
  generalize state.env name = value' at henv ⊢
  cases henv with
  | none => exact @Simulated.failed _ _ _ _ (.atSpan span (.unbound name)) span _ _ rfl hmeans
  | some hvalue => exact .done hvalue hpos hmeans

theorem consult (name : String) (host : Native) (span : Span) {values : Array Value} {values' : List TreeValue}
    (hvalues : meansValues values values') :
    Simulates scene tokens p p Value.Means (consult name host values span)
      (TreeEval.consult scene.hosts name host values' span) := by
  unfold meansValues MeansAll at hvalues
  by_cases hstring : ∃ code rest, values.toList = .string code :: rest
  · obtain ⟨code, rest, hstring⟩ := hstring
    intro frame start state _ hfits hpos hmeans
    have hasked : (consulted host code frame start).Means
        { state with calls := state.calls.push ⟨host, code⟩ } := by
      unfold consulted
      dsimp only
      split <;> exact ⟨hmeans.env, hmeans.made, congrArg (Array.push · _) hmeans.calls⟩
    have hearlier : start.earlier host = (state.calls.toList.filter (·.native == host)).map (·.code) := by
      rw [← hmeans.calls]
      rfl
    rw [hstring] at hvalues
    cases hvalues with
    | cons hfirst hrest =>
      cases hfirst with
      | string code =>
        rw [consult_of_string hstring, hfits.hosts, hearlier]
        unfold TreeEval.consult
        dsimp only
        cases hanswer : (scene.hosts host).answer _ code with
        | ok value =>
          exact .done (.ofAnswer (scene.plain _ _ _ _ hanswer)) ((consulted_pos _ _ _ _).trans hpos) hasked
        | error text => exact @Simulated.failed _ _ _ _ (.atSpan span (.other text)) span _ _ rfl hasked
  · have hrefused : TreeEval.consult scene.hosts name host values' span =
        TreeEval.fail ("`" ++ name ++ "` expects a string of " ++ host.name ++ " code") span := by
      unfold TreeEval.consult
      generalize values.toList = list at hvalues hstring
      cases hvalues with
      | nil => rfl
      | cons hfirst hrest => cases hfirst <;> first | rfl | exact absurd ⟨_, _, rfl⟩ hstring
    rw [consult_of_not_string (fun code rest heq => hstring ⟨code, rest, heq⟩), hrefused]
    exact fail rfl

/-- A call evaluates the trees that its function's body reads as. -/
theorem invoke (hinner : Everywhere scene inner) {f : Function} {g : TreeFunction} (hf : f.Means g)
    {values : Array Value} {values' : List TreeValue} (hvalues : meansValues values values') (span : Span) :
    Simulates scene tokens p p Value.Means (invoke inner f values span) (scene.invoke g values') := by
  intro frame start state _ hfits hpos hmeans
  rw [invoke_apply]
  by_cases hdepth : frame.limits.calls ≤ frame.depth
  · rw [if_pos hdepth]
    exact .limit ⟨_, .inl rfl⟩
  have hfit := hfits.calls
  obtain ⟨calls, hcalls⟩ : ∃ n, scene.calls = n + 1 := ⟨scene.calls - 1, by omega⟩
  obtain ⟨stop, hbody⟩ := hf.body
  have hinvoke : scene.invoke g values' state = ((scene.withCalls calls).evalAll g.body >>= fun all =>
      Pure.pure (lastOr .nil all)) (state.bindAll g.params values') := by
    unfold Scene.invoke
    rw [hcalls]
    rfl
  have hbound : ((start.record (.called f values.size)).bindAll f.params values.toList).Means
      (state.bindAll g.params values') := by
    rw [hf.params]
    have hrecorded : (start.record (.called f values.size)).Means state := hmeans.of_eq rfl rfl rfl
    exact hrecorded.bindAll g.params hvalues
  have hlist := list (fun hreads => hinner calls f.body.tokens hreads) hbody (frame.entering f.body)
    (((start.record (.called f values.size)).bindAll f.params values.toList).entering f.body frame.depth)
    (state.bindAll g.params values') rfl
    ⟨hfits.hosts, hfits.patience, show frame.limits.calls ≤ calls + (frame.depth + 1) by omega⟩ rfl
    (hbound.of_eq rfl rfl rfl)
  rw [if_neg hdepth, hinvoke, TreeEval.bind_apply]
  generalize Eval.list inner _ _ = outcome at hlist ⊢
  generalize (scene.withCalls calls).evalAll g.body _ = outcome' at hlist ⊢
  cases hlist with
  | done hall _ hafter => exact .done (hall.last .nil) hpos (hafter.of_eq rfl rfl rfl)
  | failed hspan hafter => exact .failed hspan (hafter.of_eq rfl rfl rfl)
  | limit hlimit => exact .limit hlimit
  | unfinished => exact .unfinished

end Simulates

end Eval

end Rewind
