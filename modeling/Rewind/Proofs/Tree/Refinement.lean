import Rewind.Proofs.Limits.Peaks
import Rewind.Proofs.Tree.Operand

namespace Rewind

namespace Eval.Simulates

variable {scene : Scene} {tokens : Array Located} {p q : Nat} {inner : Eval Value} {skip : Eval Unit}

/-- The evaluator takes the form that the reader has read. -/
private theorem form (hinner : Everywhere scene inner)
    (hskip : ∀ {tree p q}, Reads tokens (.expression tree) p q → Skips scene tokens p q skip)
    {tree : Tree} (hreads : Reads tokens (.operand tree) p q) {located : Located}
    (hcurrent : tokens[p]? = some located) :
    Simulates scene tokens p q Value.Means (form inner skip located) (scene.eval tree) := by
  have hadvance : Moves tokens p (p + 1) () advance := .advance hcurrent
  cases hreads with
  | number htoken =>
    rw [hcurrent] at htoken
    cases htoken
    exact of_moves (hadvance.bind (.pure _)) (.number _)
  | string htoken =>
    rw [hcurrent] at htoken
    cases htoken
    exact of_moves (hadvance.bind (.pure _)) (.string _)
  | name htoken hplain =>
    rw [NameAt, hcurrent] at htoken
    cases htoken
    rcases hplain with hplain | hplain <;> simp only [Eval.form, Token.keyword?, hplain] <;>
      exact move hadvance (lookup _ _)
  | call hkeyword hname harguments =>
    obtain ⟨hkind, hkeyword⟩ := hkeyword.of_current hcurrent
    simp only [Eval.form, hkind, hkeyword]
    exact call hinner hcurrent hname harguments
  | cond hkeyword htest hyes hno =>
    obtain ⟨hkind, hkeyword⟩ := hkeyword.of_current hcurrent
    simp only [Eval.form, hkind, hkeyword]
    exact conditional hinner.here hcurrent htest hyes hno
  | condElse hkeyword htest hyes helse hno =>
    obtain ⟨hkind, hkeyword⟩ := hkeyword.of_current hcurrent
    simp only [Eval.form, hkind, hkeyword]
    exact conditionalElse hinner.here hcurrent htest hyes helse hno
  | forLoop hkeyword hfirst hsemicolon htest hsemicolon' hstep hbody =>
    obtain ⟨hkind, hkeyword⟩ := hkeyword.of_current hcurrent
    simp only [Eval.form, hkind, hkeyword]
    exact forLoop hinner.here hcurrent (hskip hstep) hfirst hsemicolon htest hsemicolon' hstep hbody
  | whileLoop hkeyword htest hbody =>
    obtain ⟨hkind, hkeyword⟩ := hkeyword.of_current hcurrent
    simp only [Eval.form, hkind, hkeyword]
    exact whileLoop hinner.here hcurrent htest hbody
  | define hkeyword hname hopen hparams hclose hbody =>
    obtain ⟨hkind, hkeyword⟩ := hkeyword.of_current hcurrent
    simp only [Eval.form, hkind, hkeyword]
    exact define hcurrent hname hopen hparams hclose hbody
  | assign hkeyword hname hequals hvalue =>
    obtain ⟨hkind, hkeyword⟩ := hkeyword.of_current hcurrent
    simp only [Eval.form, hkind, hkeyword]
    exact assign hinner.here hcurrent hname hequals hvalue
  | group htoken hlist =>
    rw [hcurrent] at htoken
    cases htoken
    obtain ⟨hkind, hopen⟩ := hlist.opens hcurrent
    simp only [Eval.form, hkind, hopen]
    exact group hinner.here hlist _

private theorem combine {p : Nat} (operator : Located) {l r : Value} {l' r' : TreeValue} (hleft : l.Means l')
    (hright : r.Means r') : Simulates scene tokens p p Value.Means (ofExcept (combine operator l r))
      (TreeEval.combine operator l' r') := by
  have hoperate := hleft.operate? operator.token.lexeme hright
  unfold Eval.combine TreeEval.combine
  generalize Value.operate? operator.token.lexeme l r = result at hoperate ⊢
  generalize TreeValue.operate? operator.token.lexeme l' r' = result' at hoperate ⊢
  cases hoperate with
  | some hvalues => exact pure hvalues
  | none =>
    refine fail ?_
    dsimp only [Cause.message]
    rw [hleft.described, hright.described]

private theorem whole {operand : Eval Value} (hoperand : ∀ {tree p q}, Reads tokens (.operand tree) p q →
      Simulates scene tokens p q Value.Means operand (scene.eval tree))
    {tree : Tree} (hreads : Reads tokens (.expression tree) p q) :
    Simulates scene tokens p q Value.Means (Eval.expression operand Eval.combine) (scene.eval tree) := by
  have hbinary (operator : Located) (left right : Tree) : scene.eval (.binary operator left right) =
      scene.eval left >>= fun l => scene.eval right >>= TreeEval.combine operator l := rfl
  exact expression combine hbinary hoperand hreads

/-- The induction is on the levels of nesting that are left. Calls are taken along,
    because a body is evaluated one call further in. -/
private theorem operand (budget calls : Nat) {tree : Tree} (hreads : Reads tokens (.operand tree) p q) :
    Simulates (scene.withCalls calls) tokens p q Value.Means (operand budget)
      ((scene.withCalls calls).eval tree) := by
  obtain ⟨located, hcurrent⟩ : ∃ located, tokens[p]? = some located :=
    ⟨_, Array.getElem?_eq_getElem hreads.begun_operand.inside⟩
  induction budget generalizing calls tokens tree p q located with
  | zero => exact move (.firstToken hcurrent) (tooNested located)
  | succ budget ih =>
    have hinner : Everywhere (scene.withCalls calls) (Eval.expression (Eval.operand budget) Eval.combine) :=
      fun deeper tokens _ _ _ hreads => whole (fun hreads => ih deeper hreads _
        (Array.getElem?_eq_getElem hreads.begun_operand.inside)) hreads
    refine move (.firstToken hcurrent) (move (.noteNesting budget) ?_)
    exact form hinner (skipExpression budget) hreads hcurrent

private theorem evaluate (budget : Nat) : Everywhere scene (evaluate budget) :=
  fun calls _ _ _ _ hreads => whole (operand budget calls) hreads

private theorem program {trees : List Tree} (hreads : Reads tokens (.program trees) p q) :
    Simulates scene tokens p q Value.Means program (Tree.run scene.hosts scene.patience scene.calls trees) := by
  intro frame start state htokens hfits hpos hmeans
  have hrounds : tokens.size - p < tokens.size + 1 := by omega
  have hprogram := programFrom (evaluate frame.limits.nesting).here hreads hrounds Value.Means.nil frame start state
    htokens hfits hpos hmeans
  subst htokens
  exact hprogram

end Eval.Simulates

namespace Interpreter

/-- Running a source that is read as trees is evaluating the trees. A run that ends
    without hitting a limit has the value of the trees, or fails with the message
    and at the place that they fail with, and it leaves the same bindings, functions
    and host calls. More patience and more calls make no difference to the trees. -/
theorem run_refines_tree_walk (source : String) (machine : Machine) (limits : Limits) {hosts : Hosts}
    (hplain : hosts.Plain) {trees : List Tree} {stop : Nat}
    (hreads : Reads (tokenize source) (.program trees) 0 stop) (hbodies : machine.Readable)
    {patience : Nat} {result : Except Error Value} {after : Interpreter}
    (hrun : (onMachine source machine limits).run hosts patience = some (result, after))
    (hfree : ∀ error, result = .error error → ¬ error.IsLimit) {more calls : Nat} (hmore : patience ≤ more)
    (hcalls : limits.calls ≤ calls) :
    ∃ state state', machine.Means state ∧ after.machine.Means state' ∧
      match result with
      | .ok value => ∃ value', value.Means value' ∧ Tree.run hosts more calls trees state = .done value' state'
      | .error error => ∃ span, error.span = some span ∧
          Tree.run hosts more calls trees state = .failed error.cause.message span state' := by
  obtain ⟨state, hmeans, _⟩ := hbodies.existsUnique_means
  have hprogram := @Eval.Simulates.program ⟨hosts, more, calls, hplain⟩ (tokenize source) 0 stop trees hreads
    ((onMachine source machine limits).frame hosts patience) (onMachine source machine limits).machine state rfl
    ⟨rfl, hmore, hcalls⟩ rfl (hmeans.of_eq rfl rfl rfl)
  refine ⟨state, ?_⟩
  rw [run_eq_report] at hrun
  generalize Eval.program _ _ = outcome at hprogram hrun
  generalize Tree.run _ _ _ _ state = outcome' at hprogram ⊢
  cases hprogram with
  | done hvalue _ hafter =>
    cases hrun
    exact ⟨_, hmeans, hafter, _, hvalue, rfl⟩
  | failed hspan hafter =>
    cases hrun
    exact ⟨_, hmeans, hafter, _, hspan, rfl⟩
  | limit hlimit =>
    cases hrun
    exact absurd hlimit (hfree _ rfl)
  | unfinished => cases hrun

/-- A function that yields what it is called with. -/
def identity : String := "fn f(x) (x) call f('a')"

def identityTokens : Array Located :=
  #[⟨⟨.name, "fn"⟩, ⟨0, 2⟩⟩, ⟨⟨.name, "f"⟩, ⟨3, 4⟩⟩, ⟨⟨.punct, "("⟩, ⟨4, 5⟩⟩, ⟨⟨.name, "x"⟩, ⟨5, 6⟩⟩,
    ⟨⟨.punct, ")"⟩, ⟨6, 7⟩⟩, ⟨⟨.punct, "("⟩, ⟨8, 9⟩⟩, ⟨⟨.name, "x"⟩, ⟨9, 10⟩⟩, ⟨⟨.punct, ")"⟩, ⟨10, 11⟩⟩,
    ⟨⟨.name, "call"⟩, ⟨12, 16⟩⟩, ⟨⟨.name, "f"⟩, ⟨17, 18⟩⟩, ⟨⟨.punct, "("⟩, ⟨18, 19⟩⟩,
    ⟨⟨.string, "a"⟩, ⟨19, 22⟩⟩, ⟨⟨.punct, ")"⟩, ⟨22, 23⟩⟩]

/-- The trees of the definition and of the call. -/
def identityTrees : List Tree :=
  [.define "f" ["x"] [.name "x" ⟨9, 10⟩], .call "f" ⟨17, 18⟩ [.string "a"]]

private theorem reads_identity : Reads identityTokens (.program identityTrees) 0 13 := by
  have hname : Reads identityTokens (.expression (.name "x" ⟨9, 10⟩)) 6 7 :=
    .of_operand (.name rfl (.inl (by decide))) (by decide)
  have hbody : Reads identityTokens (.list [.name "x" ⟨9, 10⟩]) 5 8 :=
    .list (by decide) (.elementsPlain hname (by decide) (.elementsEnd (by decide))) (by decide)
  have hparams : Reads identityTokens (.params ["x"]) 3 4 := .paramsLast rfl (by decide)
  have hdefine : Reads identityTokens (.operand (.define "f" ["x"] [.name "x" ⟨9, 10⟩])) 0 8 :=
    .define (by decide) rfl (by decide) hparams (by decide) hbody
  have hstring : Reads identityTokens (.expression (.string "a")) 11 12 :=
    .of_operand (.string rfl) (by decide)
  have harguments : Reads identityTokens (.list [.string "a"]) 10 13 :=
    .list (by decide) (.elementsPlain hstring (by decide) (.elementsEnd (by decide))) (by decide)
  have hcall : Reads identityTokens (.operand (.call "f" ⟨17, 18⟩ [.string "a"])) 8 13 :=
    .call (by decide) rfl harguments
  exact .programCons (.of_operand hdefine (by decide)) (.programCons (.of_operand hcall (by decide))
    (.programEnd (by decide)))

theorem run_refines_tree_walk_of_identity :
    ∃ value after state state' value',
      (onMachine identity (.ofConfig {}) {}).run (fun _ => .echo) 0 = some (.ok value, after) ∧
      after.machine.Means state' ∧ value.Means value' ∧
      Tree.run (fun _ => .echo) 0 1000 identityTrees state = .done value' state' := by
  have htokens : tokenize identity = identityTokens := by decide +kernel
  have hends : ((onMachine identity (.ofConfig {}) {}).run (fun _ => .echo) 0).any (·.1.isOk) = true := by
    decide +kernel
  obtain ⟨⟨result, after⟩, hrun, hok⟩ := (Option.any_eq_true _ _).1 hends
  have hplain : Hosts.Plain fun _ => .echo := by
    rintro host earlier code value hanswer f rfl
    cases hanswer
  have hbodies : (Machine.ofConfig {}).Readable := fun _ _ hbound => by cases hbound
  cases result with
  | error error => cases hok
  | ok value =>
    obtain ⟨state, state', _, hafter, value', hvalue, htrees⟩ := run_refines_tree_walk identity (.ofConfig {}) {}
      hplain (htokens ▸ reads_identity) hbodies hrun (fun _ herror => by cases herror) (Nat.le_refl 0)
      (show 1000 ≤ 1000 by decide)
    exact ⟨value, after, state, state', value', hrun, hafter, hvalue, htrees⟩

end Interpreter

end Rewind
