import Rewind.Proofs.Limits
import Rewind.Proofs.Tree.Meaning
import Rewind.Proofs.Tree.Reading

namespace Rewind

instance : LawfulMonad TreeEval :=
  LawfulMonad.mk' TreeEval
    (fun x => by
      funext state
      show TreeEval.bind x _ state = _
      unfold TreeEval.bind
      cases x state <;> rfl)
    (fun _ _ => rfl)
    (fun x f g => by
      funext state
      show TreeEval.bind (TreeEval.bind x f) g state = TreeEval.bind x (fun a => TreeEval.bind (f a) g) state
      unfold TreeEval.bind
      cases x state <;> rfl)

/-- The hosts do not answer with functions. -/
def Hosts.Plain (hosts : Hosts) : Prop :=
  ∀ host earlier code value, (hosts host).answer earlier code = .ok value → ∀ f, value ≠ .function f

/-- What the evaluation of trees is given. -/
structure Scene where
  hosts : Hosts
  patience : Nat
  calls : Nat
  plain : hosts.Plain

namespace Scene

def invoke (scene : Scene) : TreeFunction → List TreeValue → TreeEval TreeValue :=
  TreeFunction.invoke scene.hosts scene.patience scene.calls

def eval (scene : Scene) (tree : Tree) : TreeEval TreeValue := tree.eval scene.hosts scene.patience scene.invoke

def evalAll (scene : Scene) (trees : List Tree) : TreeEval (List TreeValue) :=
  Tree.evalAll scene.hosts scene.patience scene.invoke trees

/-- The frame has the same hosts, and the evaluation of trees is given no less. -/
structure Fits (scene : Scene) (frame : Frame) : Prop where
  hosts : frame.hosts = scene.hosts
  patience : frame.patience ≤ scene.patience
  calls : frame.limits.calls ≤ scene.calls + frame.depth

end Scene

/-- The outcome of a computation over tokens is that of one over trees, and it ends at
    `q`. Nothing is said where a limit is hit, or patience runs out. -/
inductive Simulated (q : Nat) {α β : Type} (V : α → β → Prop) : Outcome α → TreeOutcome β → Prop where
  | done {a : α} {b : β} {after : Machine} {state : TreeState} (hresults : V a b) (hpos : after.pos = q)
    (hmeans : after.Means state) : Simulated q V (.done a after) (.done b state)
  | failed {error : Error} {span : Span} {after : Machine} {state : TreeState} (hspan : error.span = some span)
    (hmeans : after.Means state) : Simulated q V (.failed error after) (.failed error.cause.message span state)
  | limit {error : Error} {after : Machine} {outcome : TreeOutcome β} (hlimit : error.IsLimit) :
    Simulated q V (.failed error after) outcome
  | unfinished {outcome : TreeOutcome β} : Simulated q V .unfinished outcome

namespace Eval

/-- From `p` to `q`, `x` does over tokens what `y` does over trees. -/
def Simulates (scene : Scene) (tokens : Array Located) (p q : Nat) {α β : Type} (V : α → β → Prop) (x : Eval α)
    (y : TreeEval β) : Prop :=
  ∀ (frame : Frame) (start : Machine) (state : TreeState), frame.tokens = tokens → scene.Fits frame →
    start.pos = p → start.Means state → Simulated q V (x frame start) (y state)

/-- From `p` to `q`, `x` only moves, and yields `a`. -/
def Moves (tokens : Array Located) (p q : Nat) {α : Type} (a : α) (x : Eval α) : Prop :=
  ∀ (frame : Frame) (start : Machine), frame.tokens = tokens → start.pos = p →
    ∃ after, x frame start = .done a after ∧ after.pos = q ∧ after.env = start.env ∧
      after.made = start.made ∧ after.calls = start.calls

namespace Moves

variable {tokens : Array Located} {p q r : Nat} {α β : Type}

theorem bind {a : α} {b : β} {x : Eval α} {f : α → Eval β} (hx : Moves tokens p r a x)
    (hf : Moves tokens r q b (f a)) : Moves tokens p q b (x >>= f) := by
  intro frame start htokens hpos
  obtain ⟨mid, hmid, hpos, henv, hmade, hcalls⟩ := hx frame start htokens hpos
  obtain ⟨after, hafter, hpos', henv', hmade', hcalls'⟩ := hf frame mid htokens hpos
  exact ⟨after, (bind_of_done hmid).trans hafter, hpos', henv'.trans henv, hmade'.trans hmade,
    hcalls'.trans hcalls⟩

theorem pure (a : α) : Moves tokens p p a (Pure.pure a) :=
  fun _ start _ hpos => ⟨start, rfl, hpos, rfl, rfl, rfl⟩

theorem advance {located : Located} (hcurrent : tokens[p]? = some located) :
    Moves tokens p (p + 1) () advance := by
  rintro frame start rfl rfl
  exact ⟨_, advance_of_current hcurrent, rfl, rfl, rfl, rfl⟩

theorem expectPunct {lexeme : String} (hpunct : PunctAt tokens p lexeme) :
    Moves tokens p (p + 1) () (expectPunct lexeme) := by
  rintro frame start rfl rfl
  exact ⟨_, (expectPunct_apply frame start lexeme).trans (if_pos hpunct), rfl, rfl, rfl, rfl⟩

theorem expectName {name : String} {span : Span} (hname : NameAt tokens p name span) :
    Moves tokens p (p + 1) (name, span) expectName := by
  rintro frame start rfl rfl
  refine ⟨{ start with pos := start.pos + 1 }, ?_, rfl, rfl, rfl, rfl⟩
  rw [expectName_apply, hname]
  rfl

theorem cursor : Moves tokens p p ⟨tokens, p⟩ cursor := by
  rintro frame start rfl rfl
  exact ⟨start, rfl, rfl, rfl, rfl, rfl⟩

theorem rounds : Moves tokens p p (tokens.size + 1) rounds := by
  rintro frame start rfl rfl
  exact ⟨start, rfl, rfl, rfl, rfl, rfl⟩

theorem firstToken {located : Located} (hcurrent : tokens[p]? = some located) :
    Moves tokens p p located firstToken := by
  rintro frame start rfl rfl
  refine ⟨start, ?_, rfl, rfl, rfl, rfl⟩
  rw [firstToken_apply, hcurrent]

private theorem operator? (tier : Tier) :
    Moves tokens p p (tokens[p]?.filter (·.token.isOperator tier)) (operator? tier) := by
  rintro frame start rfl rfl
  exact ⟨start, operator?_apply frame start tier, rfl, rfl, rfl, rfl⟩

theorem tryKeyword_of {keyword : Keyword} (hkeyword : KeywordAt tokens p keyword) :
    Moves tokens p (p + 1) true (tryKeyword keyword) := by
  rintro frame start rfl rfl
  exact ⟨_, (tryKeyword_apply frame start keyword).trans (if_pos hkeyword), rfl, rfl, rfl, rfl⟩

theorem tryKeyword_of_not {keyword : Keyword} (hkeyword : ¬ KeywordAt tokens p keyword) :
    Moves tokens p p false (tryKeyword keyword) := by
  rintro frame start rfl rfl
  exact ⟨start, (tryKeyword_apply frame start keyword).trans (if_neg hkeyword), rfl, rfl, rfl, rfl⟩

theorem skipRegion (hopen : PunctAt tokens p "(") (hclose : closeFrom tokens (p + 1) 0 = some q) :
    Moves tokens p q () skipList := by
  rintro frame start rfl rfl
  have hskip : Eval.skipList frame start = .done () { start with pos := q } := by
    rw [skipList_apply, if_pos hopen, hclose]
  exact ⟨_, hskip, rfl, rfl, rfl, rfl⟩

theorem skipList {trees : List Tree} (hlist : Reads tokens (.list trees) p q) : Moves tokens p q () skipList :=
  skipRegion hlist.list_closes.1 hlist.list_closes.2

theorem rewind : Moves tokens p q () (rewind q) :=
  fun _ _ _ _ => ⟨_, rfl, rfl, rfl, rfl, rfl⟩

theorem record (event : Event) : Moves tokens p p () (update (·.record event)) :=
  fun _ _ _ hpos => ⟨_, rfl, hpos, rfl, rfl, rfl⟩

theorem noteNesting (budget : Nat) : Moves tokens p p () (noteNesting budget) :=
  fun _ _ _ hpos => ⟨_, rfl, hpos, rfl, rfl, rfl⟩

end Moves

namespace Simulates

variable {scene : Scene} {tokens : Array Located} {p q r : Nat} {α β γ δ : Type} {V : α → β → Prop}
  {W : γ → δ → Prop}

theorem pure {a : α} {b : β} (hresults : V a b) :
    Simulates scene tokens p p V (Pure.pure a) (Pure.pure b) :=
  fun _ _ _ _ _ hpos hmeans => .done hresults hpos hmeans

theorem bind {x : Eval α} {y : TreeEval β} {f : α → Eval γ} {g : β → TreeEval δ}
    (hx : Simulates scene tokens p r V x y) (hf : ∀ a b, V a b → Simulates scene tokens r q W (f a) (g b)) :
    Simulates scene tokens p q W (x >>= f) (y >>= g) := by
  intro frame start state htokens hfits hpos hmeans
  have hfirst := hx frame start state htokens hfits hpos hmeans
  rw [bind_apply, TreeEval.bind_apply]
  generalize x frame start = outcome at hfirst ⊢
  generalize y state = outcome' at hfirst ⊢
  cases hfirst with
  | done hresults hpos hmeans => exact hf _ _ hresults frame _ _ htokens hfits hpos hmeans
  | failed hspan hmeans => exact .failed hspan hmeans
  | limit hlimit => exact .limit hlimit
  | unfinished => exact .unfinished

/-- Moving over tokens means nothing. -/
theorem move {a : α} {x : Eval α} {f : α → Eval γ} {y : TreeEval δ} (hx : Moves tokens p r a x)
    (hf : Simulates scene tokens r q W (f a) y) : Simulates scene tokens p q W (x >>= f) y := by
  intro frame start state htokens hfits hpos hmeans
  obtain ⟨after, hafter, hpos, henv, hmade, hcalls⟩ := hx frame start htokens hpos
  rw [bind_of_done hafter]
  exact hf frame after state htokens hfits hpos (hmeans.of_eq henv hmade hcalls)

theorem of_moves {a : α} {b : β} {x : Eval α} (hx : Moves tokens p q a x) (hresults : V a b) :
    Simulates scene tokens p q V x (Pure.pure b) := by
  intro frame start state htokens _ hpos hmeans
  obtain ⟨after, hafter, hpos, henv, hmade, hcalls⟩ := hx frame start htokens hpos
  rw [hafter]
  exact .done hresults hpos (hmeans.of_eq henv hmade hcalls)

/-- A walk that only skips, before something else. -/
theorem skipping {x : Eval α} {f : α → Eval γ} {y : TreeEval δ}
    (hx : Simulates scene tokens p r anyResult x (Pure.pure ()))
    (hf : ∀ a, Simulates scene tokens r q W (f a) y) : Simulates scene tokens p q W (x >>= f) y := by
  have hbind := bind (g := fun _ : Unit => y) hx fun a _ _ => hf a
  rwa [pure_bind] at hbind

theorem fail {span : Span} {cause : Cause} {message : String} (hmessage : cause.message = message) :
    Simulates scene tokens p q V (failAt span cause) (TreeEval.fail message span) := by
  subst hmessage
  exact fun _ _ _ _ _ _ hmeans => @Simulated.failed _ _ _ _ (.atSpan span cause) span _ _ rfl hmeans

theorem update {change : Machine → Machine} {change' : TreeState → TreeState}
    (hpos : ∀ machine, (change machine).pos = machine.pos)
    (hchange : ∀ {machine state}, Machine.Means machine state → (change machine).Means (change' state)) :
    Simulates scene tokens p p anyResult (update change) (TreeEval.update change') :=
  fun _ start _ _ _ hstart hmeans => .done trivial ((hpos start).trans hstart) (hchange hmeans)

theorem tooNested {y : TreeEval β} (located : Located) :
    Simulates scene tokens p q V (tooNested located) y :=
  fun frame _ _ _ _ _ _ => .limit ⟨frame.limits.nesting, .inr rfl⟩

/-- The operators and items of a chain, applied one by one. -/
def chainedOn (eval : Tree → TreeEval β) (combine : Located → β → β → TreeEval β) :
    (rest : List (Located × Tree)) → (left : β) → TreeEval β
  | [], left => Pure.pure left
  | (operator, item) :: rest, left => do
    let right ← eval item
    let value ← combine operator left right
    chainedOn eval combine rest value

section Chain

variable {item : Eval α} {combine : Located → α → α → Except Error α} {eval : Tree → TreeEval β}
  {combine' : Located → β → β → TreeEval β} {tier : Tier}

private theorem eval_chained (hbinary : ∀ operator left right, eval (.binary operator left right) =
      eval left >>= fun l => eval right >>= combine' operator l) (first : Tree) (rest : List (Located × Tree)) :
    eval (first.chained rest) = eval first >>= chainedOn eval combine' rest := by
  induction rest generalizing first with
  | nil => exact (bind_pure _).symm
  | cons next rest ih =>
    obtain ⟨operator, item⟩ := next
    show eval ((Tree.binary operator first item).chained rest) = _
    rw [ih, hbinary, bind_assoc]
    refine congrArg _ (funext fun left => ?_)
    rw [bind_assoc]
    rfl

variable (hcombine : ∀ {p : Nat} (operator : Located) {l r : α} {l' r' : β}, V l l' → V r r' →
  Simulates scene tokens p p V (ofExcept (combine operator l r)) (combine' operator l' r'))

include hcombine

/-- A chain goes on as long as its tail. The bound on its rounds is no obstacle,
    because each of them moves past a token. -/
private theorem chainFrom (hitem : ∀ {tree p q}, Reads tokens (tier.item tree) p q →
      Simulates scene tokens p q V item (eval tree))
    {rest : List (Located × Tree)} (hreads : Reads tokens (.tail tier rest) p q) {rounds : Nat}
    (hrounds : tokens.size - p < rounds) {left : α} {left' : β} (hleft : V left left') :
    Simulates scene tokens p q V (chainFrom tier item combine rounds left)
      (chainedOn eval combine' rest left') := by
  induction rest generalizing p rounds left left' with
  | nil =>
    obtain ⟨rounds, rfl⟩ : ∃ n, rounds = n + 1 := ⟨rounds - 1, by omega⟩
    cases hreads with
    | tailEnd hend =>
      refine move (Moves.operator? tier) ?_
      rw [hend]
      exact pure hleft
  | cons next rest ih =>
    obtain ⟨rounds, rfl⟩ : ∃ n, rounds = n + 1 := ⟨rounds - 1, by omega⟩
    cases hreads with
    | @tailCons _ r _ _ operator tree _ htoken hoperator htree hrest =>
      have hcurrent : tokens[p]?.filter (·.token.isOperator tier) = some operator := by
        rw [htoken]
        exact Option.filter_eq_some_iff.2 ⟨rfl, hoperator⟩
      have hbegun := htree.begun_item
      have hmoves := hbegun.moves
      have hinside := hbegun.inside
      refine move (Moves.operator? tier) ?_
      rw [hcurrent]
      refine move (.advance htoken) (bind (hitem htree) fun right right' hright => ?_)
      have hrounds : tokens.size - r < rounds := by omega
      have hnext := bind (hcombine operator hleft hright) fun value value' hvalue => ih hrest hrounds hvalue
      revert hnext
      cases combine operator left right <;> exact id

variable (hbinary : ∀ operator left right, eval (.binary operator left right) =
  eval left >>= fun l => eval right >>= combine' operator l)

include hbinary

private theorem chain (hitem : ∀ {tree p q}, Reads tokens (tier.item tree) p q →
      Simulates scene tokens p q V item (eval tree))
    {tree : Tree} (hreads : Reads tokens (.chain tier tree) p q) :
    Simulates scene tokens p q V (chain tier item combine) (eval tree) := by
  cases hreads with
  | chain hfirst hrest =>
    rw [eval_chained hbinary]
    refine bind (hitem hfirst) fun first first' hvalue => move Moves.rounds ?_
    exact chainFrom hcombine hitem hrest (by omega) hvalue

/-- The items of the outer tier are chains of the inner one. -/
theorem expression (hoperand : ∀ {tree p q}, Reads tokens (.operand tree) p q →
      Simulates scene tokens p q V item (eval tree))
    {tree : Tree} (hreads : Reads tokens (.expression tree) p q) :
    Simulates scene tokens p q V (expression item combine) (eval tree) := by
  have hinner {tree : Tree} {p q : Nat} (hreads : Reads tokens (Tier.additive.item tree) p q) :
      Simulates scene tokens p q V item (eval tree) := hoperand hreads
  have hitem {tree : Tree} {p q : Nat} (hreads : Reads tokens (Tier.multiplicative.item tree) p q) :
      Simulates scene tokens p q V (Eval.chain .additive item combine) (eval tree) :=
    chain hcombine hbinary hinner hreads
  exact chain hcombine hbinary hitem hreads

end Chain

end Simulates

end Eval

end Rewind
