import Rewind.Proofs.Tree.Forms
import Rewind.Proofs.Tree.Skipping

namespace Rewind.Eval.Simulates

variable {scene : Scene} {tokens : Array Located} {p q r : Nat} {inner : Eval Value}

theorem call (hinner : Everywhere scene inner) {located : Located} (htoken : tokens[p]? = some located)
    {name : String} {span : Span} (hname : NameAt tokens (p + 1) name span) {arguments : List Tree}
    (harguments : Reads tokens (.list arguments) (p + 2) q) :
    Simulates scene tokens p q Value.Means (call inner) (scene.eval (.call name span arguments)) := by
  have hlist := list hinner.here harguments
  refine move (.advance htoken) (move (.expectName hname) ?_)
  refine bind (lookup name span) fun callee callee' hcallee => ?_
  have hrefused {v : Value} {w : TreeValue} (hvalue : v.Means w) :
      Simulates scene tokens (p + 2) q Value.Means (failAt span (.notCallable name v))
        (TreeEval.fail ("`" ++ name ++ "` is not callable: it is bound to " ++ w.described) span) := by
    refine fail ?_
    dsimp only [Cause.message]
    rw [hvalue.described]
  cases hcallee with
  | function hf => exact bind hlist fun values values' hvalues => invoke hinner hf hvalues span
  | native host => exact bind hlist fun values values' hvalues => consult name host span hvalues
  | number x => exact hrefused (.number x)
  | string text => exact hrefused (.string text)
  | nil => exact hrefused .nil

private theorem eval_cond (scene : Scene) (test : Tree) (yes no : List Tree) :
    scene.eval (.cond test yes no) = scene.eval test >>= fun value =>
      if value.truthy then scene.evalAll yes >>= fun values => Pure.pure (lastOr (.number 0) values)
      else scene.evalAll no >>= fun values => Pure.pure (lastOr (.number 0) values) := rfl

section Branches

variable (hinner : ∀ {tree p q}, Reads tokens (.expression tree) p q →
    Simulates scene tokens p q Value.Means inner (scene.eval tree))
  {located : Located} (htoken : tokens[p]? = some located)

include hinner htoken

theorem conditional {test : Tree} {yes : List Tree} (htest : Reads tokens (.expression test) (p + 1) r)
    (hyes : Reads tokens (.list yes) r q) (hno : ¬ KeywordAt tokens q .otherwise) :
    Simulates scene tokens p q Value.Means (conditional inner) (scene.eval (.cond test yes [])) := by
  rw [eval_cond]
  refine move (.advance htoken) (bind (hinner htest) fun value value' hvalue => ?_)
  rw [hvalue.truthy]
  split
  · refine bind (list hinner hyes) fun values values' hvalues => move (.tryKeyword_of_not hno) ?_
    exact pure (hvalues.last (.number 0))
  · refine move (.skipList hyes) (move (.tryKeyword_of_not hno) ?_)
    exact pure (Value.Means.number 0)

theorem conditionalElse {s : Nat} {test : Tree} {yes no : List Tree}
    (htest : Reads tokens (.expression test) (p + 1) r) (hyes : Reads tokens (.list yes) r s)
    (helse : KeywordAt tokens s .otherwise) (hno : Reads tokens (.list no) (s + 1) q) :
    Simulates scene tokens p q Value.Means (Eval.conditional inner) (scene.eval (.cond test yes no)) := by
  rw [eval_cond]
  refine move (.advance htoken) (bind (hinner htest) fun value value' hvalue => ?_)
  rw [hvalue.truthy]
  split
  · rw [← bind_pure (scene.evalAll yes), bind_assoc]
    refine bind (list hinner hyes) fun values values' hvalues => move (.tryKeyword_of helse) ?_
    exact move (.skipList hno) (pure (hvalues.last (.number 0)))
  · refine move (.skipList hyes) (move (.tryKeyword_of helse) ?_)
    exact bind (list hinner hno) fun values values' hvalues => pure (hvalues.last (.number 0))

/-- The body of a loop, whose last value is that of the round. -/
def roundOf (scene : Scene) (body : List Tree) : TreeEval TreeValue :=
  scene.evalAll body >>= fun values => Pure.pure (lastOr .nil values)

omit htoken in
private theorem whileRounds {test : Tree} {body : List Tree} (htest : Reads tokens (.expression test) p r)
    (hbody : Reads tokens (.list body) r q) {patience patience' : Nat} (hpatience : patience ≤ patience')
    (iterations : Nat) {last : Value} {last' : TreeValue} (hlast : last.Means last') :
    Simulates scene tokens p q Value.Means (whileRounds inner p patience iterations last)
      (TreeEval.rounds (scene.eval test) (roundOf scene body) patience' last') := by
  induction patience generalizing patience' iterations last last' with
  | zero => exact fun _ _ _ _ _ _ _ => .unfinished
  | succ patience ih =>
    obtain ⟨patience', rfl⟩ : ∃ n, patience' = n + 1 := ⟨patience' - 1, by omega⟩
    refine bind (hinner htest) fun value value' hvalue => ?_
    rw [hvalue.truthy]
    split
    · rw [roundOf, bind_assoc]
      refine bind (list hinner hbody) fun values values' hvalues => move Moves.rewind ?_
      exact ih (by omega) (iterations + 1) (hvalues.last .nil)
    · exact move (.skipList hbody) (move (.record _) (pure hlast))

theorem whileLoop {test : Tree} {body : List Tree} (htest : Reads tokens (.expression test) (p + 1) r)
    (hbody : Reads tokens (.list body) r q) :
    Simulates scene tokens p q Value.Means (whileLoop inner) (scene.eval (.whileLoop test body)) := by
  refine move (.advance htoken) fun frame start state htokens hfits hpos hmeans => ?_
  rw [bind_of_done (show machine frame start = .done start start from rfl),
    bind_of_done (show Eval.frame frame start = .done frame start from rfl), hpos]
  exact whileRounds hinner htest hbody hfits.patience 0 .nil frame start state htokens hfits hpos hmeans

omit htoken in
private theorem forRounds {skip : Eval Unit} {b c : Nat} {test step : Tree} {body : List Tree}
    (hskip : Skips scene tokens (b + 1) c skip) (htest : Reads tokens (.expression test) p b)
    (hsemicolon : PunctAt tokens b ";") (hstep : Reads tokens (.expression step) (b + 1) c)
    (hbody : Reads tokens (.list body) c q) {patience patience' : Nat} (hpatience : patience ≤ patience')
    (iterations : Nat) {last : Value} {last' : TreeValue} (hlast : last.Means last') :
    Simulates scene tokens p q Value.Means (forRounds inner skip p patience iterations last)
      (TreeEval.rounds (scene.eval test) (scene.eval step >>= fun _ => roundOf scene body) patience' last') := by
  induction patience generalizing patience' iterations last last' with
  | zero => exact fun _ _ _ _ _ _ _ => .unfinished
  | succ patience ih =>
    obtain ⟨patience', rfl⟩ : ∃ n, patience' = n + 1 := ⟨patience' - 1, by omega⟩
    refine bind (hinner htest) fun value value' hvalue => move (.expectPunct hsemicolon) ?_
    rw [hvalue.truthy]
    split
    · rw [bind_assoc]
      refine bind (hinner hstep) fun _ _ _ => ?_
      rw [roundOf, bind_assoc]
      refine bind (list hinner hbody) fun values values' hvalues => move Moves.rewind ?_
      exact ih (by omega) (iterations + 1) (hvalues.last .nil)
    · exact skipping hskip fun _ => move (.skipList hbody) (move (.record _) (pure hlast))

theorem forLoop {skip : Eval Unit} {a b c : Nat} {first test step : Tree} {body : List Tree}
    (hskip : Skips scene tokens (b + 1) c skip) (hfirst : Reads tokens (.expression first) (p + 1) a)
    (hsemicolon : PunctAt tokens a ";") (htest : Reads tokens (.expression test) (a + 1) b)
    (hsemicolon' : PunctAt tokens b ";") (hstep : Reads tokens (.expression step) (b + 1) c)
    (hbody : Reads tokens (.list body) c q) :
    Simulates scene tokens p q Value.Means (forLoop inner skip)
      (scene.eval (.forLoop first test step body)) := by
  refine move (.advance htoken) (bind (hinner hfirst) fun _ _ _ => move (.expectPunct hsemicolon) ?_)
  intro frame start state htokens hfits hpos hmeans
  rw [bind_of_done (show machine frame start = .done start start from rfl),
    bind_of_done (show Eval.frame frame start = .done frame start from rfl), hpos]
  exact forRounds hinner hskip htest hsemicolon' hstep hbody hfits.patience 0 .nil frame start state htokens hfits
    hpos hmeans

theorem assign {name : String} {span : Span} (hname : NameAt tokens (p + 1) name span)
    (hequals : PunctAt tokens (p + 2) "=") {value : Tree} (hvalue : Reads tokens (.expression value) (p + 3) q) :
    Simulates scene tokens p q Value.Means (assign inner) (scene.eval (.assign name value)) := by
  refine move (.advance htoken) (move (.expectName hname) (move (.expectPunct hequals) ?_))
  refine bind (hinner hvalue) fun value value' hvalue => ?_
  exact bind (update (fun _ => rfl) fun hmeans => hmeans.bind name hvalue) fun _ _ _ => pure Value.Means.nil

omit htoken in
theorem group {elements : List Tree} (hlist : Reads tokens (.list elements) p q) (span : Span) :
    Simulates scene tokens p q Value.Means
      (do
        match (← Eval.list inner).back? with
        | some value => Pure.pure value
        | none => failAt span .emptyList)
      (scene.eval (.group span elements)) := by
  refine bind (list hinner hlist) fun values values' hvalues => ?_
  have hlast := hvalues.back?
  generalize values.back? = last at hlast ⊢
  generalize values'.getLast? = last' at hlast ⊢
  cases hlast with
  | none => exact fail rfl
  | some hvalue => exact pure hvalue

end Branches

theorem define {located : Located} (htoken : tokens[p]? = some located) {name : String} {span : Span}
    (hname : NameAt tokens (p + 1) name span) (hopen : PunctAt tokens (p + 2) "(") {params : List String}
    (hparams : Reads tokens (.params params) (p + 3) r) (hclose : PunctAt tokens r ")") {body : List Tree}
    (hbody : Reads tokens (.list body) (r + 1) q) :
    Simulates scene tokens p q Value.Means define (scene.eval (.define name params body)) := by
  have hnames := Moves.paramsFrom hparams (show tokens.size - (p + 3) < tokens.size + 1 by omega) #[]
  refine move (.advance htoken) (move (.expectName hname) (move (.expectPunct hopen) (move Moves.rounds ?_)))
  refine move hnames (move (.expectPunct hclose) (move Moves.cursor ?_))
  rw [if_pos hbody.list_closes.1]
  refine move (.skipList hbody) (bind (update (fun _ => rfl) fun hmeans => ?_) fun _ _ _ => pure Value.Means.nil)
  rw [Array.empty_append]
  exact hmeans.define name params hbody

end Rewind.Eval.Simulates
