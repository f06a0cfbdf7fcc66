import Rewind.Proofs.Reduction
import Rewind.Proofs.Formula
import Rewind.Proofs.Limits.Peaks
import Rewind.Proofs.Parallel.Program
import Rewind.Proofs.Tree

namespace Rewind

private theorem PunctAt.not_comma {tokens : Array Located} {pos : Nat} (hclose : PunctAt tokens pos ")") :
    ¬ PunctAt tokens pos "," := by
  obtain ⟨located, hcurrent, hclose⟩ := Eval.isPunct_iff.1 hclose
  intro hcomma
  obtain ⟨_, hcurrent', hcomma⟩ := Eval.isPunct_iff.1 hcomma
  cases hcurrent.symm.trans hcurrent'
  simp only [Token.isPunct, Bool.and_eq_true, beq_iff_eq] at hclose hcomma
  exact absurd (hclose.2.symm.trans hcomma.2) (by decide)

namespace Eval

namespace Reduces

variable {frame : Frame} {p q : Nat} {located : Located} {result : Except Error Value} {inner : Eval Value}

private theorem operand {budget : Nat} (hcurrent : frame.tokens[p]? = some located)
    (hform : Reduces frame p q (form (evaluate budget) (skipExpression budget) located) result Pure.pure) :
    Reduces frame p q (operand (budget + 1)) result Pure.pure := by
  rw [Eval.operand]
  exact after (firstToken hcurrent) (after (noteNesting budget) hform)

/-- A literal is one token. -/
private theorem literal {form : Eval Value} {value : Value} (hcurrent : frame.tokens[p]? = some located)
    (hform : form = Eval.advance >>= fun _ => Pure.pure value) :
    Reduces frame p (p + 1) form (.ok value) Pure.pure := by
  subst hform
  exact after (advance hcurrent) (here value Pure.pure)

/-- The elements of a list of one expression. -/
private theorem elements (hinside : p < frame.tokens.size) (hopen : ¬ PunctAt frame.tokens p ")")
    (hinner : Reduces frame p q inner result Pure.pure) (hclose : PunctAt frame.tokens q ")") :
    Reduces frame p q (elementsFrom inner (frame.tokens.size + 1) #[]) result fun value => Pure.pure #[value] := by
  have hmore : ¬ ((Cursor.mk frame.tokens p).atEnd || (Cursor.mk frame.tokens p).isPunct ")") = true := by
    simp [Cursor.atEnd, hopen, hinside]
  obtain ⟨rounds, hrounds⟩ : ∃ n, frame.tokens.size = n + 1 := ⟨frame.tokens.size - 1, by omega⟩
  rw [elementsFrom]
  refine after cursor ?_
  rw [if_neg hmore]
  refine hinner.last fun value => after cursor ?_
  rw [if_neg hclose.not_comma, hrounds, elementsFrom]
  refine after cursor ?_
  rw [if_pos (Bool.or_eq_true_iff.2 (.inr hclose))]
  exact here value fun value => Pure.pure #[value]

/-- A list of one expression. -/
private theorem list (hopen : PunctAt frame.tokens p "(") (hinside : p + 1 < frame.tokens.size)
    (hfirst : ¬ PunctAt frame.tokens (p + 1) ")") (hinner : Reduces frame (p + 1) q inner result Pure.pure)
    (hclose : PunctAt frame.tokens q ")") :
    Reduces frame p (q + 1) (list inner) result fun value => Pure.pure #[value] := by
  refine after (expectPunct hopen) (after rounds ?_)
  refine (elements hinside hfirst hinner hclose).bind.follow fun value => ?_
  rw [pure_bind]
  exact after (expectPunct hclose) (here value fun value => Pure.pure #[value])

/-- An expression between parentheses is one level further in. -/
private theorem parenthesised {budget : Nat} (hcurrent : frame.tokens[p]? = some located)
    (hopen : located.token.isPunct "(")
    (hinside : p + 1 < frame.tokens.size) (hfirst : ¬ PunctAt frame.tokens (p + 1) ")")
    (hinner : Reduces frame (p + 1) q (evaluate budget) result Pure.pure) (hclose : PunctAt frame.tokens q ")") :
    Reduces frame p (q + 1) (Eval.operand (budget + 1)) result Pure.pure := by
  have hlist := list (isPunct_iff.2 ⟨located, hcurrent, hopen⟩) hinside hfirst hinner hclose
  refine operand hcurrent ?_
  simp only [Token.isPunct, Bool.and_eq_true, beq_iff_eq] at hopen
  simp only [form, hopen.1, hopen.2, beq_self_eq_true, if_true]
  exact hlist.bind

end Reduces

/-- A chain goes on with as many rounds as there can be. -/
def Chains {α : Type} (frame : Frame) (p q : Nat) (tier : Tier) (item : Eval α)
    (combine : Located → α → α → Except Error α) (result : Except Error α) : Prop :=
  Reduces frame p q (chain tier item combine) result (chainFrom tier item combine (frame.tokens.size + 1))

namespace Chains

variable {α : Type} {frame : Frame} {p q r : Nat} {tier : Tier} {item : Eval α}
  {combine : Located → α → α → Except Error α} {result : Except Error α}

/-- A chain begins with an item. -/
private theorem of_item (hitem : Reduces frame p q item result Pure.pure) : Chains frame p q tier item combine result :=
  hitem.bind

private theorem done (hchain : Chains frame p q tier item combine result)
    (hend : frame.tokens[q]?.filter (·.token.isOperator tier) = none) :
    Reduces frame p q (chain tier item combine) result Pure.pure :=
  Reduces.follow hchain (Reduces.chainEnd hend)

private theorem step (hchain : Chains frame p r tier item combine result) {operator : Located}
    (hoperator : frame.tokens[r]? = some operator) (htier : operator.token.isOperator tier = true)
    {result' : Except Error α} (hitem : Reduces frame (r + 1) q item result' Pure.pure) (hadvances : Advances item)
    (hmoved : r < q) :
    Chains frame p q tier item combine (do combine operator (← result) (← result')) :=
  Reduces.trans hchain fun left _ => Reduces.chainRound hoperator htier hitem hadvances hmoved left

end Chains

end Eval

/-- What is left of a buffer from a position on. -/
def LeftAt (tokens : Array Located) (p : Nat) (rest : List Located) : Prop := tokens.toList.drop p = rest

namespace LeftAt

variable {tokens : Array Located} {p : Nat} {before rest : List Located} {located : Located}

private theorem getElem? (hleft : LeftAt tokens p rest) : tokens[p]? = rest.head? := by
  rw [← hleft, List.head?_drop, Array.getElem?_toList]

private theorem skip (hleft : LeftAt tokens p (before ++ rest)) : LeftAt tokens (p + before.length) rest := by
  rw [LeftAt, ← List.drop_drop, hleft, List.drop_left]

private theorem current (hleft : LeftAt tokens p (located :: rest)) : tokens[p]? = some located := hleft.getElem?

private theorem next (hleft : LeftAt tokens p (located :: rest)) : LeftAt tokens (p + 1) rest :=
  @skip tokens p [located] rest hleft

end LeftAt

namespace Formula

open Eval

/-- How something written is evaluated, by the tier of its outermost operator: as an operand, if
    there is none, as the beginning of an additive chain, unless it is one of the other tier, and as
    the beginning of an expression. -/
structure Evaluates (frame : Frame) (budget : Nat) (tokens : Nat → List Located) (eval : Nat → Except Error Value)
    (tier : Option Tier) : Prop where
  operand : ∀ offset {p rest}, LeftAt frame.tokens p (tokens offset ++ rest) → tier = none →
    Reduces frame p (p + (tokens offset).length) (operand budget) (eval offset) Pure.pure
  additive : ∀ offset {p rest}, LeftAt frame.tokens p (tokens offset ++ rest) → tier ≠ some .multiplicative →
    Chains frame p (p + (tokens offset).length) .additive (Eval.operand budget) combine (eval offset)
  whole : ∀ offset {p rest}, LeftAt frame.tokens p (tokens offset ++ rest) →
    rest.head?.filter (·.token.isOperator .additive) = none →
    Chains frame p (p + (tokens offset).length) .multiplicative (chain .additive (Eval.operand budget) combine) combine
      (eval offset)

namespace Evaluates

variable {frame : Frame} {budget : Nat} {tokens tokens' : Nat → List Located} {eval eval' : Nat → Except Error Value}
  {tier tier' : Option Tier}

/-- The additive tier is the inner one. -/
private theorem of_additive (hadditive : ∀ offset {p rest}, LeftAt frame.tokens p (tokens offset ++ rest) →
      Chains frame p (p + (tokens offset).length) .additive (Eval.operand budget) combine (eval offset)) :
    Evaluates frame budget tokens eval (some .additive) where
  operand _ _ _ _ htier := by cases htier
  additive offset _ _ hleft _ := hadditive offset hleft
  whole offset _ _ hleft hend := by
    refine .of_item ((hadditive offset hleft).done ?_)
    rw [hleft.skip.getElem?, hend]

private theorem of_operand (hoperand : ∀ offset {p rest}, LeftAt frame.tokens p (tokens offset ++ rest) →
      Reduces frame p (p + (tokens offset).length) (Eval.operand budget) (eval offset) Pure.pure) :
    Evaluates frame budget tokens eval none where
  operand offset _ _ hleft _ := hoperand offset hleft
  additive offset _ _ hleft _ := .of_item (hoperand offset hleft)
  whole := (of_additive fun offset _ _ hleft => .of_item (hoperand offset hleft)).whole

/-- Where no operator follows, an expression ends. -/
private theorem expression (hevaluates : Evaluates frame budget tokens eval tier) {offset p : Nat} {rest : List Located}
    (hleft : LeftAt frame.tokens p (tokens offset ++ rest))
    (hend : ∀ tier, rest.head?.filter (·.token.isOperator tier) = none) :
    Reduces frame p (p + (tokens offset).length) (evaluate budget) (eval offset) Pure.pure := by
  refine (hevaluates.whole offset hleft (hend _)).done ?_
  rw [hleft.skip.getElem?, hend]

/-- An expression between parentheses is an operand, one level further out. -/
private theorem parenthesised {text : List Char} (hinner : Evaluates frame budget tokens eval tier)
    (hopen : ∀ offset, ∃ located rest, tokens offset = located :: rest ∧ ¬ located.token.isPunct ")") :
    Evaluates frame (budget + 1) (encloseTokens true text tokens) (fun offset => eval (inside true offset)) none := by
  refine of_operand fun offset p rest hleft => ?_
  simp only [encloseTokens, if_true, List.cons_append, List.append_assoc] at hleft ⊢
  have hcurrent := hleft.current
  have hinside := hleft.next
  obtain ⟨located, others, htokens, hfirst⟩ := hopen (offset + 1)
  have hlater : frame.tokens[p + 1]? = some located := by
    rw [hinside.getElem?, htokens]
    rfl
  have hclosing := hinside.skip.current
  have hreduces := Reduces.parenthesised hcurrent (by rfl) (Array.getElem?_eq_some_iff.1 hlater).1 ?_
    (hinner.expression hinside ?_) (isPunct_iff.2 ⟨_, hclosing, rfl⟩)
  · have hlength : (tokens (offset + 1)).length + 1 + 1 = 1 + (tokens (offset + 1)).length + 1 := by omega
    simp only [List.length_cons, List.length_append, List.length_nil, Nat.zero_add, hlength, ← Nat.add_assoc]
    exact hreduces
  · intro hclose
    obtain ⟨_, hcurrent', hclose⟩ := isPunct_iff.1 hclose
    cases hlater.symm.trans hcurrent'
    exact hfirst hclose
  · intro tier
    cases tier <;> rfl

private theorem enclose {text : List Char} (wrapped : Bool) {nesting : Nat}
    (hinner : ∀ {budget}, nesting < budget → Evaluates frame budget tokens eval tier)
    (hopen : ∀ offset, ∃ located rest, tokens offset = located :: rest ∧ ¬ located.token.isPunct ")")
    (hbudget : nesting + wrapped.toNat < budget) :
    Evaluates frame budget (encloseTokens wrapped text tokens) (fun offset => eval (inside wrapped offset))
      (if wrapped then none else tier) := by
  cases wrapped with
  | false => exact hinner hbudget
  | true =>
    obtain ⟨budget, rfl⟩ : ∃ n, budget = n + 1 := ⟨budget - 1, by simp at hbudget; omega⟩
    exact (hinner (Nat.lt_of_succ_lt_succ hbudget)).parenthesised hopen

end Evaluates

section Trees

variable {gap : Gap} {frame : Frame}

private theorem exists_first (f : Formula) (offset : Nat) :
    ∃ located rest, f.tokens gap offset = located :: rest ∧ ¬ located.token.isPunct ")" := by
  induction f generalizing offset with
  | number digits => exact ⟨_, _, rfl, by simp [Located.spanning, Token.isPunct]⟩
  | string quotation => exact ⟨_, _, rfl, by simp [Located.spanning, Token.isPunct]⟩
  | binary operator left right ihleft _ =>
    simp only [tokens, encloseTokens]
    split
    · exact ⟨_, _, rfl, by simp [Located.spanning, Token.isPunct]⟩
    · obtain ⟨located, rest, htokens, hfirst⟩ := ihleft offset
      exact ⟨located, _, by rw [htokens]; rfl, hfirst⟩

/-- Both sides, and then the operator. -/
private theorem eval_binary (operator : Operator) (left right : Formula) (offset : Nat) :
    (binary operator left right).eval gap offset = (do
      combine (.spanning (signOffset gap operator left offset) operator.token [operator.sign])
        (← left.eval gap (inside (wrapsLeft operator left) offset))
        (← right.eval gap (inside (wrapsRight operator right) (rightOffset gap operator left offset)))) := by
  rw [eval]
  refine congrArg _ (funext fun x => congrArg _ (funext fun y => ?_))
  have hvalue : Value.operate? (Located.spanning (signOffset gap operator left offset) operator.token
      [operator.sign]).token.lexeme x y = operator.value? x y := operator.operate?_eq x y
  cases hfound : operator.value? x y <;> simp [combine, hvalue, hfound]

private theorem evaluates (f : Formula) {budget : Nat} (hnesting : f.nesting < budget) :
    Evaluates frame budget (f.tokens gap) (f.eval gap) f.tier? := by
  induction f generalizing budget with
  | number digits =>
    obtain ⟨budget, rfl⟩ : ∃ n, budget = n + 1 := ⟨budget - 1, by omega⟩
    exact .of_operand fun offset p rest hleft => .operand hleft.current (.literal hleft.current rfl)
  | string quotation =>
    obtain ⟨budget, rfl⟩ : ∃ n, budget = n + 1 := ⟨budget - 1, by omega⟩
    exact .of_operand fun offset p rest hleft => .operand hleft.current (.literal hleft.current rfl)
  | binary operator left right ihleft ihright =>
    simp only [nesting, Nat.max_lt] at hnesting
    have hleft : Evaluates frame budget (encloseTokens _ (left.text gap) _) _ _ :=
      .enclose (wrapsLeft operator left) ihleft left.exists_first hnesting.1
    have hright : Evaluates frame budget (encloseTokens _ (right.text gap) _) _ _ :=
      .enclose (wrapsRight operator right) ihright right.exists_first hnesting.2
    have hlength (offset : Nat) : ((binary operator left right).tokens gap offset).length =
        (encloseTokens (wrapsLeft operator left) (left.text gap) (left.tokens gap) offset).length + 1 +
          (encloseTokens (wrapsRight operator right) (right.text gap) (right.tokens gap)
            (rightOffset gap operator left offset)).length := by
      simp only [tokens, List.length_append, List.length_cons]
      omega
    rw [tier?]
    cases htier : operator.tier with
    | additive =>
      have htierLeft : (if wrapsLeft operator left then none else left.tier?) ≠ some .multiplicative := by
        simp [wrapsLeft, htier]
      have htierRight : (if wrapsRight operator right then none else right.tier?) = none := by
        simp [wrapsRight, htier]
      refine .of_additive fun offset p rest hat => ?_
      rw [hlength, eval_binary, ← Nat.add_assoc, ← Nat.add_assoc]
      simp only [tokens, List.append_assoc, List.cons_append] at hat
      have hoperator := hat.skip.current
      refine (hleft.additive offset hat htierLeft).step hoperator ((operator.isOperator_token _).2 htier)
        (hright.operand _ hat.skip.next htierRight) (.operand budget) (by omega)
    | multiplicative =>
      have htierRight : (if wrapsRight operator right then none else right.tier?) ≠ some .multiplicative := by
        simp [wrapsRight, htier]
      have hadditive : ¬ operator.token.isOperator .additive = true := by
        rw [operator.isOperator_token, htier]
        decide
      refine ⟨fun _ _ _ _ hnone => (by cases hnone), fun _ _ _ _ hne => absurd rfl hne, ?_⟩
      intro offset p rest hat hend
      rw [hlength, eval_binary, ← Nat.add_assoc, ← Nat.add_assoc]
      simp only [tokens, List.append_assoc, List.cons_append] at hat
      have hoperator := hat.skip.current
      have hitem := (hright.additive _ hat.skip.next htierRight).done (by rw [hat.skip.next.skip.getElem?, hend])
      refine (hleft.whole offset hat ?_).step hoperator ((operator.isOperator_token _).2 htier) hitem
        (.chain ((Agrees.operand budget).level (.skipOperand budget)) (.operand budget)) (by omega)
      simp [Located.spanning, hadditive]

/-- A whole buffer. -/
private theorem program_goes (f : Formula) (hbuffer : frame.tokens.toList = f.tokens gap 0)
    (hnesting : f.nesting < frame.limits.nesting) :
    Reduces frame 0 frame.tokens.size program (f.eval gap 0) Pure.pure := by
  have hat : LeftAt frame.tokens 0 (f.tokens gap 0 ++ []) := by simp [LeftAt, hbuffer]
  have hsize : frame.tokens.size = 0 + (f.tokens gap 0).length := by rw [← hbuffer, Array.length_toList, Nat.zero_add]
  obtain ⟨located, rest, htokens, _⟩ := f.exists_first 0
  have hcurrent : frame.tokens[0]? = some located := by
    rw [hat.getElem?, htokens]
    rfl
  refine .stay (y := evaluate frame.limits.nesting >>=
    programFrom (evaluate frame.limits.nesting) frame.tokens.size) (fun start hpos => ?_) ?_
  · rw [← hpos] at hcurrent
    rw [program_apply, programFrom_of_current hcurrent]
  · have hexpression := (f.evaluates hnesting).expression hat fun _ => rfl
    rw [hsize]
    refine hexpression.bind.follow fun value => .stay (fun start hpos => ?_) (.here value _)
    have hended : frame.tokens[start.pos]? = none := by
      rw [hpos, hat.skip.getElem?]
      rfl
    rw [pure_bind, htokens]
    exact programFrom_of_ended hended _ value

end Trees

end Formula

namespace Interpreter

/-- Minimal parentheses are enough. The text of a formula, in which additive operators bind tighter
    and both tiers group to the left, has the value of the formula, or fails where and as the first
    of its operators to fail does. Nothing else changes. -/
theorem formulas_need_no_more_parentheses (f : Formula) (gap : Gap) (machine : Machine) (limits : Limits)
    (hnesting : f.nesting < limits.nesting) (hosts : Hosts) (patience : Nat) :
    ∃ pos depth, (onMachine (String.ofList (f.text gap)) machine limits).run hosts patience =
      some (f.eval gap 0, { onMachine (String.ofList (f.text gap)) machine limits with
        machine := { machine with pos, deepestCall := 0, deepestNesting := depth } }) := by
  have hreduces := @Formula.program_goes gap
    ((onMachine (String.ofList (f.text gap)) machine limits).frame hosts patience)
    f f.tokenize_text hnesting (onMachine (String.ofList (f.text gap)) machine limits).machine rfl
  rw [run_eq_report]
  cases hvalue : f.eval gap 0 with
  | ok value =>
    rw [hvalue] at hreduces
    obtain ⟨depth, hdone⟩ := hreduces
    rw [hdone]
    exact ⟨_, depth, rfl⟩
  | error error =>
    rw [hvalue] at hreduces
    obtain ⟨pos, depth, hfailed⟩ := hreduces
    rw [hfailed]
    exact ⟨pos, depth, rfl⟩

/-- A difference on the right needs its parentheses and one on the left does not. Numbers cannot
    be multiplied by a string. -/
def crooked : Formula :=
  let digit (c : Char) (hdigit : isNumberChar c = true) : Formula := .number ⟨[c], by simp, by simpa using hdigit⟩
  .binary .times (.binary .minus (digit '1' rfl) (.binary .minus (digit '2' rfl) (digit '3' rfl)))
    (.string ⟨'\x27', ['a'], rfl, by decide⟩)

def blank : Gap := ⟨[' '], by simpa using (by decide +kernel : CharClass.of ' ' = .skipped)⟩

/-- The last operator fails, with the value of what is on its left. -/
theorem formulas_need_no_more_parentheses_of_crooked :
    ∃ after, (onMachine "1 - (2 - 3) * 'a'" (.ofConfig {}) {}).run (fun _ => .echo) 0 =
      some (.error (.operands ⟨⟨.operator, "*"⟩, ⟨12, 13⟩⟩
        (.number (Number.ofNumeral "1" - (Number.ofNumeral "2" - Number.ofNumeral "3"))) (.string "a")), after) := by
  have htext : String.ofList (crooked.text blank) = "1 - (2 - 3) * 'a'" := by decide
  obtain ⟨pos, depth, hrun⟩ := formulas_need_no_more_parentheses crooked blank (.ofConfig {}) {} (by decide)
    (fun _ => .echo) 0
  rw [htext] at hrun
  exact ⟨_, hrun⟩

end Interpreter

end Rewind
