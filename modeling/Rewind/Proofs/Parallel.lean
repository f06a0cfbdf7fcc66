import Rewind.Proofs.Alike
import Rewind.Proofs.Comparison.Guarded
import Rewind.Proofs.Rounds

namespace Rewind

namespace Cursor

variable {tokens : Array Located} {pos : Nat} {located : Located}

theorem isPunct_of_current (hcurrent : tokens[pos]? = some located) (lexeme : String) :
    (Cursor.mk tokens pos).isPunct lexeme = located.token.isPunct lexeme := by
  simp [isPunct, current?, hcurrent]

theorem isPunct_of_ended (hcurrent : tokens[pos]? = none) (lexeme : String) :
    (Cursor.mk tokens pos).isPunct lexeme = false := by
  simp [isPunct, current?, hcurrent]

theorem keyword?_of_current (hcurrent : tokens[pos]? = some located) :
    (Cursor.mk tokens pos).keyword? = located.token.keyword? := by
  simp [keyword?, current?, hcurrent]

theorem keyword?_of_ended (hcurrent : tokens[pos]? = none) : (Cursor.mk tokens pos).keyword? = none := by
  simp [keyword?, current?, hcurrent]

end Cursor

/-- The tokens at two paired positions. -/
inductive Alignment.Pair (h : Alignment) (l r : Nat) : Prop where
  | token {located located' : Located} (hleft : h.left[l]? = some located) (hright : h.right[r]? = some located')
    (htoken : located.token = located'.token) : Pair h l r
  | ended (hleft : h.left[l]? = none) (hright : h.right[r]? = none) : Pair h l r
  /-- The left buffer ends where the right one goes on. -/
  | beyond {located : Located} (hleft : h.left[l]? = none) (hright : h.right[r]? = some located)
    (hway : h.oneWay) (hfresh : located.token.Fresh) : Pair h l r

theorem Alignment.pair (h : Alignment) {l r : Nat} (hpaired : h.paired l r) : h.Pair l r := by
  cases hleft : h.left[l]? with
  | some located =>
    obtain ⟨located', hright, htoken⟩ := h.current hpaired hleft
    exact .token hleft hright htoken
  | none =>
    cases hright : h.right[r]? with
    | none => exact .ended hleft hright
    | some located =>
      rcases h.ended hpaired hleft with hnone | ⟨hway, hfresh⟩
      · rw [hright] at hnone
        cases hnone
      · exact .beyond hleft hright hway (hfresh located hright)

/-- Both sides stand at an opening parenthesis, or neither does. -/
theorem Alignment.opening_eq (h : Alignment) {l r : Nat} (hpaired : h.paired l r) :
    (Cursor.mk h.left l).isPunct "(" = (Cursor.mk h.right r).isPunct "(" := by
  cases h.pair hpaired with
  | token hleft hright htoken => rw [Cursor.isPunct_of_current hleft, Cursor.isPunct_of_current hright, htoken]
  | ended hleft hright => rw [Cursor.isPunct_of_ended hleft, Cursor.isPunct_of_ended hright]
  | beyond hleft hright _ hfresh =>
    rw [Cursor.isPunct_of_ended hleft, Cursor.isPunct_of_current hright, hfresh.opening]

/-- Outcomes that stand for each other. Where only one way counts, nothing is said of
    what does not succeed. -/
inductive Outcome.Matched {α β : Type} (oneWay : Prop) (V : α → β → Prop) (M : Machine → Machine → Prop) :
    Outcome α → Outcome β → Prop where
  | done {a : α} {b : β} {left right : Machine} (hresults : V a b) (hmachines : M left right) :
    Matched oneWay V M (.done a left) (.done b right)
  | failed {error error' : Error} {left right : Machine} (hmachines : left.Alike right) :
    Matched oneWay V M (.failed error left) (.failed error' right)
  | unfinished : Matched oneWay V M .unfinished .unfinished
  | lost {outcome : Outcome α} {outcome' : Outcome β} (hway : oneWay)
    (hlost : ∀ a after, outcome ≠ .done a after) : Matched oneWay V M outcome outcome'

namespace Outcome.Matched

variable {α β γ δ : Type} {oneWay : Prop} {V : α → β → Prop} {M N : Machine → Machine → Prop}
  {outcome : Outcome α} {outcome' : Outcome β}

/-- A match in both directions is a match in one direction. -/
theorem mono (hmatched : Matched False V M outcome outcome') (hMN : ∀ {left right}, M left right → N left right) :
    Matched oneWay V N outcome outcome' := by
  cases hmatched with
  | done hresults hmachines => exact .done hresults (hMN hmachines)
  | failed hmachines => exact .failed hmachines
  | unfinished => exact .unfinished
  | lost hway _ => exact hway.elim

theorem map {W : γ → δ → Prop} {f : α → γ} {g : β → δ} (hmatched : Matched oneWay V M outcome outcome')
    (hfg : ∀ {a b}, V a b → W (f a) (g b)) : Matched oneWay W M (outcome.map f) (outcome'.map g) := by
  cases hmatched with
  | done hresults hmachines => exact .done (hfg hresults) hmachines
  | failed hmachines => exact .failed hmachines
  | unfinished => exact .unfinished
  | lost hway hlost =>
    refine .lost hway fun a after heq => ?_
    cases outcome with
    | done a after => exact hlost a after rfl
    | failed | unfinished => cases heq

end Outcome.Matched

namespace Eval

/-- What is the same for runs over two buffers, as far as they are aligned. -/
def likeness (h : Alignment) : Likeness where
  spans _ _ := True
  cursors _ _ := True
  positions := h.paired
  patience := Eq
  values := Value.Alike

/-- Machines at positions that stand for each other. -/
structure Aligned (h : Alignment) (left right : Machine) : Prop where
  alike : left.Alike right
  paired : h.paired left.pos right.pos

/-- `y` does over the right buffer what `x` does over the left one, from positions that
    stand for each other. -/
def Parallel (h : Alignment) {α β : Type} (V : α → β → Prop) (x : Eval α) (y : Eval β) : Prop :=
  ∀ (frame : Frame) (left right : Machine), Aligned h left right →
    Outcome.Matched h.oneWay V (Aligned h) (x { frame with tokens := h.left } left)
      (y { frame with tokens := h.right } right)

/-- The same of computations that begin at the token. -/
def ParallelAt (h : Alignment) (token : Token) {α β : Type} (V : α → β → Prop) (x : Eval α) (y : Eval β) : Prop :=
  ∀ (frame : Frame) (left right : Machine) (located located' : Located), Aligned h left right →
    h.left[left.pos]? = some located → h.right[right.pos]? = some located' → located.token = token →
    located'.token = token →
    Outcome.Matched h.oneWay V (Aligned h) (x { frame with tokens := h.left } left)
      (y { frame with tokens := h.right } right)

private theorem Aligned.step {h : Alignment} {left right : Machine} {located : Located}
    (haligned : Aligned h left right)
    (hcurrent : h.left[left.pos]? = some located) (hkind : located.token.kind ≠ .punct) :
    Aligned h { left with pos := left.pos + 1 } { right with pos := right.pos + 1 } := by
  refine ⟨haligned.alike.moved _ _, h.step haligned.paired hcurrent ?_ ?_⟩
  · simp [Token.isPunct, hkind]
  · simp [Token.isPunct, hkind]

theorem Aligned.stepPunct {h : Alignment} {left right : Machine} {located : Located} {lexeme : String}
    (haligned : Aligned h left right) (hcurrent : h.left[left.pos]? = some located)
    (hpunct : located.token.isPunct lexeme = true) (hopen : lexeme ≠ "(") (hclose : lexeme ≠ ")") :
    Aligned h { left with pos := left.pos + 1 } { right with pos := right.pos + 1 } := by
  simp only [Token.isPunct, Bool.and_eq_true, beq_iff_eq] at hpunct
  refine ⟨haligned.alike.moved _ _, h.step haligned.paired hcurrent ?_ ?_⟩
  · simp [Token.isPunct, hpunct.2, hopen]
  · simp [Token.isPunct, hpunct.2, hclose]

namespace Parallel

variable {h : Alignment} {α β γ δ : Type} {V : α → β → Prop} {W : γ → δ → Prop}

theorem pure {a : α} {b : β} (hab : V a b) : Parallel h V (Pure.pure a) (Pure.pure b) :=
  fun _ _ _ haligned => .done hab haligned

theorem bind_matched {f : α → Eval γ} {g : β → Eval δ} {x : Eval α} {y : Eval β} {frame frame' : Frame}
    {left right : Machine}
    (hfirst : Outcome.Matched h.oneWay V (Aligned h) (x frame left) (y frame' right))
    (hrest : ∀ {a b mid mid'}, V a b → Aligned h mid mid' →
      Outcome.Matched h.oneWay W (Aligned h) (f a frame mid) (g b frame' mid')) :
    Outcome.Matched h.oneWay W (Aligned h) ((x >>= f) frame left) ((y >>= g) frame' right) := by
  rw [bind_apply, bind_apply]
  generalize x frame left = outcome at hfirst ⊢
  generalize y frame' right = outcome' at hfirst ⊢
  cases hfirst with
  | done hresults hmachines => exact hrest hresults hmachines
  | failed hmachines => exact .failed hmachines
  | unfinished => exact .unfinished
  | lost hway hlost =>
    refine .lost hway fun c after heq => ?_
    cases outcome with
    | done a mid => exact hlost a mid rfl
    | failed | unfinished => cases heq

theorem bind {x : Eval α} {y : Eval β} {f : α → Eval γ} {g : β → Eval δ} (hx : Parallel h V x y)
    (hf : ∀ a b, V a b → Parallel h W (f a) (g b)) : Parallel h W (x >>= f) (y >>= g) :=
  fun frame left right haligned => bind_matched (hx frame left right haligned)
    fun hresults hmachines => hf _ _ hresults frame _ _ hmachines

theorem update {change change' : Machine → Machine} (hpos : ∀ machine, (change machine).pos = machine.pos)
    (hpos' : ∀ machine, (change' machine).pos = machine.pos)
    (hchange : ∀ {left right : Machine}, left.Alike right → (change left).Alike (change' right)) :
    Parallel h anyResult (update change) (update change') := by
  intro frame left right haligned
  refine .done trivial ⟨hchange haligned.alike, ?_⟩
  rw [hpos, hpos']
  exact haligned.paired

theorem fail {error error' : Error} : Parallel h V (fail error) (fail error') :=
  fun _ _ _ haligned => .failed haligned.alike

theorem expectPunct {lexeme : String} (hopen : lexeme ≠ "(") (hclose : lexeme ≠ ")") :
    Parallel h anyResult (expectPunct lexeme) (expectPunct lexeme) := by
  intro frame left right haligned
  rw [expectPunct_apply, expectPunct_apply]
  cases h.pair haligned.paired with
  | token hleft hright htoken =>
    rw [Cursor.isPunct_of_current hleft, Cursor.isPunct_of_current hright, ← htoken]
    split
    · rename_i hpunct
      exact .done trivial (haligned.stepPunct hleft hpunct hopen hclose)
    · exact .failed haligned.alike
  | ended hleft hright =>
    rw [Cursor.isPunct_of_ended hleft, Cursor.isPunct_of_ended hright]
    exact .failed haligned.alike
  | beyond hleft _ hway _ =>
    rw [Cursor.isPunct_of_ended hleft]
    exact .lost hway fun _ _ heq => by cases heq

theorem expectName : Parallel h (likeness h).names expectName expectName := by
  intro frame left right haligned
  rw [expectName_apply, expectName_apply]
  cases h.pair haligned.paired with
  | token hleft hright htoken =>
    simp only [hleft, hright, ← htoken]
    split
    · rename_i hkind
      exact .done ⟨rfl, trivial⟩ (haligned.step hleft (by simp [hkind]))
    · exact .failed haligned.alike
  | ended hleft hright =>
    simp only [hleft, hright]
    exact .failed haligned.alike
  | beyond hleft _ hway _ =>
    simp only [hleft]
    exact .lost hway fun _ _ heq => by cases heq

theorem tryElse : Parallel h Eq (tryKeyword .otherwise) (tryKeyword .otherwise) := by
  intro frame left right haligned
  rw [tryKeyword_apply, tryKeyword_apply]
  cases h.pair haligned.paired with
  | token hleft hright htoken =>
    rw [Cursor.keyword?_of_current hleft, Cursor.keyword?_of_current hright, ← htoken]
    split
    · rename_i hkeyword
      exact .done rfl (haligned.step hleft (by simp [Level.keyword_kind hkeyword]))
    · exact .done rfl haligned
  | ended hleft hright =>
    rw [Cursor.keyword?_of_ended hleft, Cursor.keyword?_of_ended hright]
    exact .done rfl haligned
  | beyond hleft hright _ hfresh =>
    rw [Cursor.keyword?_of_ended hleft, Cursor.keyword?_of_current hright, if_neg hfresh.keyword]
    exact .done rfl haligned

theorem operator {x : Eval α} {y : Eval β} {f : Located → Eval α} {g : Located → Eval β} (tier : Tier)
    (hnone : Parallel h V x y)
    (hsome : ∀ {op op'}, Located.Alike (likeness h).spans op op' → Parallel h V (f op) (g op')) :
    Parallel h V
      (operator? tier >>= fun found => match found with
        | none => x
        | some op => advance >>= fun _ => f op)
      (operator? tier >>= fun found => match found with
        | none => y
        | some op => advance >>= fun _ => g op) := by
  intro frame left right haligned
  rw [bind_of_done (operator?_apply _ left tier), bind_of_done (operator?_apply _ right tier)]
  cases h.pair haligned.paired with
  | @token located located' hleft hright htoken =>
    simp only [hleft, hright, Option.filter, ← htoken]
    by_cases hoperator : located.token.isOperator tier = true
    · simp only [if_pos hoperator]
      rw [bind_of_done (advance_of_current hleft), bind_of_done (advance_of_current hright)]
      have hkind : located.token.kind = .operator := by
        simp only [Token.isOperator, Bool.and_eq_true, beq_iff_eq] at hoperator
        exact hoperator.1
      exact hsome ⟨htoken, trivial⟩ frame _ _ (haligned.step hleft (by simp [hkind]))
    · simp only [if_neg hoperator]
      exact hnone frame left right haligned
  | ended hleft hright =>
    simp only [hleft, hright]
    exact hnone frame left right haligned
  | @beyond located hleft hright _ hfresh =>
    have hoperator : located.token.isOperator tier = false := by simp [Token.isOperator, hfresh.operator]
    simp only [hleft, hright, Option.filter, hoperator]
    exact hnone frame left right haligned

theorem opening {x x' : Eval α} {y y' : Eval β} (hyes : Parallel h V x y) (hno : Parallel h V x' y') :
    Parallel h V (do if (← cursor).isPunct "(" then x else x') (do if (← cursor).isPunct "(" then y else y') := by
  intro frame left right haligned
  rw [bind_apply, bind_apply]
  dsimp only [cursor]
  rw [h.opening_eq haligned.paired]
  split
  · exact hyes frame left right haligned
  · exact hno frame left right haligned

/-- What begins with a look at the first token begins at that token. -/
theorem first {f : Located → Eval α} {g : Located → Eval β}
    (hf : ∀ {located located'}, Located.Alike (likeness h).spans located located' →
      ParallelAt h located.token V (f located) (g located')) :
    Parallel h V (firstToken >>= f) (firstToken >>= g) := by
  intro frame left right haligned
  rw [bind_apply, bind_apply, firstToken_apply, firstToken_apply]
  cases h.pair haligned.paired with
  | token hleft hright htoken =>
    simp only [hleft, hright]
    exact hf ⟨htoken, trivial⟩ frame left right _ _ haligned hleft hright rfl htoken.symm
  | ended hleft hright =>
    simp only [hleft, hright]
    exact .failed haligned.alike
  | beyond hleft _ hway _ =>
    simp only [hleft]
    exact .lost hway fun _ _ heq => by cases heq

theorem entry (token : Token) : Entry (ParallelAt h token) (Parallel h) token where
  free hx := fun frame left right _ _ haligned _ _ _ _ => hx frame left right haligned
  leads hkind :=
    { bind := fun hx hf frame left right located located' haligned hleft hright htoken htoken' =>
        bind_matched (hx frame left right located located' haligned hleft hright htoken htoken')
          fun hresults hmachines => hf _ _ hresults frame _ _ hmachines
      advance := by
        intro frame left right located located' haligned hleft hright htoken htoken'
        rw [liftM_eval, advance_of_current hleft, advance_of_current hright]
        exact .done trivial (haligned.step hleft (htoken ▸ hkind)) }
  unexpected _ := fun _ _ _ _ _ haligned _ _ _ _ => .failed haligned.alike

end Parallel

end Eval

end Rewind
