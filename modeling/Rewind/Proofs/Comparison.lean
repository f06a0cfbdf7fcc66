import Rewind.Eval.Expression

namespace Rewind

/-- Two tokens that are the same but for where they stand. -/
structure Located.Alike (spans : Span → Span → Prop) (left right : Located) : Prop where
  token : left.token = right.token
  span : spans left.span right.span

/-- What is taken to be the same in the data of two runs. `positions` are those
    that a loop comes back to. -/
structure Likeness where
  spans : Span → Span → Prop
  cursors : Cursor → Cursor → Prop
  positions : Nat → Nat → Prop
  /-- How much patience one run has where the other one has some. -/
  patience : Nat → Nat → Prop
  values : Value → Value → Prop

/-- Names that are read from two buffers, each with its place. -/
def Likeness.names (like : Likeness) (left right : String × Span) : Prop :=
  left.1 = right.1 ∧ like.spans left.2 right.2

/-- Everything is the same only as itself, and the second run may have more
    patience. -/
def Likeness.same : Likeness where
  spans := Eq
  cursors := Eq
  positions := Eq
  patience n m := n ≤ m
  values := Eq

theorem Likeness.same_current (cursor : Cursor) :
    Option.Rel (Located.Alike Likeness.same.spans) cursor.current? cursor.current? := by
  cases cursor.current? with
  | none => exact .none
  | some located => exact .some ⟨rfl, rfl⟩

theorem Likeness.same_located {left right : Located}
    (halike : Located.Alike Likeness.same.spans left right) : left = right := by
  obtain ⟨htoken, hspan⟩ := halike
  cases left
  cases right
  exact congr (congrArg Located.mk htoken) hspan

namespace Cursor

variable {spans : Span → Span → Prop} {left right : Cursor}

theorem isPunct_eq_of_alike
    (hcurrent : Option.Rel (Located.Alike spans) left.current? right.current?) (lexeme : String) :
    left.isPunct lexeme = right.isPunct lexeme := by
  unfold isPunct
  generalize left.current? = l at hcurrent ⊢
  generalize right.current? = r at hcurrent ⊢
  cases hcurrent with
  | none => rfl
  | some halike => exact congrArg (Token.isPunct · lexeme) halike.token

private theorem keyword?_eq_of_alike
    (hcurrent : Option.Rel (Located.Alike spans) left.current? right.current?) :
    left.keyword? = right.keyword? := by
  unfold keyword?
  generalize left.current? = l at hcurrent ⊢
  generalize right.current? = r at hcurrent ⊢
  cases hcurrent with
  | none => rfl
  | some halike => exact congrArg Token.keyword? halike.token

theorem atEnd_eq_of_alike
    (hcurrent : Option.Rel (Located.Alike spans) left.current? right.current?) :
    left.atEnd = right.atEnd := by
  rw [Bool.eq_iff_iff, atEnd_iff_current?, atEnd_iff_current?]
  generalize left.current? = l at hcurrent ⊢
  generalize right.current? = r at hcurrent ⊢
  cases hcurrent <;> simp

end Cursor

namespace Eval

/-- A way to compare a computation with one of the evaluator, up to a relation of their
    results. -/
abbrev Comparison (m : Type → Type) := {α β : Type} → (α → β → Prop) → m α → Eval β → Prop

/-- Results that need have nothing to do with each other. -/
def anyResult {α β : Type} (_ : α) (_ : β) : Prop := True

/-- Yields a result that is there, or fails. -/
def ofExcept {α : Type} : Except Error α → Eval α
  | .ok value => pure value
  | .error error => fail error

section Lifted

variable {m : Type → Type} [Monad m] [MonadLiftT Eval m]

/-- `A` compares computations that begin where they may move past a token, and `R`
    what may come after that. -/
structure Leads (A R : Comparison m) : Prop where
  bind : ∀ {α β γ δ : Type} {V : α → β → Prop} {W : γ → δ → Prop} {x : m α} {y : Eval β}
    {f : α → m γ} {g : β → Eval δ}, A V x y → (∀ a b, V a b → R W (f a) (g b)) →
      A W (x >>= f) (y >>= g)
  advance : A anyResult (liftM advance) advance

/-- `A` compares computations that begin at the token, and `R` those that begin
    anywhere. -/
structure Entry (A R : Comparison m) (token : Token) : Prop where
  free : ∀ {α β : Type} {V : α → β → Prop} {x : m α} {y : Eval β}, R V x y → A V x y
  leads : token.kind ≠ .punct → Leads A R
  unexpected : ∀ {α β : Type} {V : α → β → Prop} (wanted : Wanted),
    A V (liftM (unexpected wanted : Eval α)) (unexpected wanted : Eval β)

/-- The comparison goes through steps that move past a token only after a look at it,
    and past a parenthesis only together with its partner. -/
structure Guards (like : Likeness) (R : Comparison m) : Prop where
  pure : ∀ {α β : Type} {V : α → β → Prop} {a : α} {b : β}, V a b → R V (pure a) (pure b)
  bind : ∀ {α β γ δ : Type} {V : α → β → Prop} {W : γ → δ → Prop} {x : m α} {y : Eval β}
    {f : α → m γ} {g : β → Eval δ}, R V x y → (∀ a b, V a b → R W (f a) (g b)) →
      R W (x >>= f) (y >>= g)
  expectPunct : ∀ {lexeme : String}, lexeme ≠ "(" → lexeme ≠ ")" →
    R anyResult (liftM (expectPunct lexeme)) (expectPunct lexeme)
  expectName : R like.names (liftM expectName) expectName
  tryElse : R Eq (liftM (tryKeyword .otherwise)) (tryKeyword .otherwise)
  operator : ∀ {α β : Type} {W : α → β → Prop} {x : m α} {y : Eval β} {f : Located → m α}
    {g : Located → Eval β} (tier : Tier), R W x y →
      (∀ {op op'}, Located.Alike like.spans op op' → R W (f op) (g op')) →
      R W (liftM (operator? tier) >>= fun found => match found with
          | none => x
          | some op => liftM advance >>= fun _ => f op)
        (operator? tier >>= fun found => match found with
          | none => y
          | some op => advance >>= fun _ => g op)
  skipList : R anyResult (liftM skipList) skipList
  opening : ∀ {α β : Type} {W : α → β → Prop} {x x' : m α} {y y' : Eval β}, R W x y → R W x' y' →
    R W (do if (← cursor).isPunct "(" then x else x') (do if (← cursor).isPunct "(" then y else y')

end Lifted

namespace Guards

variable {like : Likeness} {R : Comparison Eval} {α β : Type} {V : α → β → Prop} {item : Eval α} {item' : Eval β}
  {combine : Located → α → α → Except Error α} {combine' : Located → β → β → Except Error β}

theorem chainFrom (hguards : Guards like R) (tier : Tier) (hitem : R V item item')
    (hcombine : ∀ {op op' l l' r r'}, Located.Alike like.spans op op' → V l l' → V r r' →
      R V (ofExcept (combine op l r)) (ofExcept (combine' op' l' r')))
    (rounds : Nat) {left : α} {left' : β} (hleft : V left left') :
    R V (chainFrom tier item combine rounds left) (chainFrom tier item' combine' rounds left') := by
  induction rounds generalizing left left' with
  | zero => exact hguards.pure hleft
  | succ rounds ih =>
    refine hguards.operator tier (hguards.pure hleft) fun hop => ?_
    refine hguards.bind hitem fun right right' hright => ?_
    have hnext := hguards.bind (hcombine hop hleft hright) fun _ _ hvalue => ih hvalue
    revert hnext
    cases combine _ left right <;> cases combine' _ left' right' <;> exact id

end Guards

/-- The comparison goes through the steps by which tokens are read. -/
structure Steps (like : Likeness) (R : Comparison Eval) : Prop where
  pure : ∀ {α β : Type} {V : α → β → Prop} {a : α} {b : β}, V a b → R V (pure a) (pure b)
  bind : ∀ {α β γ δ : Type} {V : α → β → Prop} {W : γ → δ → Prop} {x : Eval α} {y : Eval β}
    {f : α → Eval γ} {g : β → Eval δ}, R V x y → (∀ a b, V a b → R W (f a) (g b)) →
      R W (x >>= f) (y >>= g)
  cursor : R like.cursors cursor cursor
  current : ∀ {left right : Cursor}, like.cursors left right →
    Option.Rel (Located.Alike like.spans) left.current? right.current?
  advance : R anyResult advance advance
  unexpected : ∀ {α β : Type} {V : α → β → Prop} (wanted : Wanted),
    R V (unexpected wanted : Eval α) (unexpected wanted : Eval β)
  skipList : R anyResult skipList skipList

/-- The comparison also goes through loops over tokens, with the same bound on
    their rounds. -/
structure Walks (like : Likeness) (R : Comparison Eval) : Prop extends Steps like R where
  rounds : R Eq rounds rounds

namespace Steps

variable {like : Likeness} {R : Comparison Eval}

private theorem current? (hsteps : Steps like R) :
    R (Option.Rel (Located.Alike like.spans)) current? current? :=
  hsteps.bind (f := fun c => Pure.pure c.current?) (g := fun c => Pure.pure c.current?) hsteps.cursor
    fun _ _ hcursors => hsteps.pure (hsteps.current hcursors)

/-- Both sides take the same way at a test of the current token. -/
theorem branch {α β : Type} {W : α → β → Prop} (hsteps : Steps like R) (test : Cursor → Bool)
    (htest : ∀ {left right : Cursor}, like.cursors left right → test left = test right)
    {x x' : Eval α} {y y' : Eval β} (hyes : R W x y) (hno : R W x' y') :
    R W (do if test (← Eval.cursor) then x else x') (do if test (← Eval.cursor) then y else y') := by
  refine hsteps.bind hsteps.cursor fun left right hcursors => ?_
  rw [htest hcursors]
  split
  · exact hyes
  · exact hno

theorem isPunct_eq (hsteps : Steps like R) (lexeme : String) {left right : Cursor}
    (hcursors : like.cursors left right) : left.isPunct lexeme = right.isPunct lexeme :=
  Cursor.isPunct_eq_of_alike (hsteps.current hcursors) lexeme

theorem expectPunct (hsteps : Steps like R) (lexeme : String) :
    R anyResult (expectPunct lexeme) (expectPunct lexeme) :=
  hsteps.branch (·.isPunct lexeme) (hsteps.isPunct_eq lexeme) hsteps.advance
    (hsteps.unexpected _)

theorem expectName (hsteps : Steps like R) : R like.names expectName expectName := by
  refine hsteps.bind hsteps.current? fun l r hcurrent => ?_
  cases hcurrent with
  | none => exact hsteps.unexpected _
  | some halike =>
    simp only [halike.token]
    split
    · refine hsteps.bind hsteps.advance fun _ _ _ => hsteps.pure ⟨rfl, halike.span⟩
    · exact hsteps.unexpected _

theorem firstToken (hsteps : Steps like R) : R (Located.Alike like.spans) firstToken firstToken := by
  refine hsteps.bind hsteps.current? fun l r hcurrent => ?_
  cases hcurrent with
  | none => exact hsteps.unexpected _
  | some halike => exact hsteps.pure halike

theorem tryKeyword (hsteps : Steps like R) (keyword : Keyword) :
    R Eq (tryKeyword keyword) (tryKeyword keyword) := by
  refine hsteps.branch (fun cursor => cursor.keyword? == some keyword)
    (fun hcursors => by rw [Cursor.keyword?_eq_of_alike (hsteps.current hcursors)])
    (hsteps.bind hsteps.advance fun _ _ _ => hsteps.pure rfl) (hsteps.pure rfl)

theorem operator? (hsteps : Steps like R) (tier : Tier) :
    R (Option.Rel (Located.Alike like.spans)) (operator? tier) (operator? tier) := by
  refine hsteps.bind hsteps.current? fun l r hcurrent => ?_
  cases hcurrent with
  | none => exact hsteps.pure .none
  | some halike =>
    simp only [halike.token]
    split
    · exact hsteps.pure (.some halike)
    · exact hsteps.pure .none

theorem leads (hsteps : Steps like R) : Leads R R := ⟨hsteps.bind, hsteps.advance⟩

theorem entry (hsteps : Steps like R) (token : Token) : Entry R R token :=
  ⟨id, fun _ => hsteps.leads, hsteps.unexpected⟩

/-- Steps that need no look at the token may be taken after one. -/
theorem guards (hsteps : Steps like R) : Guards like R where
  pure := hsteps.pure
  bind := hsteps.bind
  expectPunct _ _ := hsteps.expectPunct _
  expectName := hsteps.expectName
  tryElse := hsteps.tryKeyword _
  operator tier hnone hsome := by
    refine hsteps.bind (hsteps.operator? tier) fun op op' hop => ?_
    cases hop with
    | none => exact hnone
    | some halike => exact hsteps.bind hsteps.advance fun _ _ _ => hsome halike
  skipList := hsteps.skipList
  opening hyes hno := hsteps.branch (·.isPunct "(") (hsteps.isPunct_eq "(") hyes hno

theorem chainFrom (hsteps : Steps like R) (tier : Tier) {α β : Type} {V : α → β → Prop} {item : Eval α}
    {item' : Eval β} {combine : Located → α → α → Except Error α} {combine' : Located → β → β → Except Error β}
    (hitem : R V item item')
    (hcombine : ∀ {op op' l l' r r'}, Located.Alike like.spans op op' → V l l' → V r r' →
      R V (ofExcept (combine op l r)) (ofExcept (combine' op' l' r')))
    (rounds : Nat) {left : α} {left' : β} (hleft : V left left') :
    R V (chainFrom tier item combine rounds left) (chainFrom tier item' combine' rounds left') :=
  hsteps.guards.chainFrom tier hitem hcombine rounds hleft

end Steps

namespace Walks

variable {like : Likeness} {R : Comparison Eval} {α β : Type} {V : α → β → Prop} {item : Eval α} {item' : Eval β}
  {combine : Located → α → α → Except Error α} {combine' : Located → β → β → Except Error β}

theorem chain (hwalks : Walks like R) (tier : Tier) (hitem : R V item item')
    (hcombine : ∀ {op op' l l' r r'}, Located.Alike like.spans op op' → V l l' → V r r' →
      R V (ofExcept (combine op l r)) (ofExcept (combine' op' l' r'))) :
    R V (chain tier item combine) (chain tier item' combine') := by
  refine hwalks.bind hitem fun first first' hfirst => hwalks.bind hwalks.rounds ?_
  rintro rounds _ rfl
  exact hwalks.chainFrom tier hitem hcombine rounds hfirst

theorem expression (hwalks : Walks like R) (hitem : R V item item')
    (hcombine : ∀ {op op' l l' r r'}, Located.Alike like.spans op op' → V l l' → V r r' →
      R V (ofExcept (combine op l r)) (ofExcept (combine' op' l' r'))) :
    R V (expression item combine) (expression item' combine') :=
  hwalks.chain .multiplicative (hwalks.chain .additive hitem hcombine) hcombine

end Walks

end Eval

end Rewind
