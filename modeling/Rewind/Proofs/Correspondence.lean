import Rewind.Proofs.Alike
import Rewind.Proofs.Parallel
import Rewind.Proofs.Watch

namespace Rewind

/-- A relation of the places of two runs that read different buffers. Places of the left run stand
    for places of the right one, as far as a token or a whole region is read from them.
    Only a list at a barred place is not read: what is in it need not have anything to do
    with what is in its counterpart. -/
structure Correspondence where
  places : Cursor → Cursor → Prop
  spans : Span → Span → Prop
  barred : Cursor → Bool
  current : ∀ {left right}, places left right →
    Option.Rel (Located.Alike spans) left.current? right.current?
  step : ∀ {left right located}, places left right → left.current? = some located →
    (barred left = true → ¬ located.token.isPunct "(") →
      places ⟨left.tokens, left.pos + 1⟩ ⟨right.tokens, right.pos + 1⟩
  region : ∀ {left right}, places left right → left.isPunct "(" = true →
    Option.Rel (fun stop stop' => places ⟨left.tokens, stop⟩ ⟨right.tokens, stop'⟩)
      (Eval.closeFrom left.tokens (left.pos + 1) 0) (Eval.closeFrom right.tokens (right.pos + 1) 0)

/-- The same token on both sides, or none, is alike if its places are. -/
theorem rel_alike_of_token_eq {spans : Span → Span → Prop} {found found' : Option Located}
    (htokens : found.map (·.token) = found'.map (·.token))
    (hspans : ∀ located located', found = some located → found' = some located' → spans located.span located'.span) :
    Option.Rel (Located.Alike spans) found found' := by
  cases found with
  | none =>
    rw [Option.map_eq_none_iff.1 htokens.symm]
    exact .none
  | some located =>
    obtain ⟨located', rfl, htoken⟩ := Option.map_eq_some_iff.1 htokens.symm
    exact .some ⟨htoken.symm, hspans located located' rfl rfl⟩

namespace Value

private theorem code_outline (value : Value) : value.outline.code = value.code := by
  cases value <;> rfl

private theorem described_outline (value : Value) : value.outline.described = value.described := by
  cases value <;> rfl

variable {bodies : Cursor → Cursor → Prop} {v w : Value}

private theorem AlikeBy.code_eq (halike : AlikeBy bodies v w) : v.code = w.code := by
  rw [← code_outline, halike.outline, code_outline]

private theorem AlikeBy.described_eq (halike : AlikeBy bodies v w) : v.described = w.described := by
  rw [← described_outline, halike.outline, described_outline]

end Value

/-- Failures with the same words, at tokens that stand for each other. -/
structure Error.AlikeBy (spans : Span → Span → Prop) (left right : Error) : Prop where
  message : left.cause.message = right.cause.message
  span : Option.Rel spans left.span right.span

namespace Error.AlikeBy

variable {spans : Span → Span → Prop} {bodies : Cursor → Cursor → Prop} {here there : Span}

theorem atSpan (hspans : spans here there) {cause cause' : Cause} (hmessage : cause.message = cause'.message) :
    AlikeBy spans (.atSpan here cause) (.atSpan there cause') :=
  ⟨hmessage, .some hspans⟩

theorem expected (wanted : Wanted) {found found' : Option Located}
    (hfound : Option.Rel (Located.Alike spans) found found') :
    AlikeBy spans (.expected wanted found) (.expected wanted found') := by
  cases hfound with
  | none => exact ⟨rfl, .none⟩
  | some halike =>
    refine ⟨?_, .some halike.span⟩
    simp only [Error.expected, Option.map_some, halike.token]

theorem notCallable (hspans : spans here there) (name : String) {v w : Value} (hvalues : Value.AlikeBy bodies v w) :
    AlikeBy spans (.atSpan here (.notCallable name v)) (.atSpan there (.notCallable name w)) := by
  apply atSpan hspans
  dsimp only [Cause.message]
  rw [hvalues.described_eq]

theorem operands {op op' : Located} (hop : Located.Alike spans op op') {l l' r r' : Value}
    (hleft : Value.AlikeBy bodies l l') (hright : Value.AlikeBy bodies r r') :
    AlikeBy spans (.operands op l r) (.operands op' l' r') := by
  apply atSpan hop.span
  dsimp only [Cause.message]
  rw [hop.token, hleft.described_eq, hright.described_eq]

end Error.AlikeBy

/-- The level, the message and the details that the log has of an event. -/
def Event.content (event : Event) : Event.Level × String × List (String × Event.Detail) :=
  (event.level, event.message, event.details)

/-- The same machine up to positions and peaks, and up to where the bodies of functions
    begin. The lines of the log are the same. -/
structure Machine.Matches (bodies : Cursor → Cursor → Prop) (left right : Machine) : Prop
    extends Machine.AlikeBy bodies left right where
  log : left.log.map Event.content = right.log.map Event.content

namespace Machine.Matches

variable {bodies : Cursor → Cursor → Prop} {left right : Machine}

theorem self {machine : Machine}
    (hbodies : ∀ name f, machine.env.get? name = some (.function f) → bodies f.body f.body) :
    Matches bodies machine machine where
  env name := by
    cases hvalue : machine.env.get? name with
    | none => exact .none
    | some value =>
      refine .some (.self fun f hfunction => hbodies name f ?_)
      rw [hvalue, hfunction]
  made := rfl
  calls := rfl
  log := rfl

theorem moved (hmatches : Matches bodies left right) (l r : Nat) :
    Matches bodies { left with pos := l } { right with pos := r } :=
  ⟨hmatches.toAlikeBy.moved l r, hmatches.log⟩

theorem record (hmatches : Matches bodies left right) {event event' : Event}
    (hcontent : event.content = event'.content) :
    Matches bodies (left.record event) (right.record event') where
  toAlikeBy := hmatches.toAlikeBy.record event event'
  log := by simp [Machine.record, hmatches.log, hcontent]

theorem bind (hmatches : Matches bodies left right) (name : String) {v w : Value}
    (hvalues : Value.AlikeBy bodies v w) : Matches bodies (left.bind name v) (right.bind name w) where
  toAlikeBy := hmatches.toAlikeBy.bind name hvalues
  log := by
    have hcontent : (Event.bound name v).content = (Event.bound name w).content := by
      simp [Event.content, Event.details, Event.level, Event.message, hvalues.code_eq]
    simp [Machine.bind, hmatches.log, hcontent]

private theorem bindAll (hmatches : Matches bodies left right) (params : List String) {values values' : List Value}
    (hvalues : List.Forall₂ (Value.AlikeBy bodies) values values') :
    Matches bodies (left.bindAll params values) (right.bindAll params values') := by
  induction params generalizing left right values values' with
  | nil => exact hmatches
  | cons param params ih =>
    cases hvalues with
    | nil => exact ih (hmatches.bind param (.plain (by simp))) .nil
    | cons hvalue hvalues => exact ih (hmatches.bind param hvalue) hvalues

theorem define (hmatches : Matches bodies left right) (name : String) (params : List String) {body body' : Cursor}
    (hbody : bodies body body') : Matches bodies (left.define name params body) (right.define name params body') where
  toAlikeBy := hmatches.toAlikeBy.define name params hbody
  log := by
    have hdefined (id id' : Identity) :
        (Event.defined ⟨id, name, params, body⟩).content = (Event.defined ⟨id', name, params, body'⟩).content := rfl
    have hbound (id id' : Identity) : (Event.bound name (.function ⟨id, name, params, body⟩)).content =
        (Event.bound name (.function ⟨id', name, params, body'⟩)).content := rfl
    simp only [Machine.define, Machine.bind, Machine.record, Array.map_push, hmatches.log]
    rw [hdefined, hbound]

theorem called (hmatches : Matches bodies left right) {f g : Function} (hname : f.name = g.name)
    (hparams : f.params = g.params) {arguments arguments' : Array Value}
    (harguments : List.Forall₂ (Value.AlikeBy bodies) arguments.toList arguments'.toList) :
    Matches bodies ((left.record (.called f arguments.size)).bindAll f.params arguments.toList)
      ((right.record (.called g arguments'.size)).bindAll g.params arguments'.toList) := by
  have hsize : arguments.size = arguments'.size := harguments.length_eq
  have hcontent : (Event.called f arguments.size).content = (Event.called g arguments'.size).content := by
    simp [Event.content, Event.details, Event.level, Event.message, hname, hsize]
  rw [← hparams]
  exact (hmatches.record hcontent).bindAll f.params harguments

theorem consulted (hmatches : Matches bodies left right) (host : Native) (code : String) {frame frame' : Frame}
    (hhosts : frame.hosts = frame'.hosts) :
    Matches bodies (Eval.consulted host code frame left) (Eval.consulted host code frame' right) where
  toAlikeBy := hmatches.toAlikeBy.consulted host code frame frame'
  log := by
    simp only [Eval.consulted, hhosts]
    split
    · exact (hmatches.record rfl).log
    · exact hmatches.log

end Machine.Matches

/-- Hosts answer with functions only that have their bodies at places that stand for
    themselves. -/
def Correspondence.Admits (k : Correspondence) (hosts : Hosts) : Prop :=
  ∀ host earlier code f, (hosts host).answer earlier code = .ok (.function f) → k.places f.body f.body

/-- The second outcome corresponds to the first one, wherever the first one ends. -/
inductive Outcome.Corresponds (k : Correspondence) {α β : Type} (V : α → β → Prop) (M : Machine → Machine → Prop) :
    Outcome α → Outcome β → Prop where
  | done {a : α} {b : β} {left right : Machine} (hresults : V a b) (hmachines : M left right) :
    Corresponds k V M (.done a left) (.done b right)
  | failed {error error' : Error} {left right : Machine} (herrors : Error.AlikeBy k.spans error error')
    (hmachines : Machine.Matches k.places left right) : Corresponds k V M (.failed error left) (.failed error' right)
  | unfinished {outcome : Outcome β} : Corresponds k V M .unfinished outcome

/-- Stops the left run where it would read a list at a barred place. -/
def Correspondence.watch (k : Correspondence) : Eval.Watch
  | .list, frame, pos => !k.barred ⟨frame.tokens, pos⟩
  | .params, frame, pos => !k.barred ⟨frame.tokens, pos⟩
  | _, _, _ => true

namespace Eval

/-- What is the same for runs over two buffers of a correspondence. -/
def alikeness (k : Correspondence) (tokens tokens' : Array Located) : Likeness where
  spans := k.spans
  cursors _ _ := True
  positions l r := k.places ⟨tokens, l⟩ ⟨tokens', r⟩
  patience := Eq
  values := Value.AlikeBy k.places

/-- Machines at places of two buffers that stand for each other. -/
structure Together (k : Correspondence) (tokens tokens' : Array Located) (left right : Machine) : Prop where
  machines : Machine.Matches k.places left right
  places : k.places ⟨tokens, left.pos⟩ ⟨tokens', right.pos⟩

/-- `y` does over the right buffer what corresponds to what `x` does over the left one. -/
def Corresponds (k : Correspondence) (tokens tokens' : Array Located) {α β : Type} (V : α → β → Prop) (x : Eval α)
    (y : Eval β) : Prop :=
  ∀ (frame : Frame) (left right : Machine), k.Admits frame.hosts → Together k tokens tokens' left right →
    Outcome.Corresponds k V (Together k tokens tokens') (x { frame with tokens } left)
      (y { frame with tokens := tokens' } right)

/-- The same of computations that begin at the token. -/
def CorrespondsAt (k : Correspondence) (tokens tokens' : Array Located) (token : Token) {α β : Type} (V : α → β → Prop)
    (x : Eval α) (y : Eval β) : Prop :=
  ∀ (frame : Frame) (left right : Machine) (located located' : Located), k.Admits frame.hosts →
    Together k tokens tokens' left right → tokens[left.pos]? = some located → tokens'[right.pos]? = some located' →
    located.token = token → located'.token = token →
    Outcome.Corresponds k V (Together k tokens tokens') (x { frame with tokens } left)
      (y { frame with tokens := tokens' } right)

namespace Together

variable {k : Correspondence} {tokens tokens' : Array Located} {left right : Machine} {located : Located}

/-- Both sides are at the same token, or at the end. -/
theorem look (htogether : Together k tokens tokens' left right) :
    Option.Rel (Located.Alike k.spans) tokens[left.pos]? tokens'[right.pos]? :=
  k.current htogether.places

private theorem sees (htogether : Together k tokens tokens' left right) :
    (∃ located located', tokens[left.pos]? = some located ∧ tokens'[right.pos]? = some located' ∧
      Located.Alike k.spans located located') ∨ tokens[left.pos]? = none ∧ tokens'[right.pos]? = none := by
  have hlook := htogether.look
  generalize tokens[left.pos]? = found at hlook ⊢
  generalize tokens'[right.pos]? = found' at hlook ⊢
  cases hlook with
  | none => exact .inr ⟨rfl, rfl⟩
  | some halike => exact .inl ⟨_, _, rfl, rfl, halike⟩

theorem isPunct_eq (htogether : Together k tokens tokens' left right) (lexeme : String) :
    (Cursor.mk tokens left.pos).isPunct lexeme = (Cursor.mk tokens' right.pos).isPunct lexeme :=
  Cursor.isPunct_eq_of_alike (k.current htogether.places) lexeme

private theorem step (htogether : Together k tokens tokens' left right) (hcurrent : tokens[left.pos]? = some located)
    (hopen : ¬ located.token.isPunct "(") :
    Together k tokens tokens' { left with pos := left.pos + 1 } { right with pos := right.pos + 1 } where
  machines := htogether.machines.moved _ _
  places := k.step htogether.places hcurrent fun _ => hopen

private theorem stepKind (htogether : Together k tokens tokens' left right)
    (hcurrent : tokens[left.pos]? = some located) (hkind : located.token.kind ≠ .punct) :
    Together k tokens tokens' { left with pos := left.pos + 1 } { right with pos := right.pos + 1 } := by
  apply htogether.step hcurrent
  simp [Token.isPunct, hkind]

private theorem stepPunct {lexeme : String} (htogether : Together k tokens tokens' left right)
    (hcurrent : tokens[left.pos]? = some located) (hpunct : located.token.isPunct lexeme = true)
    (hopen : lexeme ≠ "(") :
    Together k tokens tokens' { left with pos := left.pos + 1 } { right with pos := right.pos + 1 } := by
  apply htogether.step hcurrent
  simp only [Token.isPunct, Bool.and_eq_true, beq_iff_eq] at hpunct
  simp [Token.isPunct, hpunct.2, hopen]

end Together

namespace Corresponds

variable {k : Correspondence} {tokens tokens' : Array Located} {α β γ δ : Type} {V : α → β → Prop}
  {W : γ → δ → Prop}

theorem pure {a : α} {b : β} (hab : V a b) : Corresponds k tokens tokens' V (Pure.pure a) (Pure.pure b) :=
  fun _ _ _ _ htogether => .done hab htogether

theorem bind_echoes {x : Eval α} {y : Eval β} {f : α → Eval γ} {g : β → Eval δ} {frame frame' : Frame}
    {left right : Machine} {M N : Machine → Machine → Prop}
    (hfirst : Outcome.Corresponds k V M (x frame left) (y frame' right))
    (hrest : ∀ {a b mid mid'}, V a b → M mid mid' → Outcome.Corresponds k W N (f a frame mid) (g b frame' mid')) :
    Outcome.Corresponds k W N ((x >>= f) frame left) ((y >>= g) frame' right) := by
  rw [bind_apply, bind_apply]
  generalize x frame left = outcome at hfirst ⊢
  generalize y frame' right = outcome' at hfirst ⊢
  cases hfirst with
  | done hresults hmachines => exact hrest hresults hmachines
  | failed herrors hmachines => exact .failed herrors hmachines
  | unfinished => exact .unfinished

theorem bind {x : Eval α} {y : Eval β} {f : α → Eval γ} {g : β → Eval δ} (hx : Corresponds k tokens tokens' V x y)
    (hf : ∀ a b, V a b → Corresponds k tokens tokens' W (f a) (g b)) :
    Corresponds k tokens tokens' W (x >>= f) (y >>= g) :=
  fun frame left right hadmits htogether => bind_echoes (hx frame left right hadmits htogether)
    fun hresults hmachines => hf _ _ hresults frame _ _ hadmits hmachines

theorem update {change change' : Machine → Machine} (hpos : ∀ machine, (change machine).pos = machine.pos)
    (hpos' : ∀ machine, (change' machine).pos = machine.pos)
    (hchange : ∀ {left right : Machine}, Machine.Matches k.places left right →
      Machine.Matches k.places (change left) (change' right)) :
    Corresponds k tokens tokens' anyResult (update change) (update change') := by
  intro frame left right _ htogether
  refine .done trivial ⟨hchange htogether.machines, ?_⟩
  rw [hpos, hpos']
  exact htogether.places

theorem fail {error error' : Error} (herrors : Error.AlikeBy k.spans error error') :
    Corresponds k tokens tokens' V (fail error) (fail error') :=
  fun _ _ _ _ htogether => .failed herrors htogether.machines

private theorem unexpected (wanted : Wanted) :
    Corresponds k tokens tokens' V (unexpected wanted : Eval α) (unexpected wanted : Eval β) :=
  fun _ _ _ _ htogether => .failed (.expected wanted htogether.look) htogether.machines

theorem expectPunct {lexeme : String} (hopen : lexeme ≠ "(") :
    Corresponds k tokens tokens' anyResult (expectPunct lexeme) (expectPunct lexeme) := by
  intro frame left right _ htogether
  rw [expectPunct_apply, expectPunct_apply]
  dsimp only
  rw [htogether.isPunct_eq]
  by_cases hpunct : (Cursor.mk tokens left.pos).isPunct lexeme = true
  · obtain ⟨located, hcurrent, htoken⟩ := isPunct_iff.1 hpunct
    rw [htogether.isPunct_eq] at hpunct
    rw [if_pos hpunct, if_pos hpunct]
    exact .done trivial (htogether.stepPunct hcurrent htoken hopen)
  · rw [htogether.isPunct_eq] at hpunct
    rw [if_neg hpunct, if_neg hpunct]
    exact .failed (.expected _ htogether.look) htogether.machines

private theorem expectName : Corresponds k tokens tokens' (alikeness k tokens tokens').names expectName expectName := by
  intro frame left right _ htogether
  rw [expectName_apply, expectName_apply]
  rcases htogether.sees with ⟨located, located', hleft, hright, halike⟩ | ⟨hleft, hright⟩
  · simp only [hleft, hright, ← halike.token]
    split
    · rename_i hkind
      exact .done ⟨rfl, halike.span⟩ (htogether.stepKind hleft (by simp [hkind]))
    · exact .failed (.expected _ (.some halike)) htogether.machines
  · simp only [hleft, hright]
    exact .failed (.expected _ .none) htogether.machines

private theorem tryElse : Corresponds k tokens tokens' Eq (tryKeyword .otherwise) (tryKeyword .otherwise) := by
  intro frame left right _ htogether
  rw [tryKeyword_apply, tryKeyword_apply]
  dsimp only
  rcases htogether.sees with ⟨located, located', hleft, hright, halike⟩ | ⟨hleft, hright⟩
  · rw [Cursor.keyword?_of_current hleft, Cursor.keyword?_of_current hright, ← halike.token]
    split
    · rename_i hkeyword
      exact .done rfl (htogether.stepKind hleft (by simp [Level.keyword_kind hkeyword]))
    · exact .done rfl htogether
  · rw [Cursor.keyword?_of_ended hleft, Cursor.keyword?_of_ended hright]
    exact .done rfl htogether

private theorem operator {x : Eval α} {y : Eval β} {f : Located → Eval α} {g : Located → Eval β} (tier : Tier)
    (hnone : Corresponds k tokens tokens' V x y)
    (hsome : ∀ {op op'}, Located.Alike k.spans op op' → Corresponds k tokens tokens' V (f op) (g op')) :
    Corresponds k tokens tokens' V
      (operator? tier >>= fun found => match found with
        | none => x
        | some op => advance >>= fun _ => f op)
      (operator? tier >>= fun found => match found with
        | none => y
        | some op => advance >>= fun _ => g op) := by
  intro frame left right hadmits htogether
  rw [bind_of_done (operator?_apply _ left tier), bind_of_done (operator?_apply _ right tier)]
  rcases htogether.sees with ⟨located, located', hleft, hright, halike⟩ | ⟨hleft, hright⟩
  · simp only [hleft, hright, Option.filter, ← halike.token]
    by_cases hoperator : located.token.isOperator tier = true
    · simp only [if_pos hoperator]
      rw [bind_of_done (advance_of_current hleft), bind_of_done (advance_of_current hright)]
      have hkind : located.token.kind = .operator := by
        simp only [Token.isOperator, Bool.and_eq_true, beq_iff_eq] at hoperator
        exact hoperator.1
      exact hsome halike frame _ _ hadmits (htogether.stepKind hleft (by simp [hkind]))
    · simp only [if_neg hoperator]
      exact hnone frame left right hadmits htogether
  · simp only [hleft, hright]
    exact hnone frame left right hadmits htogether

/-- Both sides take the same way at a test of the current token. -/
theorem branch (test : Cursor → Bool)
    (htest : ∀ {left right}, k.places left right → test left = test right) {x x' : Eval α} {y y' : Eval β}
    (hyes : Corresponds k tokens tokens' V x y) (hno : Corresponds k tokens tokens' V x' y') :
    Corresponds k tokens tokens' V (do if test (← cursor) then x else x') (do if test (← cursor) then y else y') := by
  intro frame left right hadmits htogether
  rw [bind_apply, bind_apply]
  dsimp only [cursor]
  rw [htest htogether.places]
  split
  · exact hyes frame left right hadmits htogether
  · exact hno frame left right hadmits htogether

/-- What begins with a look at the first token begins at that token. -/
theorem first {f : Located → Eval α} {g : Located → Eval β}
    (hf : ∀ {located located'}, Located.Alike k.spans located located' →
      CorrespondsAt k tokens tokens' located.token V (f located) (g located')) :
    Corresponds k tokens tokens' V (firstToken >>= f) (firstToken >>= g) := by
  intro frame left right hadmits htogether
  rw [bind_apply, bind_apply, firstToken_apply, firstToken_apply]
  rcases htogether.sees with ⟨located, located', hleft, hright, halike⟩ | ⟨hleft, hright⟩
  · simp only [hleft, hright]
    exact hf halike frame left right _ _ hadmits htogether hleft hright rfl halike.token.symm
  · simp only [hleft, hright]
    exact .failed (.expected _ .none) htogether.machines

theorem entry (token : Token) : Entry (CorrespondsAt k tokens tokens' token) (Corresponds k tokens tokens') token where
  free hx := fun frame left right _ _ hadmits htogether _ _ _ _ => hx frame left right hadmits htogether
  leads hkind :=
    { bind := fun hx hf frame left right located located' hadmits htogether hleft hright htoken htoken' =>
        bind_echoes (hx frame left right located located' hadmits htogether hleft hright htoken htoken')
          fun hresults hmachines => hf _ _ hresults frame _ _ hadmits hmachines
      advance := by
        intro frame left right located located' _ htogether hleft hright htoken _
        rw [liftM_eval, advance_of_current hleft, advance_of_current hright]
        exact .done trivial (htogether.stepKind hleft (htoken ▸ hkind)) }
  unexpected wanted := fun frame left right _ _ hadmits htogether _ _ _ _ =>
    unexpected wanted frame left right hadmits htogether

theorem skipList : Corresponds k tokens tokens' anyResult skipList skipList := by
  intro frame left right _ htogether
  rw [skipList_apply, skipList_apply]
  dsimp only
  by_cases hopen : (Cursor.mk tokens left.pos).isPunct "(" = true
  · have hopen' := htogether.isPunct_eq "(" ▸ hopen
    rw [if_pos hopen, if_pos hopen']
    have hregion := k.region htogether.places hopen
    dsimp only at hregion
    generalize closeFrom tokens (left.pos + 1) 0 = stop at hregion ⊢
    generalize closeFrom tokens' (right.pos + 1) 0 = stop' at hregion ⊢
    cases hregion with
    | some hplaces => exact .done trivial ⟨htogether.machines.moved _ _, hplaces⟩
    | none => exact .failed (.expected _ .none) (htogether.machines.moved _ _)
  · have hopen' := htogether.isPunct_eq "(" ▸ hopen
    rw [if_neg hopen, if_neg hopen']
    exact .failed (.expected _ htogether.look) htogether.machines

theorem guards : Guards (alikeness k tokens tokens') (Corresponds k tokens tokens') where
  pure := pure
  bind := bind
  expectPunct hopen _ := expectPunct hopen
  expectName := expectName
  tryElse := tryElse
  operator := operator
  skipList := skipList
  opening := branch (·.isPunct "(") fun hplaces => Cursor.isPunct_eq_of_alike (k.current hplaces) "("

theorem lists : Lists (alikeness k tokens tokens') (Corresponds k tokens tokens') where
  pure := pure
  bind := bind
  expectName := expectName
  closing hyes hno := branch (fun here => here.atEnd || here.isPunct ")")
    (fun hplaces => by
      rw [Cursor.atEnd_eq_of_alike (k.current hplaces), Cursor.isPunct_eq_of_alike (k.current hplaces)]) hyes hno
  comma hyes hno := by
    intro frame left right hadmits htogether
    rw [bind_apply, bind_apply]
    dsimp only [liftM_eval, cursor]
    by_cases hcomma : (Cursor.mk tokens left.pos).isPunct "," = true
    · have hcomma' := htogether.isPunct_eq "," ▸ hcomma
      obtain ⟨located, hleft, hpunct⟩ := isPunct_iff.1 hcomma
      obtain ⟨located', hright, _⟩ := isPunct_iff.1 hcomma'
      rw [if_pos hcomma, if_pos hcomma', bind_of_done (advance_of_current hleft),
        bind_of_done (advance_of_current hright)]
      exact hyes frame _ _ hadmits (htogether.stepPunct hleft hpunct (by decide))
    · have hcomma' := htogether.isPunct_eq "," ▸ hcomma
      rw [if_neg hcomma, if_neg hcomma']
      exact hno frame left right hadmits htogether

end Corresponds

end Eval

end Rewind
