import Rewind.Proofs.Alike
import Rewind.Proofs.Comparison.Program
import Rewind.Proofs.Header
import Rewind.Proofs.Limits.Peaks
import Rewind.Proofs.Tree.Simulation

namespace Rewind

/-- An invariant of runs, by its parts. -/
structure RunInvariant where
  /-- The buffers that it reads. -/
  buffer : Array Located → Prop
  /-- The functions that it can bind, call or yield. -/
  function : Function → Prop
  /-- The names that it may bind. -/
  name : String → Prop
  /-- The bindings that all others keep. -/
  origin : Env
  /-- A property of its log. -/
  log : Array Event → Prop

/-- The value is a function only if it is one of the invariant. -/
def RunInvariant.Allows (invariant : RunInvariant) (value : Value) : Prop :=
  ∀ f, value = .function f → invariant.function f

/-- The invariant contains what reading its buffers, calling its functions and consulting the
    hosts leads to. -/
structure RunInvariant.Closed (invariant : RunInvariant) (hosts : Hosts) : Prop where
  body : ∀ {f}, invariant.function f → invariant.buffer f.body.tokens
  param : ∀ {f name}, invariant.function f → name ∈ f.params → invariant.name name
  assigned : ∀ {tokens p name span}, invariant.buffer tokens → KeywordAt tokens p .assign →
    NameAt tokens (p + 1) name span → invariant.name name
  defined : ∀ {tokens p name params body} (id : Identity), invariant.buffer tokens →
    HeaderAt tokens p name params body → BodyAt tokens body →
      invariant.name name ∧ invariant.function ⟨id, name, params, tokens, body⟩
  answer : ∀ {host earlier code value}, (hosts host).answer earlier code = .ok value → invariant.Allows value
  push : ∀ {log event}, invariant.log log → (∀ f, event.function? = some f → invariant.function f) →
    invariant.log (log.push event)

structure Machine.Satisfies (invariant : RunInvariant) (machine : Machine) : Prop where
  functions : ∀ {name f}, machine.env.get? name = some (.function f) → invariant.function f
  others : ∀ {name}, ¬ invariant.name name → machine.env.get? name = invariant.origin.get? name
  bound : ∀ {name}, invariant.origin.contains name → machine.env.contains name
  log : invariant.log machine.log

/-- The same value on both sides, and one that the invariant allows. -/
def RunInvariant.likeness (invariant : RunInvariant) : Likeness :=
  { Likeness.same with
    patience := Eq
    values := fun v w => v = w ∧ invariant.Allows v }

theorem RunInvariant.allows_of_ne_function {invariant : RunInvariant} {value : Value}
    (hplain : ∀ f, value ≠ .function f) :
    invariant.Allows value :=
  fun f heq => absurd heq (hplain f)

namespace Machine.Satisfies

variable {invariant : RunInvariant} {hosts : Hosts} {machine : Machine}

private theorem moved (hsatisfies : machine.Satisfies invariant) (pos : Nat) :
    ({ machine with pos } : Machine).Satisfies invariant :=
  ⟨hsatisfies.functions, hsatisfies.others, hsatisfies.bound, hsatisfies.log⟩

private theorem record (hsatisfies : machine.Satisfies invariant) (hclosed : invariant.Closed hosts) {event : Event}
    (hevent : ∀ f, event.function? = some f → invariant.function f) : (machine.record event).Satisfies invariant :=
  ⟨hsatisfies.functions, hsatisfies.others, hsatisfies.bound, hclosed.push hsatisfies.log hevent⟩

private theorem bind (hsatisfies : machine.Satisfies invariant) (hclosed : invariant.Closed hosts) {name : String}
    {value : Value}
    (hname : invariant.name name) (hvalue : invariant.Allows value) :
    (machine.bind name value).Satisfies invariant := by
  have hget (other : String) : (machine.bind name value).env.get? other =
      if other = name then some value else machine.env.get? other := Env.get?_set machine.env name other value
  refine ⟨fun {other f} hfound => ?_, fun {other} hother => ?_, fun {other} hbound => ?_,
    hclosed.push hsatisfies.log fun f hfunction => ?_⟩
  · rw [hget] at hfound
    split at hfound
    · exact hvalue f (Option.some.inj hfound)
    · exact hsatisfies.functions hfound
  · rw [hget, if_neg]
    · exact hsatisfies.others hother
    · rintro rfl
      exact hother hname
  · rw [Env.contains, hget]
    split
    · rfl
    · exact hsatisfies.bound hbound
  · cases value with
    | function g =>
      cases hfunction
      exact hvalue _ rfl
    | number | string | native | nil => cases hfunction

private theorem bindAll (hsatisfies : machine.Satisfies invariant) (hclosed : invariant.Closed hosts)
    {params : List String} {arguments : List Value} (hparams : ∀ param ∈ params, invariant.name param)
    (harguments : ∀ value ∈ arguments, invariant.Allows value) :
    (machine.bindAll params arguments).Satisfies invariant := by
  induction params generalizing machine arguments with
  | nil => exact hsatisfies
  | cons param params ih =>
    obtain ⟨hparam, hparams⟩ := List.forall_mem_cons.1 hparams
    cases arguments with
    | nil => exact ih (hsatisfies.bind hclosed hparam (RunInvariant.allows_of_ne_function (by simp))) hparams harguments
    | cons value arguments =>
      obtain ⟨hvalue, harguments⟩ := List.forall_mem_cons.1 harguments
      exact ih (hsatisfies.bind hclosed hparam hvalue) hparams harguments

private theorem called (hsatisfies : machine.Satisfies invariant) (hclosed : invariant.Closed hosts) {f : Function}
    (hfunction : invariant.function f) {arguments : Array Value}
    (harguments : ∀ value ∈ arguments.toList, invariant.Allows value) :
    ((machine.record (.called f arguments.size)).bindAll f.params arguments.toList).Satisfies invariant := by
  refine (hsatisfies.record hclosed ?_).bindAll hclosed (fun _ hmem => hclosed.param hfunction hmem) harguments
  rintro _ ⟨⟩
  exact hfunction

private theorem define (hsatisfies : machine.Satisfies invariant) (hclosed : invariant.Closed hosts) {name : String}
    {params : List String} {body : Cursor} (hname : invariant.name name)
    (hfunction : ∀ id, invariant.function ⟨id, name, params, body⟩) :
    (machine.define name params body).Satisfies invariant := by
  have hcounted : ({ machine with made := machine.made + 1 } : Machine).Satisfies invariant :=
    ⟨hsatisfies.functions, hsatisfies.others, hsatisfies.bound, hsatisfies.log⟩
  refine (hcounted.record hclosed ?_).bind hclosed hname ?_
  · rintro _ ⟨⟩
    exact hfunction _
  · rintro _ ⟨⟩
    exact hfunction _

private theorem entering (hsatisfies : machine.Satisfies invariant) (target : Cursor) (depth : Nat) :
    (machine.entering target depth).Satisfies invariant :=
  ⟨hsatisfies.functions, hsatisfies.others, hsatisfies.bound, hsatisfies.log⟩

private theorem consulted {frame : Frame} (hsatisfies : machine.Satisfies invariant)
    (hclosed : invariant.Closed frame.hosts)
    (host : Native) (code : String) : (Eval.consulted host code frame machine).Satisfies invariant := by
  have htold : (machine.record (.shellRun code)).Satisfies invariant :=
    hsatisfies.record hclosed (by simp [Event.function?])
  unfold Eval.consulted
  dsimp only
  split
  · exact ⟨htold.functions, htold.others, htold.bound, htold.log⟩
  · exact ⟨hsatisfies.functions, hsatisfies.others, hsatisfies.bound, hsatisfies.log⟩

end Machine.Satisfies

namespace Eval

/-- A computation that preserves the invariant, whether it succeeds or fails. Nothing is said of
    the other side, which stands there for the results only. -/
def Preserves (invariant : RunInvariant) {α β : Type} (V : α → β → Prop) (x : Eval α) (_ : Eval β) : Prop :=
  ∀ ⦃frame start⦄, invariant.buffer frame.tokens → invariant.Closed frame.hosts → start.Satisfies invariant →
    (x frame start).Meets (fun a after => after.Satisfies invariant ∧ ∃ b, V a b) fun _ after =>
      after.Satisfies invariant

/-- The same of a computation that begins at the token. -/
def PreservesAt (invariant : RunInvariant) (token : Token) {α β : Type} (V : α → β → Prop) (x : Eval α)
    (_ : Eval β) : Prop :=
  ∀ ⦃frame start located⦄, invariant.buffer frame.tokens → invariant.Closed frame.hosts → start.Satisfies invariant →
    frame.tokens[start.pos]? = some located → located.token = token →
    (x frame start).Meets (fun a after => after.Satisfies invariant ∧ ∃ b, V a b) fun _ after =>
      after.Satisfies invariant

namespace Preserves

variable {invariant : RunInvariant} {α β γ δ : Type} {V : α → β → Prop} {W : γ → δ → Prop}

private theorem pure {a : α} {b : β} (hab : V a b) : Preserves invariant V (Pure.pure a) (Pure.pure b) :=
  fun _ _ _ _ hstart => ⟨hstart, b, hab⟩

private theorem bind {x : Eval α} {y : Eval β} {f : α → Eval γ} {g : β → Eval δ} (hx : Preserves invariant V x y)
    (hf : ∀ a b, V a b → Preserves invariant W (f a) (g b)) : Preserves invariant W (x >>= f) (y >>= g) := by
  intro frame start hbuffer hclosed hstart
  refine bind_meets (hx hbuffer hclosed hstart) ?_
  rintro a mid ⟨hmid, b, hab⟩
  exact hf a b hab hbuffer hclosed hmid

private theorem fail {y : Eval β} (error : Error) : Preserves invariant V (fail error : Eval α) y :=
  fun _ _ _ _ hstart => hstart

private theorem still {V : α → α → Prop} {x : Eval α} (hx : ∀ frame start, ∃ a, x frame start = .done a start ∧ V a a) :
    Preserves invariant V x x := by
  intro frame start _ _ hstart
  obtain ⟨a, hdone, ha⟩ := hx frame start
  rw [hdone]
  exact ⟨hstart, a, ha⟩

private theorem skipList : Preserves invariant anyResult skipList skipList := by
  intro frame start _ _ hstart
  refine (skipList_meets frame start).mono ?_ ?_
  · rintro _ _ ⟨stop, _, rfl⟩
    exact ⟨hstart.moved stop, (), trivial⟩
  · rintro _ _ ⟨pos, rfl⟩
    exact hstart.moved pos

private theorem walks : Walks invariant.likeness (Preserves invariant) where
  pure := pure
  bind := bind
  cursor := still fun _ _ => ⟨_, rfl, rfl⟩
  current := by
    rintro left _ rfl
    exact Likeness.same_current left
  advance := fun _ _ _ _ hstart => ⟨hstart.moved _, (), trivial⟩
  unexpected _ := fun _ _ _ _ hstart => hstart
  skipList := skipList
  rounds := still fun _ _ => ⟨_, rfl, rfl⟩

private theorem update {change change' : Machine → Machine}
    (hchange : ∀ {hosts machine}, invariant.Closed hosts → machine.Satisfies invariant →
      (change machine).Satisfies invariant) :
    Preserves invariant anyResult (update change) (update change') :=
  fun _ _ _ hclosed hstart => ⟨hchange hclosed hstart, (), trivial⟩

private theorem lookup {name : String} {left right : Span} :
    Preserves invariant invariant.likeness.values (lookup name left) (lookup name right) := by
  intro frame start _ _ hstart
  unfold Eval.lookup
  cases hvalue : start.env.get? name with
  | none => exact hstart
  | some value =>
    refine ⟨hstart, value, rfl, fun f hfunction => ?_⟩
    rw [hfunction] at hvalue
    exact hstart.functions hvalue

private theorem allows_of_arrays {left right : Array Value} (harrays : invariant.likeness.arrays left right) :
    ∀ value ∈ left.toList, invariant.Allows value := by
  unfold Likeness.arrays at harrays
  generalize left.toList = list at harrays
  generalize right.toList = list' at harrays
  induction harrays with
  | nil => simp
  | cons hvalue _ ih => exact List.forall_mem_cons.2 ⟨hvalue.2, ih⟩

private theorem consult {name : String} {host : Native} {left right : Array Value} {here there : Span} :
    Preserves invariant invariant.likeness.values (consult name host left here) (consult name host right there) := by
  by_cases hstring : ∃ code rest, left.toList = .string code :: rest
  · obtain ⟨code, rest, hstring⟩ := hstring
    intro frame start _ hclosed hstart
    have hafter := hstart.consulted hclosed host code
    rw [consult_of_string hstring]
    cases hanswer : (frame.hosts host).answer (start.earlier host) code with
    | ok value => exact ⟨hafter, value, rfl, hclosed.answer hanswer⟩
    | error text => exact hafter
  · rw [consult_of_not_string fun code rest heq => hstring ⟨code, rest, heq⟩]
    exact fail _

private theorem inBuffer {body : Eval α} {body' : Eval β} {f g : Function} (hfunction : invariant.function f)
    (hbody : Preserves invariant V body body') :
    Preserves invariant V (inBuffer f.body body) (inBuffer g.body body') := by
  intro frame start _ hclosed hstart
  have hinside := @hbody (frame.entering f.body) _ (hclosed.body hfunction) hclosed (hstart.entering f.body frame.depth)
  rw [inBuffer_apply]
  cases hdone : body (frame.entering f.body) (start.entering f.body frame.depth) with
  | done a after =>
    rw [hdone] at hinside
    exact ⟨hinside.1.moved _, hinside.2⟩
  | failed error after =>
    rw [hdone] at hinside
    exact hinside.moved _
  | unfinished => trivial

private theorem invoke {inner inner' : Eval Value}
    (hlist : Preserves invariant invariant.likeness.arrays (list inner) (list inner')) {f g : Function}
    (hfunction : invariant.function f) {left right : Array Value} (harrays : invariant.likeness.arrays left right)
    {here there : Span} :
    Preserves invariant invariant.likeness.values (invoke inner f left here) (invoke inner' g right there) := by
  refine bind (V := fun left right => left = right) (still fun _ _ => ⟨_, rfl, rfl⟩) ?_
  rintro outer _ rfl
  split
  · exact fail _
  · refine bind (update fun hclosed hstart =>
    hstart.called hclosed hfunction (allows_of_arrays harrays)) fun _ _ _ => ?_
    refine bind (inBuffer hfunction hlist) fun values values' hvalues => ?_
    exact pure (hvalues.back ⟨rfl, RunInvariant.allows_of_ne_function (by simp)⟩)

private theorem guarded {inner inner' : Eval Value} {skip skip' : Eval Unit}
    (hinner : Preserves invariant invariant.likeness.values inner inner')
    (hskip : Preserves invariant anyResult skip skip') :
    Guarded invariant.likeness (Preserves invariant) (.of inner skip) (.of inner' skip') where
  toGuards := walks.guards
  nested := hinner
  passed := hskip
  list := walks.list hinner
  number _ := ⟨rfl, RunInvariant.allows_of_ne_function (by simp)⟩
  string _ := ⟨rfl, RunInvariant.allows_of_ne_function (by simp)⟩
  nil := ⟨rfl, RunInvariant.allows_of_ne_function (by simp)⟩
  truthy hvalues := congrArg Value.truthy hvalues.1
  callees hvalues := by
    obtain ⟨rfl, hallows⟩ := hvalues
    exact .self ⟨rfl, hallows⟩
  lookup _ := lookup
  emptyList _ := fail _
  notCallable _ _ _ _ _ _ _ := fail _
  invoke hfunctions harrays _ := invoke (walks.list hinner) (hfunctions.2 _ rfl) harrays
  consult _ _ _ := consult
  machine := still fun _ _ => ⟨_, rfl, rfl⟩
  rewind _ := fun _ _ _ _ hstart => ⟨hstart.moved _, (), trivial⟩
  frame := still fun _ _ => ⟨_, rfl, rfl⟩
  oneMore hpatience := ⟨_, Eq.symm hpatience, rfl⟩
  giveUp _ _ := fun _ _ _ _ _ => trivial
  record hevent := update fun hclosed hstart => hstart.record hclosed (by simp [hevent])

/-- A computation that reads the current token first. -/
private theorem first {f : Located → Eval α} {g : Located → Eval β}
    (hf : ∀ located, PreservesAt invariant located.token V (f located) (g located)) :
    Preserves invariant V (firstToken >>= f) (firstToken >>= g) := by
  intro frame start hbuffer hclosed hstart
  rw [bind_apply, firstToken_apply]
  cases hcurrent : frame.tokens[start.pos]? with
  | none => exact hstart
  | some located => exact hf located hbuffer hclosed hstart hcurrent rfl

private theorem entry (token : Token) : Entry (PreservesAt invariant token) (Preserves invariant) token where
  free hx := fun _ _ _ hbuffer hclosed hstart _ _ => hx hbuffer hclosed hstart
  leads _ :=
    { bind := by
        intro α β γ δ V W x y f g hx hf frame start located hbuffer hclosed hstart hcurrent htoken
        refine bind_meets (hx hbuffer hclosed hstart hcurrent htoken) ?_
        rintro a mid ⟨hmid, b, hab⟩
        exact hf a b hab hbuffer hclosed hmid
      advance := fun _ _ _ _ _ hstart _ _ => ⟨hstart.moved _, (), trivial⟩ }
  unexpected _ := fun _ _ _ _ _ hstart _ _ => hstart

section Names

variable {inner inner' : Eval Value} {skip skip' : Eval Unit} {token : Token}

theorem keywordAt_of_token {tokens : Array Located} {pos : Nat} {located : Located} {keyword : Keyword}
    (hcurrent : tokens[pos]? = some located) (hkeyword : located.token.keyword? = some keyword) :
    KeywordAt tokens pos keyword := by
  rw [KeywordAt, Cursor.keyword?, Cursor.current?, hcurrent]
  exact hkeyword

/-- The name that a definition binds stands after its keyword, and the function is one that
    the invariant allows. -/
private theorem define (hkeyword : token.keyword? = some .define) :
    PreservesAt invariant token invariant.likeness.values (Parts.of inner skip).define
      (Parts.of inner' skip').define := by
  intro frame start located hbuffer hclosed hstart hcurrent htoken
  rw [Parts.define_of]
  refine (define_meets (keywordAt_of_token hcurrent (htoken ▸ hkeyword))).mono ?_ ?_
  · rintro _ _ ⟨rfl, name, params, body, pos, hheader, hbody, rfl⟩
    have hdefined := fun id => hclosed.defined id hbuffer hheader hbody
    refine ⟨(hstart.moved pos).define hclosed (hdefined (.made 0)).1 fun id => (hdefined id).2, .nil, rfl, ?_⟩
    exact RunInvariant.allows_of_ne_function (by simp)
  · rintro _ _ ⟨pos, rfl⟩
    exact hstart.moved pos

/-- The name that an assignment binds stands after its keyword. -/
private theorem assign (hinner : Preserves invariant invariant.likeness.values inner inner')
    (hkeyword : token.keyword? = some .assign) :
    PreservesAt invariant token invariant.likeness.values (Parts.of inner skip).assign
      (Parts.of inner' skip').assign := by
  intro frame start located hbuffer hclosed hstart hcurrent htoken
  have hkeyword := keywordAt_of_token hcurrent (htoken ▸ hkeyword)
  have hrest (name : String) (hname : invariant.name name) : Preserves invariant invariant.likeness.values
      (expectPunct "=" >>= fun _ => inner >>= fun value => Eval.update (·.bind name value) >>= fun _ => Pure.pure .nil)
      (expectPunct "=" >>= fun _ => inner' >>= fun value => Eval.update (·.bind name value) >>= fun _ =>
        Pure.pure .nil) :=
    bind (walks.expectPunct "=") fun _ _ _ => bind hinner fun _ _ hvalues =>
      bind (update fun hclosed hsatisfies => hsatisfies.bind hclosed hname hvalues.2) fun _ _ _ =>
        pure ⟨rfl, RunInvariant.allows_of_ne_function (by simp)⟩
  unfold Parts.assign
  rw [liftM_eval, bind_of_done (advance_of_current hcurrent)]
  refine bind_meets ((expectName_meets frame _).mono (fun _ _ hfound => hfound) ?_) ?_
  · rintro _ _ ⟨pos, rfl⟩
    exact hstart.moved pos
  · rintro ⟨name, span⟩ _ ⟨hname, rfl⟩
    exact hrest name (hclosed.assigned hbuffer hkeyword hname) hbuffer hclosed (hstart.moved _)

end Names

private theorem form {inner inner' : Eval Value} {skip skip' : Eval Unit}
    (hinner : Preserves invariant invariant.likeness.values inner inner')
    (hskip : Preserves invariant anyResult skip skip') (located : Located) :
    PreservesAt invariant located.token invariant.likeness.values (form inner skip located)
      (form inner' skip' located) := by
  rw [← Parts.form_of, ← Parts.form_of]
  exact (guarded hinner hskip).form (entry _) ⟨rfl, rfl⟩ define (assign hinner)

private theorem noteNesting (budget : Nat) {token : Token} {x : Eval α} {y : Eval β}
    (hx : PreservesAt invariant token V x y) :
    PreservesAt invariant token V (noteNesting budget >>= fun _ => x) (noteNesting budget >>= fun _ => y) := by
  intro frame start located hbuffer hclosed hstart hcurrent htoken
  have hnoted (depth : Nat) : ({ start with deepestNesting := depth } : Machine).Satisfies invariant :=
    ⟨hstart.functions, hstart.others, hstart.bound, hstart.log⟩
  exact hx hbuffer hclosed (hnoted _) hcurrent htoken

private theorem tooNested (located : Located) (token : Token) :
    PreservesAt invariant token V (tooNested located : Eval α) (tooNested located : Eval β) :=
  fun _ _ _ _ _ hstart _ _ => hstart

private theorem skipOperand (budget : Nat) :
    Preserves invariant anyResult (skipOperand budget) (skipOperand budget) := by
  induction budget with
  | zero => exact first fun located => tooNested located _
  | succ budget ih =>
    refine first fun located => noteNesting budget (walks.guards.skipFormBy ?_ (entry _) ⟨rfl, rfl⟩)
    exact walks.expression ih fun _ _ _ => pure trivial

private theorem skipExpression (budget : Nat) :
    Preserves invariant anyResult (skipExpression budget) (skipExpression budget) :=
  walks.expression (skipOperand budget) fun _ _ _ => pure trivial

private theorem combine {op op' : Located} {l l' r r' : Value} :
    Preserves invariant invariant.likeness.values (ofExcept (combine op l r)) (ofExcept (combine op' l' r')) := by
  unfold Eval.combine
  cases hvalue : Value.operate? op.token.lexeme l r with
  | none => exact fail _
  | some value =>
    have hplain := Value.operate?_ne_function hvalue
    exact fun _ _ _ _ hstart => ⟨hstart, value, rfl, RunInvariant.allows_of_ne_function hplain⟩

private theorem operand (budget : Nat) : Preserves invariant invariant.likeness.values (operand budget)
    (operand budget) := by
  induction budget with
  | zero => exact first fun located => tooNested located _
  | succ budget ih =>
    refine first fun located => noteNesting budget (form ?_ (skipExpression budget) located)
    exact walks.expression ih fun _ _ _ => combine

private theorem evaluate (budget : Nat) :
    Preserves invariant invariant.likeness.values (evaluate budget) (evaluate budget) :=
  walks.expression (operand budget) fun _ _ _ => combine

theorem list (budget : Nat) :
    Preserves invariant invariant.likeness.arrays (list (Eval.evaluate budget)) (list (Eval.evaluate budget)) :=
  walks.list (evaluate budget)

private theorem programFrom (budget rounds : Nat) {last : Value} (hlast : invariant.Allows last) :
    Preserves invariant invariant.likeness.values (programFrom (Eval.evaluate budget) rounds last)
      (programFrom (Eval.evaluate budget) rounds last) := by
  induction rounds generalizing last with
  | zero => exact pure ⟨rfl, hlast⟩
  | succ rounds ih =>
    refine walks.branch (·.atEnd) (fun hcursors => congrArg _ hcursors) (pure ⟨rfl, hlast⟩) (bind (evaluate budget) ?_)
    rintro value _ ⟨rfl, hvalue⟩
    exact ih hvalue

private theorem program : Preserves invariant invariant.likeness.values program program := by
  intro frame start
  exact @programFrom invariant frame.limits.nesting (frame.tokens.size + 1) .nil
    (RunInvariant.allows_of_ne_function (by simp)) frame start

end Preserves

end Eval

/-- A run preserves the invariant, whether it succeeds or fails, and yields a value that the
    invariant allows. -/
theorem Interpreter.run_keeps {invariant : RunInvariant} {interpreter after : Interpreter} {hosts : Hosts}
    {patience : Nat}
    {result : Except Error Value} (hbuffer : invariant.buffer interpreter.tokens) (hclosed : invariant.Closed hosts)
    (hmachine : interpreter.machine.Satisfies invariant)
    (hrun : interpreter.run hosts patience = some (result, after)) :
    after.machine.Satisfies invariant ∧ ∀ value, result = .ok value → invariant.Allows value := by
  have hprogram := @Eval.Preserves.program invariant (interpreter.frame hosts patience) _ hbuffer hclosed hmachine
  rw [run_eq_report] at hrun
  cases hdone : Eval.program (interpreter.frame hosts patience) interpreter.machine with
  | done value stop =>
    rw [hdone] at hrun hprogram
    cases hrun
    obtain ⟨hafter, _, _, hvalue⟩ := hprogram
    refine ⟨hafter, ?_⟩
    rintro _ ⟨⟩
    exact hvalue
  | failed error stop =>
    rw [hdone] at hrun hprogram
    cases hrun
    exact ⟨hprogram, fun _ hresult => nomatch hresult⟩
  | unfinished =>
    rw [hdone] at hrun
    cases hrun

end Rewind
