import Rewind.Proofs.Enclosure

namespace Rewind.Eval

/-- What is read between the parentheses of a list is read in a region of its own. -/
private theorem Watch.Fences.shrink {watch : Watch} {e : Enclosure} (hfences : watch.Fences e) {stop : Nat}
    (hle : stop ≤ e.stop) :
    watch.Fences { e with stop } where
  here hlow hstop := hfences.here hlow (Nat.le_trans hstop hle)
  deeper := hfences.deeper

/-- Calls go on without a fence, so also behind one of their own. -/
private theorem Watch.Fences.entering {watch : Watch} {e : Enclosure} (hfences : watch.Fences e) (target : Cursor)
    (low stop : Nat) :
    watch.Fences ⟨e.frame.entering target, low, stop⟩ where
  here _ _ := hfences.deeper (Nat.lt_succ_self _)
  deeper hdepth := hfences.deeper (Nat.lt_of_succ_lt hdepth)

private theorem Watch.Fences.free {watch : Watch} {e : Enclosure} (hfences : watch.Fences e) :
    watch.Free fun frame => e.frame.depth < frame.depth where
  goesOn := hfences.deeper
  entering hdepth := Nat.lt_succ_of_lt hdepth

/-- The log before a list that fails is a prefix of the log after it. -/
private theorem list_grows {budget : Nat} {frame : Frame} {start after : Machine} {error : Error}
    (hfailed : list (evaluate budget) frame start = .failed error after) :
    start.log.toList <+: after.log.toList := by
  have hclosed : (RunInvariant.since (fun _ => True) start).Closed frame.hosts :=
    RunInvariant.since_closed (fun _ _ _ => trivial) fun _ _ _ => trivial
  have habides := Preserves.list budget trivial hclosed (RunInvariant.since_keeps fun _ _ _ => trivial)
  rw [hfailed] at habides
  obtain ⟨later, hlog, _⟩ := habides.log
  exact ⟨later, hlog.symm⟩

/-- A list that is not closed is not evaluated to its end. -/
private theorem list_ne_done {budget : Nat} {frame : Frame} {start after : Machine} {values : Array Value}
    (hclose : closeFrom frame.tokens (start.pos + 1) 0 = none) :
    list (evaluate budget) frame start ≠ .done values after := by
  intro hdone
  have hlevel : Level (evaluate budget) := (Agrees.evaluate budget).level (.skipExpression budget)
  rw [list_eq_between] at hdone
  have hstop := closeFrom_of_between (Level.rounds.bind fun rounds => Agrees.elementsFrom_level hlevel rounds #[]) hdone
  rw [hclose] at hstop
  cases hstop

namespace Enclosed

variable {watch : Watch} {e : Enclosure} {α β : Type} {V : α → β → Prop}

theorem around_held {moment : Moment} {x : Watched α} {y : Eval β} {frame : Frame} {origin start : Machine}
    {low stop : Nat} {ends : Nat → Prop} (hbefore : watch moment frame start.pos = true)
    (hafter : ∀ pos, ends pos → watch .done frame pos = true)
    (hx : Verdict.Held low stop origin ends V (x frame start) (y frame start)) :
    Verdict.Held low stop origin ends V (watch.around moment x frame start) (y frame start) := by
  unfold Watch.around
  rw [Watched.bind_apply, Watch.ask, if_pos hbefore]
  dsimp only
  rw [Watched.bind_apply]
  generalize x frame start = verdict at hx ⊢
  generalize y frame start = outcome at hx ⊢
  cases hx with
  | done hresults hends hgrows =>
    dsimp only
    rw [Watched.bind_apply, Watch.ask, if_pos (hafter _ hends)]
    exact .done hresults hends hgrows
  | failed hwithin hbreaks => exact .failed hwithin hbreaks
  | unfinished => exact .unfinished

private theorem around (hfences : watch.Fences e) (moment : Moment) {x : Watched α} {y : Eval β}
    (hx : Enclosed e V x y) :
    Enclosed e V (watch.around moment x) y := by
  have hgoes {moment : Moment} {pos : Nat} (hinside : e.Inside pos) : watch moment e.frame pos = true :=
    hfences.here hinside.within.1 hinside.within.2
  exact fun start hinside => around_held (hgoes hinside) (fun _ => hgoes) (hx start hinside)

section Between

variable {x : Watched α} {frame : Frame} {start : Machine}

private theorem watched_between_of_open (hopen : (Cursor.mk frame.tokens start.pos).isPunct "(" = true) :
    Eval.between x frame start =
      (x >>= fun a => liftM (Eval.expectPunct ")") >>= fun _ => Pure.pure a) frame
        { start with pos := start.pos + 1 } := by
  rw [Eval.between, Watched.bind_apply, Watched.liftM_apply, expectPunct_apply, if_pos hopen]
  rfl

private theorem watched_between_of_not_open (hopen : (Cursor.mk frame.tokens start.pos).isPunct "(" = false) :
    Eval.between x frame start =
      .failed (.expected (.punct "(") frame.tokens[start.pos]?) ⟨frame.tokens, start.pos⟩ start := by
  rw [Eval.between, Watched.bind_apply, Watched.liftM_apply, expectPunct_apply, hopen]
  rfl

end Between

/-- Inside of a region, the parenthesis that is met is the one that closes it. -/
private theorem closing_held {start : Machine} (hinside : e.Inside start.pos) :
    Verdict.Held e.low e.stop start (· = e.stop) anyResult ((liftM (Eval.expectPunct ")") : Watched Unit) e.frame start)
      (Eval.expectPunct ")" e.frame start) := by
  obtain ⟨located, hcurrent⟩ := hinside.current
  rw [Watched.liftM_apply, expectPunct_apply, Cursor.isPunct_of_current hcurrent]
  split
  · rename_i hpunct
    have hstop := hinside.2
    rw [closeFrom_of_close hcurrent hpunct] at hstop
    exact .done trivial (Option.some.inj hstop) List.prefix_rfl
  · rw [hcurrent]
    exact .failed hinside.within fun hend => absurd hend (Error.not_atEnd_expected _ located)

/-- A region is read from its first parenthesis to the one that closes it. -/
theorem between_held {x : Watched α} {y : Eval β} {frame : Frame} {start : Machine} {low stop : Nat}
    (hlow : low ≤ start.pos) (hopen : PunctAt frame.tokens start.pos "(")
    (hclose : closeFrom frame.tokens (start.pos + 1) 0 = some stop) (hx : Enclosed ⟨frame, low, stop⟩ V x y) :
    Verdict.Held low stop start (· = stop) V (Eval.between x frame start) (Eval.between y frame start) := by
  obtain ⟨located, hcurrent, hpunct⟩ := isPunct_iff.1 hopen
  rw [watched_between_of_open hopen, between_of_open hcurrent hpunct]
  have hinside : Enclosure.Inside ⟨frame, low, stop⟩ (start.pos + 1) := ⟨Nat.le_succ_of_le hlow, hclose⟩
  have hheld := hx { start with pos := start.pos + 1 } hinside
  refine (bind_held hheld fun hab hmid => ?_).of_grows List.prefix_rfl
  exact bind_held (closing_held hmid) fun _ hends => .done hab hends List.prefix_rfl

/-- A list inside of a region is read in a region of its own. -/
private theorem between (hfences : watch.Fences e) {x : Watched α} {y : Eval β}
    (hx : ∀ e, watch.Fences e → Enclosed e V x y) : Enclosed e V (Eval.between x) (Eval.between y) := by
  intro start hinside
  by_cases hopen : PunctAt e.frame.tokens start.pos "("
  · obtain ⟨stop, hstop, hafter⟩ := hinside.list hopen
    have hheld := between_held hinside.1 hopen hstop (hx _ (hfences.shrink hafter.within.2))
    exact hheld.mono (Nat.le_refl _) hafter.within.2 fun pos hpos => hpos ▸ hafter
  · obtain ⟨located, hcurrent⟩ := hinside.current
    rw [watched_between_of_not_open (Bool.eq_false_iff.2 hopen), between_of_not_open (Bool.eq_false_iff.2 hopen),
      hcurrent]
    exact .failed hinside.within fun hend => absurd hend (Error.not_atEnd_expected _ located)

section Forms

variable {budget : Nat}

private theorem list {inner : Watched Value} {inner' : Eval Value} (hfences : watch.Fences e)
    (hinner : ∀ e, watch.Fences e → Enclosed e Eq inner inner') (hadvances : Advances inner') :
    Enclosed e (enclosedness e).arrays (watch.around .list (Loop.bounded.list inner)) (list inner') := by
  rw [list_eq_between]
  exact around hfences .list (between hfences fun e hfences => loops.elements (hinner e hfences) hadvances)

private theorem params (hfences : watch.Fences e) :
    Enclosed e Eq (watch.around .params Loop.bounded.params) (Eval.between do paramsFrom (← rounds) #[]) :=
  around hfences .params (between hfences fun _ _ => loops.params)

private theorem takeBody (name : String) (params : List String) :
    Enclosed e anyResult (liftM (takeBody name params)) (takeBody name params) := by
  intro start hinside
  have hlog (machine : Machine) (body : Cursor) :
    machine.log.toList <+: (machine.define name params body).log.toList := by
    simp [Machine.define, Machine.bind, Machine.record]
  have hdefined {mid : Machine} (hmid : e.Inside mid.pos) (hgrows : start.log.toList <+: mid.log.toList) :
      Verdict.Held e.low e.stop start e.Inside anyResult
        (.done () (mid.define name params ⟨e.frame.tokens, start.pos⟩))
        (.done () (mid.define name params ⟨e.frame.tokens, start.pos⟩)) :=
    .done trivial hmid (hgrows.trans (hlog mid _))
  have hskipped := skipList start hinside
  rw [Watched.liftM_apply] at hskipped ⊢
  unfold Eval.takeBody
  rw [bind_of_done (show Eval.cursor e.frame start = .done ⟨e.frame.tokens, start.pos⟩ start from rfl)]
  split
  · rw [bind_apply]
    generalize Eval.skipList e.frame start = outcome at hskipped
    cases outcome with
    | done _ mid =>
      cases hskipped with
      | done _ hmid hgrows => exact hdefined hmid hgrows
    | failed error after =>
      cases hskipped with
      | failed hwithin hbreaks => exact .failed hwithin hbreaks
    | unfinished => exact .unfinished
  · exact hdefined hinside List.prefix_rfl

private theorem lookup (name : String) (span : Span) : Enclosed e Eq (liftM (lookup name span)) (lookup name span) := by
  intro start hinside
  rw [Watched.liftM_apply]
  unfold Eval.lookup
  split
  · exact .done rfl hinside List.prefix_rfl
  · exact .failed hinside.within fun hend => by simp [Error.AtEnd, Error.atSpan] at hend

private theorem consult (name : String) (host : Native) (arguments : Array Value) (span : Span) :
    Enclosed e Eq (liftM (consult name host arguments span)) (consult name host arguments span) := by
  by_cases hstring : ∃ code rest, arguments.toList = .string code :: rest
  · obtain ⟨code, rest, hstring⟩ := hstring
    intro start hinside
    have hafter : e.Inside (consulted host code e.frame start).pos := by
      rw [consulted_pos]
      exact hinside
    rw [Watched.liftM_apply, consult_of_string hstring]
    split
    · refine .done rfl hafter ?_
      unfold consulted
      dsimp only
      split
      · simp [Machine.record]
      · exact List.prefix_rfl
    · exact .failed hafter.within fun hend => by simp [Error.AtEnd, Error.atSpan] at hend
  · rw [consult_of_not_string fun code rest heq => hstring ⟨code, rest, heq⟩]
    exact fail (by simp [Error.AtEnd, Error.atSpan])

section Bodies

variable {f : Function} {start mid : Machine} {rest : List Event} {R : Array Value → Array Value → Prop}

/-- A body that is no list fails at once. -/
private theorem missing_held {inner : Watched Value} {inner' : Eval Value} {frame : Frame}
    (hcalled : f.CalledBetween start mid rest) (hrest : ∀ event ∈ rest, ∃ name value, event = .bound name value)
    (hopen : f.body.isPunct "(" = false) :
    Verdict.Held f.body.pos f.body.pos start (fun _ => True) R
      (Loop.bounded.list inner (frame.entering f.body) (mid.entering f.body frame.depth))
      (Eval.list inner' (frame.entering f.body) (mid.entering f.body frame.depth)) := by
  rw [Loop.list, list_eq_between, watched_between_of_not_open hopen, between_of_not_open hopen]
  refine .failed ⟨Nat.le_refl _, Nat.le_refl _⟩ fun hend => ⟨f, rest, hcalled, .inl ⟨?_, hrest⟩⟩
  obtain ⟨wanted, hexpected⟩ := hend
  injection hexpected with _ hnone
  exact (Cursor.atEnd_iff_current? _).2 (Option.map_eq_none_iff.1 hnone)

/-- A body that is not closed is not evaluated to its end, but it is behind no fence
    either. -/
private theorem unclosed_held (hfences : watch.Fences e) (hcalled : f.CalledBetween start mid rest)
    (hunclosed : f.body.Unclosed) {low stop pos : Nat} (hwithin : low ≤ pos ∧ pos ≤ stop) {ends : Nat → Prop} :
    Verdict.Held low stop start ends R
      ((watch.around .list (Loop.bounded.list (watch.evaluate budget)) (e.frame.entering f.body)
        (mid.entering f.body e.frame.depth)).rewound pos)
      ((Eval.list (evaluate budget) (e.frame.entering f.body) (mid.entering f.body e.frame.depth)).rewound pos) := by
  have hwatched := Refines.around hfences.free .list
    (Refines.list (Refines.evaluate hfences.free budget) (.evaluate budget))
    (e.frame.entering f.body) (mid.entering f.body e.frame.depth)
  generalize watch.around .list _ _ _ = verdict at hwatched ⊢
  generalize hended : Eval.list (evaluate budget) _ _ = outcome at hwatched ⊢
  -- no fence stops it, so all there is to see is that the call is in the log of a failure
  cases hwatched with
  | done => exact absurd hended (list_ne_done hunclosed.2)
  | failed =>
    have hgrows := list_grows hended
    obtain ⟨later, hlater⟩ := hcalled.of_grows hgrows
    exact .failed hwithin fun _ => ⟨f, rest ++ later, hlater, .inr hunclosed⟩
  | unfinished => exact .unfinished
  | stopped hstopped => exact absurd (Nat.lt_succ_self _) hstopped

/-- The body of a call that is made in a region. Only a body that is not there, or that is
    not closed, can end with its buffer. -/
private theorem body_held (hfences : watch.Fences e)
    (hinner : ∀ e, watch.Fences e → Enclosed e Eq (watch.evaluate budget) (evaluate budget)) (f : Function)
    (arguments : Array Value) {start : Machine} (hinside : e.Inside start.pos) :
    Verdict.Held e.low e.stop start e.Inside (enclosedness e).arrays
      (Watched.inBuffer f.body (watch.around .list (Loop.bounded.list (watch.evaluate budget))) e.frame
        ((start.record (.called f arguments.size)).bindAll f.params arguments.toList))
      (inBuffer f.body (Eval.list (evaluate budget)) e.frame
        ((start.record (.called f arguments.size)).bindAll f.params arguments.toList)) := by
  obtain ⟨rest, hlog, hrest⟩ := (start.record (.called f arguments.size)).bindAll_log f.params arguments.toList
  generalize hmid : (start.record (.called f arguments.size)).bindAll f.params arguments.toList = mid at hlog
  have hpos : mid.pos = start.pos := by
    rw [← hmid, Machine.bindAll_pos, Machine.record_pos]
  have hcalled : f.CalledBetween start mid rest := by
    refine ⟨[], arguments.size, ?_⟩
    rw [hlog]
    simp [Machine.record]
  have hgoes {moment : Moment} {pos : Nat} : watch moment (e.frame.entering f.body) pos = true :=
    hfences.deeper (Nat.lt_succ_self _)
  rw [inBuffer_apply, Watched.inBuffer, hpos]
  cases hopen : f.body.isPunct "(" with
  | false =>
    exact (around_held hgoes (fun _ _ => hgoes) (missing_held hcalled hrest hopen)).rewound hinside.within hinside
  | true =>
    cases hclose : closeFrom f.body.tokens (f.body.pos + 1) 0 with
    | none => exact unclosed_held hfences hcalled ⟨hopen, hclose⟩ hinside.within
    | some stop =>
      -- the call goes on in a region of its own, which is deeper than any fence
      have hregion := loops.elements (hinner _ (hfences.entering f.body f.body.pos stop)) (.evaluate budget)
      have hheld : Verdict.Held _ _ (mid.entering f.body e.frame.depth) _ _ _ _ :=
        between_held (Nat.le_refl f.body.pos) hopen hclose hregion
      rw [← list_eq_between] at hheld
      exact ((around_held hgoes (fun _ _ => hgoes) hheld).of_grows hcalled.grows).rewound hinside.within hinside

end Bodies

private theorem invoke (hfences : watch.Fences e)
    (hinner : ∀ e, watch.Fences e → Enclosed e Eq (watch.evaluate budget) (evaluate budget)) (f : Function)
    (arguments : Array Value) (span : Span) :
    Enclosed e Eq
      (invokeBy (Watched.inBuffer · (watch.around .list (Loop.bounded.list (watch.evaluate budget)))) f arguments span)
      (invoke (evaluate budget) f arguments span) := by
  intro start hinside
  unfold Eval.invokeBy Eval.invoke
  rw [Watched.bind_apply, Watched.liftM_apply, bind_apply]
  dsimp only [Eval.frame, Verdict.ofOutcome]
  split
  · exact fail (by simp [Error.AtEnd, Error.atSpan]) start hinside
  · have hbody := body_held hfences hinner f arguments hinside
    rw [Watched.bind_apply, Watched.liftM_apply, bind_apply]
    dsimp only [Eval.update, Verdict.ofOutcome]
    rw [Watched.bind_apply, bind_apply]
    generalize Watched.inBuffer f.body _ _ _ = verdict at hbody ⊢
    generalize inBuffer f.body _ _ _ = outcome at hbody ⊢
    cases hbody with
    | done harrays hends hgrows => exact .done (harrays.back rfl) hends hgrows
    | failed hwithin hbreaks => exact .failed hwithin hbreaks
    | unfinished => exact .unfinished

private theorem operands : Operands (enclosedness e) (Enclosed e) (EnclosedAt e) where
  first {_ _ _ f g} hf := by
    intro start hinside
    obtain ⟨located, hcurrent⟩ := hinside.current
    rw [Watched.bind_apply, Watched.liftM_apply, bind_apply, firstToken_apply, hcurrent]
    exact hf ⟨rfl, rfl⟩ start located hinside hcurrent rfl
  noted token budget hx := by
    intro start located hinside hcurrent htoken
    have hnoted (depth : Nat) := hx { start with deepestNesting := depth } located hinside hcurrent htoken
    exact (hnoted _).of_grows List.prefix_rfl
  tooNested halike := by
    obtain rfl := Likeness.same_located halike
    exact fun _ _ hinside _ _ => .failed hinside.within fun hend => by simp [Error.AtEnd, Error.atSpan] at hend
  entry token :=
    { free := fun hx start _ hinside _ _ => hx start hinside
      leads := fun hkind =>
        { bind := fun hx hf start located hinside hcurrent htoken =>
            bind_held (hx start located hinside hcurrent htoken) fun hab hmid => hf _ _ hab _ hmid
          advance := by
            intro start located hinside hcurrent htoken
            rw [Watched.liftM_apply, advance_of_current hcurrent]
            exact .done trivial (hinside.step (.of_kind_ne hcurrent (htoken ▸ hkind))) List.prefix_rfl }
      unexpected := fun wanted start _ hinside _ _ => unexpected wanted start hinside }
  nothing := fun _ hinside => .done trivial hinside List.prefix_rfl

private theorem binds (hfences : watch.Fences e)
    (hinner : ∀ e, watch.Fences e → Enclosed e Eq (watch.evaluate budget) (evaluate budget)) :
    Binds (enclosedness e) (Enclosed e) (watch.parts (watch.evaluate budget) (Loop.bounded.skipExpression budget))
      (.of (evaluate budget) (skipExpression budget)) where
  toGuards := guards
  nested := hinner e hfences
  passed := around hfences .skip (loops.skipExpression operands budget)
  list := list hfences hinner (.evaluate budget)
  params := params hfences
  number _ := rfl
  string _ := rfl
  nil := rfl
  truthy hvalues := congrArg Value.truthy hvalues
  callees hvalues := hvalues ▸ .self rfl
  lookup hspans := hspans ▸ lookup _ _
  emptyList hspans := hspans ▸ fail (by simp [Error.AtEnd, Error.atSpan])
  notCallable _ _ _ _ _ hvalues hspans := hvalues ▸ hspans ▸ fail (by simp [Error.AtEnd, Error.atSpan])
  invoke := by
    intro f g left right here there hvalues harrays hspans
    cases hvalues
    cases hspans
    obtain rfl := Likeness.same_arrays harrays
    exact invoke hfences hinner _ _ _
  consult := by
    intro name host left right here there _ harrays hspans
    cases hspans
    obtain rfl := Likeness.same_arrays harrays
    exact consult _ _ _ _
  machine := fun _ hinside => .done ⟨rfl, hinside⟩ hinside List.prefix_rfl
  rewind := by
    rintro left _ ⟨rfl, hinside⟩
    exact fun _ _ => .done trivial hinside List.prefix_rfl
  frame := fun _ hinside => .done rfl hinside List.prefix_rfl
  oneMore hpatience := ⟨_, Eq.symm hpatience, rfl⟩
  giveUp := by
    intro m loop hpatience hloop
    cases hpatience
    rw [hloop]
    exact fun _ _ => .unfinished
  record _ := update (fun _ => rfl) fun machine => by simp [Machine.record]
  body := takeBody
  bound name _ _ hvalues := hvalues ▸ update (fun _ => rfl) fun machine => by simp [Machine.bind]

end Forms

private theorem combine {op op' : Located} {l l' r r' : Value} (hop : Located.Alike (enclosedness e).spans op op')
    (hleft : l = l') (hright : r = r') :
    Enclosed e Eq (liftM (ofExcept (combine op l r))) (ofExcept (combine op' l' r')) := by
  obtain rfl := Likeness.same_located hop
  subst hleft hright
  unfold Eval.combine
  split
  · exact fun _ hinside => .done rfl hinside List.prefix_rfl
  · exact fail (by simp [Error.AtEnd, Error.operands, Error.atSpan])

/-- An operand in a region is evaluated there. The induction is on how much nesting is left,
    over all regions at once, since a list or a call goes on in another one. -/
private theorem operand (budget : Nat) (e : Enclosure) (hfences : watch.Fences e) :
    Enclosed e Eq (watch.operand budget) (operand budget) := by
  have hlevel (budget : Nat) : Level (Eval.operand budget) := (Agrees.operand budget).level (.skipOperand budget)
  induction budget generalizing e with
  | zero => exact operands.first operands.tooNested
  | succ budget ih =>
    refine around hfences .operand (operands.first fun {located _} halike => operands.noted _ budget ?_)
    rw [← Parts.form_of]
    have hinner (e : Enclosure) (hfences : watch.Fences e) : Enclosed e Eq (watch.evaluate budget) (evaluate budget) :=
      loops.expression (ih e hfences) (hlevel budget) (.operand budget) combine
    exact (binds hfences hinner).form (operands.entry _) halike

theorem evaluate (budget : Nat) (e : Enclosure) (hfences : watch.Fences e) :
    Enclosed e Eq (watch.evaluate budget) (evaluate budget) :=
  loops.expression (operand budget e hfences) ((Agrees.operand budget).level (.skipOperand budget)) (.operand budget)
    combine

end Enclosed

end Rewind.Eval
