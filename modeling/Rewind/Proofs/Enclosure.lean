import Rewind.Proofs.Parallel.Region
import Rewind.Proofs.Placement
import Rewind.Proofs.Watch

namespace Rewind

/-- A token was expected at the end of the buffer. -/
def Error.AtEnd (error : Error) : Prop := ∃ wanted, error.cause = .expected wanted none

theorem Error.not_atEnd_expected (wanted : Wanted) (located : Located) :
    ¬ (Error.expected wanted (some located)).AtEnd := by
  simp [AtEnd, expected]

/-- A list begins at the cursor that is not closed. -/
def Cursor.Unclosed (cursor : Cursor) : Prop :=
  cursor.isPunct "(" = true ∧ Eval.closeFrom cursor.tokens (cursor.pos + 1) 0 = none

/-- The function was called between two machines. `rest` is the log after that call. -/
def Function.CalledBetween (f : Function) (start after : Machine) (rest : List Event) : Prop :=
  ∃ before n, after.log.toList = start.log.toList ++ before ++ .called f n :: rest

namespace Function.CalledBetween

variable {f : Function} {start mid after : Machine} {rest : List Event}

theorem grows (hcalled : f.CalledBetween start mid rest) : start.log.toList <+: mid.log.toList := by
  obtain ⟨before, n, hlog⟩ := hcalled
  exact ⟨before ++ .called f n :: rest, by rw [hlog, List.append_assoc]⟩

theorem of_grows (hcalled : f.CalledBetween start mid rest) (hgrows : mid.log.toList <+: after.log.toList) :
    ∃ later, f.CalledBetween start after (rest ++ later) := by
  obtain ⟨before, n, hlog⟩ := hcalled
  obtain ⟨later, hlater⟩ := hgrows
  exact ⟨later, before, n, by rw [← hlater, hlog]; simp⟩

end Function.CalledBetween

/-- Why a buffer can end too soon: a function was called whose body is not there, so that
    nothing was done in the call but to bind the parameters, or whose body is not closed. -/
def Machine.BreaksOff (start after : Machine) : Prop :=
  ∃ (f : Function) (rest : List Event), f.CalledBetween start after rest ∧
    (f.body.atEnd = true ∧ (∀ event ∈ rest, ∃ name value, event = .bound name value) ∨ f.body.Unclosed)

private theorem Machine.BreaksOff.of_grows {start mid after : Machine} (hbreaks : mid.BreaksOff after)
    (hgrows : start.log.toList <+: mid.log.toList) : start.BreaksOff after := by
  obtain ⟨f, rest, ⟨before, n, hlog⟩, hbody⟩ := hbreaks
  obtain ⟨earlier, hearlier⟩ := hgrows
  refine ⟨f, rest, ⟨earlier ++ before, n, ?_⟩, hbody⟩
  rw [hlog, ← hearlier]
  simp

/-- Binding parameters adds only bindings to the log. -/
theorem Machine.bindAll_log (machine : Machine) (params : List String) (arguments : List Value) :
    ∃ rest, (machine.bindAll params arguments).log.toList = machine.log.toList ++ rest ∧
      ∀ event ∈ rest, ∃ name value, event = .bound name value := by
  induction params generalizing machine arguments with
  | nil => exact ⟨[], by simp [bindAll], by simp⟩
  | cons param params ih =>
    have hone (value : Value) (arguments : List Value) :
        ∃ rest, ((machine.bind param value).bindAll params arguments).log.toList = machine.log.toList ++ rest ∧
          ∀ event ∈ rest, ∃ name value, event = .bound name value := by
      obtain ⟨rest, hlog, hrest⟩ := ih (machine.bind param value) arguments
      refine ⟨.bound param value :: rest, by rw [hlog]; simp [bind], ?_⟩
      exact List.forall_mem_cons.2 ⟨⟨param, value, rfl⟩, hrest⟩
    cases arguments with
    | nil => exact hone .nil []
    | cons value arguments => exact hone value arguments

/-- A parenthesised region of the buffer of a frame: it is closed right before `stop`, and
    nothing before `low` counts. -/
structure Enclosure where
  frame : Frame
  low : Nat
  stop : Nat

/-- A place before the parenthesis that closes the region. -/
def Enclosure.Inside (e : Enclosure) (pos : Nat) : Prop :=
  e.low ≤ pos ∧ Eval.closeFrom e.frame.tokens pos 0 = some e.stop

namespace Enclosure.Inside

variable {e : Enclosure} {pos : Nat}

theorem within (hinside : e.Inside pos) : e.low ≤ pos ∧ pos ≤ e.stop :=
  ⟨hinside.1, Nat.le_of_lt (Eval.closeFrom_bounds hinside.2).1⟩

theorem current (hinside : e.Inside pos) : ∃ located, e.frame.tokens[pos]? = some located := by
  obtain ⟨hlt, hle⟩ := Eval.closeFrom_bounds hinside.2
  exact ⟨_, Array.getElem?_eq_getElem (Nat.lt_of_lt_of_le hlt hle)⟩

theorem step (hinside : e.Inside pos) {next : Nat} (hbalanced : Eval.Balanced e.frame.tokens pos next) :
    e.Inside next :=
  ⟨Nat.le_trans hinside.1 hbalanced.forward, by rw [← hbalanced.closes]; exact hinside.2⟩

/-- A list inside of the region is closed there. -/
theorem list (hinside : e.Inside pos) (hopen : PunctAt e.frame.tokens pos "(") :
    ∃ stop, Eval.closeFrom e.frame.tokens (pos + 1) 0 = some stop ∧ e.Inside stop := by
  obtain ⟨located, hcurrent, hpunct⟩ := Eval.isPunct_iff.1 hopen
  have hclose := hinside.2
  rw [Eval.closeFrom_of_open hcurrent hpunct] at hclose
  obtain ⟨stop, hstop, _⟩ := Eval.exists_inner_of_closeFrom hclose
  exact ⟨stop, hstop, hinside.step (.of_closeFrom hcurrent hpunct hstop)⟩

end Enclosure.Inside

/-- A verdict that matches an outcome and keeps to a region without having been stopped. A
    success ends at a position in `ends`. A failure ends inside, and it is none at the end of
    the buffer, unless a call has broken off. -/
inductive Verdict.Held (low stop : Nat) (start : Machine) (ends : Nat → Prop) {α β : Type} (V : α → β → Prop) :
    Verdict α → Outcome β → Prop where
  | done {a : α} {b : β} {after : Machine} (hresults : V a b) (hends : ends after.pos)
    (hgrows : start.log.toList <+: after.log.toList) : Held low stop start ends V (.done a after) (.done b after)
  | failed {error : Error} {place : Cursor} {after : Machine} (hwithin : low ≤ after.pos ∧ after.pos ≤ stop)
    (hbreaks : error.AtEnd → start.BreaksOff after) :
    Held low stop start ends V (.failed error place after) (.failed error after)
  | unfinished {after : Machine} : Held low stop start ends V (.unfinished after) .unfinished

namespace Verdict.Held

variable {low stop : Nat} {start mid : Machine} {ends : Nat → Prop} {α β : Type} {V : α → β → Prop}
  {verdict : Verdict α} {outcome : Outcome β}

theorem of_grows (hheld : Held low stop mid ends V verdict outcome) (hgrows : start.log.toList <+: mid.log.toList) :
    Held low stop start ends V verdict outcome := by
  cases hheld with
  | done hresults hends hmore => exact .done hresults hends (hgrows.trans hmore)
  | failed hwithin hbreaks => exact .failed hwithin fun hend => (hbreaks hend).of_grows hgrows
  | unfinished => exact .unfinished

theorem mono {low' stop' : Nat} {ends' : Nat → Prop} (hheld : Held low stop start ends V verdict outcome)
    (hlow : low' ≤ low) (hstop : stop ≤ stop') (hends : ∀ pos, ends pos → ends' pos) :
    Held low' stop' start ends' V verdict outcome := by
  cases hheld with
  | done hresults hpos hgrows => exact .done hresults (hends _ hpos) hgrows
  | failed hwithin hbreaks => exact .failed ⟨Nat.le_trans hlow hwithin.1, Nat.le_trans hwithin.2 hstop⟩ hbreaks
  | unfinished => exact .unfinished

theorem rewound {low' stop' : Nat} {ends' : Nat → Prop} (hheld : Held low stop start ends V verdict outcome)
    {pos : Nat} (hwithin : low' ≤ pos ∧ pos ≤ stop') (hends : ends' pos) :
    Held low' stop' start ends' V (verdict.rewound pos) (outcome.rewound pos) := by
  cases hheld with
  | done hresults _ hgrows => exact .done hresults hends hgrows
  | failed _ hbreaks => exact .failed hwithin hbreaks
  | unfinished => exact .unfinished

theorem of_done {b : β} {after : Machine} (hheld : Held low stop start ends V verdict (.done b after)) :
    ends after.pos := by
  cases hheld with
  | done _ hends => exact hends

theorem of_failed {error : Error} {after : Machine} (hheld : Held low stop start ends V verdict (.failed error after)) :
    (low ≤ after.pos ∧ after.pos ≤ stop) ∧ (error.AtEnd → start.BreaksOff after) := by
  cases hheld with
  | failed hwithin hbreaks => exact ⟨hwithin, hbreaks⟩

theorem outcome_eq {V : α → α → Prop} {outcome : Outcome α} (hheld : Held low stop start ends V verdict outcome)
    (hV : ∀ a b, V a b → a = b) : verdict ≠ .stopped ∧ verdict.outcome = outcome := by
  cases hheld with
  | done hresults => exact ⟨nofun, by rw [← hV _ _ hresults]; rfl⟩
  | failed => exact ⟨nofun, rfl⟩
  | unfinished => exact ⟨nofun, rfl⟩

end Verdict.Held

namespace Eval

/-- The watch lets the region be read, and all that is called from there. -/
structure Watch.Fences (watch : Watch) (e : Enclosure) : Prop where
  here : ∀ {moment pos}, e.low ≤ pos → pos ≤ e.stop → watch moment e.frame pos = true
  deeper : ∀ {moment frame} {pos : Nat}, e.frame.depth < frame.depth → watch moment frame pos = true

/-- `x` and `y` do the same from any place of the region on, and keep to it. -/
def Enclosed (e : Enclosure) {α β : Type} (V : α → β → Prop) (x : Watched α) (y : Eval β) : Prop :=
  ∀ start, e.Inside start.pos → Verdict.Held e.low e.stop start e.Inside V (x e.frame start) (y e.frame start)

/-- The same of computations that begin at the token. -/
def EnclosedAt (e : Enclosure) (token : Token) {α β : Type} (V : α → β → Prop) (x : Watched α) (y : Eval β) : Prop :=
  ∀ start located, e.Inside start.pos → e.frame.tokens[start.pos]? = some located → located.token = token →
    Verdict.Held e.low e.stop start e.Inside V (x e.frame start) (y e.frame start)

/-- Everything is the same on both sides, and loops come back to places of the region. -/
def enclosedness (e : Enclosure) : Likeness :=
  { equal with positions := fun l r => l = r ∧ e.Inside l }

namespace Enclosed

variable {e : Enclosure} {α β γ δ : Type} {V : α → β → Prop} {W : γ → δ → Prop}

theorem bind_held {x : Watched α} {y : Eval β} {f : α → Watched γ} {g : β → Eval δ} {frame : Frame} {start : Machine}
    {low stop : Nat} {ends ends' : Nat → Prop}
    (hfirst : Verdict.Held low stop start ends V (x frame start) (y frame start))
    (hrest : ∀ {a b mid}, V a b → ends mid.pos → Verdict.Held low stop mid ends' W (f a frame mid) (g b frame mid)) :
    Verdict.Held low stop start ends' W ((x >>= f) frame start) ((y >>= g) frame start) := by
  rw [Watched.bind_apply, bind_apply]
  generalize x frame start = verdict at hfirst ⊢
  generalize y frame start = outcome at hfirst ⊢
  cases hfirst with
  | done hresults hends hgrows => exact (hrest hresults hends).of_grows hgrows
  | failed hwithin hbreaks => exact .failed hwithin hbreaks
  | unfinished => exact .unfinished

private theorem pure {a : α} {b : β} (hab : V a b) : Enclosed e V (Pure.pure a) (Pure.pure b) :=
  fun _ hinside => .done hab hinside List.prefix_rfl

private theorem bind {x : Watched α} {y : Eval β} {f : α → Watched γ} {g : β → Eval δ} (hx : Enclosed e V x y)
    (hf : ∀ a b, V a b → Enclosed e W (f a) (g b)) : Enclosed e W (x >>= f) (y >>= g) :=
  fun start hinside => bind_held (hx start hinside) fun hab hmid => hf _ _ hab _ hmid

/-- Goes on past a token that is no parenthesis. -/
private theorem past {x : Watched α} {y : Eval β} {start : Machine} {located : Located}
    (hcurrent : e.frame.tokens[start.pos]? = some located)
    (hbalanced : Balanced e.frame.tokens start.pos (start.pos + 1)) (hinside : e.Inside start.pos)
    (hx : Enclosed e V x y) :
    Verdict.Held e.low e.stop start e.Inside V ((liftM advance >>= fun _ => x : Watched α) e.frame start)
      ((advance >>= fun _ => y) e.frame start) := by
  rw [Watched.bind_apply, Watched.liftM_apply, bind_of_done (advance_of_current hcurrent), advance_of_current hcurrent]
  exact (hx { start with pos := start.pos + 1 } (hinside.step hbalanced)).of_grows List.prefix_rfl

/-- A failure for another reason than that the buffer has ended. -/
theorem fail {error : Error} (herror : ¬ error.AtEnd) :
    Enclosed e V (liftM (fail error : Eval α)) (fail error : Eval β) :=
  fun _ hinside => .failed hinside.within fun hend => absurd hend herror

theorem unexpected (wanted : Wanted) :
    Enclosed e V (liftM (unexpected wanted : Eval α)) (unexpected wanted : Eval β) := by
  intro start hinside
  obtain ⟨located, hcurrent⟩ := hinside.current
  refine .failed hinside.within fun hend => absurd hend ?_
  rw [Cursor.current?, hcurrent]
  exact Error.not_atEnd_expected wanted located

/-- Changes of the machine that leave it where it is. -/
theorem update {change : Machine → Machine} (hpos : ∀ machine, (change machine).pos = machine.pos)
    (hlog : ∀ machine, machine.log.toList <+: (change machine).log.toList) :
    Enclosed e anyResult (liftM (update change)) (update change) := by
  intro start hinside
  refine .done trivial ?_ (hlog start)
  rw [hpos]
  exact hinside

private theorem expectPunct {lexeme : String} (hopen : lexeme ≠ "(") (hclose : lexeme ≠ ")") :
    Enclosed e anyResult (liftM (expectPunct lexeme)) (expectPunct lexeme) := by
  intro start hinside
  obtain ⟨located, hcurrent⟩ := hinside.current
  rw [Watched.liftM_apply, expectPunct_apply]
  split
  · rename_i hpunct
    exact .done trivial (hinside.step (PunctAt.balanced hpunct hopen hclose)) List.prefix_rfl
  · rw [hcurrent]
    exact .failed hinside.within fun hend => absurd hend (Error.not_atEnd_expected _ located)

private theorem expectName : Enclosed e (enclosedness e).names (liftM expectName) expectName := by
  intro start hinside
  obtain ⟨located, hcurrent⟩ := hinside.current
  rw [Watched.liftM_apply, expectName_apply, hcurrent]
  dsimp only
  split
  · rename_i hkind
    exact .done ⟨rfl, rfl⟩ (hinside.step (.of_kind_ne hcurrent (by simp [hkind]))) List.prefix_rfl
  · exact .failed hinside.within fun hend => absurd hend (Error.not_atEnd_expected _ located)

private theorem tryElse : Enclosed e Eq (liftM (tryKeyword .otherwise)) (tryKeyword .otherwise) := by
  intro start hinside
  rw [Watched.liftM_apply, tryKeyword_apply]
  split
  · rename_i hkeyword
    exact .done rfl (hinside.step (KeywordAt.balanced hkeyword)) List.prefix_rfl
  · exact .done rfl hinside List.prefix_rfl

private theorem operator {x : Watched α} {y : Eval β} {f : Located → Watched α} {g : Located → Eval β} (tier : Tier)
    (hnone : Enclosed e V x y)
    (hsome : ∀ {op op'}, Located.Alike (enclosedness e).spans op op' → Enclosed e V (f op) (g op')) :
    Enclosed e V
      (liftM (operator? tier) >>= fun found => match found with
        | none => x
        | some op => liftM advance >>= fun _ => f op)
      (operator? tier >>= fun found => match found with
        | none => y
        | some op => advance >>= fun _ => g op) := by
  intro start hinside
  rw [Watched.bind_apply, Watched.liftM_apply, bind_of_done (operator?_apply e.frame start tier), operator?_apply]
  dsimp only [Verdict.ofOutcome]
  cases hfound : e.frame.tokens[start.pos]?.filter (·.token.isOperator tier) with
  | none => exact hnone start hinside
  | some op =>
    obtain ⟨hcurrent, hoperator⟩ := Option.filter_eq_some_iff.1 hfound
    simp only [Token.isOperator, Bool.and_eq_true, beq_iff_eq] at hoperator
    exact past hcurrent (.of_kind_ne hcurrent (by simp [hoperator.1])) hinside (hsome ⟨rfl, rfl⟩)

theorem skipList : Enclosed e anyResult (liftM skipList) skipList := by
  intro start hinside
  obtain ⟨located, hcurrent⟩ := hinside.current
  rw [Watched.liftM_apply, skipList_apply]
  split
  · rename_i hopen
    obtain ⟨stop, hstop, hafter⟩ := hinside.list hopen
    rw [hstop]
    exact .done trivial hafter List.prefix_rfl
  · rw [hcurrent]
    exact .failed hinside.within fun hend => absurd hend (Error.not_atEnd_expected _ located)

private theorem branch (test : Cursor → Bool) {x x' : Watched α} {y y' : Eval β} (hyes : Enclosed e V x y)
    (hno : Enclosed e V x' y') :
    Enclosed e V (do if test (← cursor) then x else x') (do if test (← cursor) then y else y') := by
  intro start hinside
  rw [Watched.bind_apply, Watched.liftM_apply, bind_apply]
  dsimp only [cursor, Verdict.ofOutcome]
  split
  · exact hyes start hinside
  · exact hno start hinside

theorem guards : Guards (enclosedness e) (Enclosed e) where
  pure := pure
  bind := bind
  expectPunct := expectPunct
  expectName := expectName
  tryElse := tryElse
  operator := operator
  skipList := skipList
  opening := branch (·.isPunct "(")

private theorem lists : Lists (enclosedness e) (Enclosed e) where
  pure := pure
  bind := bind
  expectName := expectName
  closing := branch fun here => here.atEnd || here.isPunct ")"
  comma hyes hno := by
    intro start hinside
    rw [Watched.bind_apply, Watched.liftM_apply, bind_apply]
    dsimp only [cursor, Verdict.ofOutcome]
    split
    · rename_i hcomma
      obtain ⟨located, hcurrent, _⟩ := isPunct_iff.1 hcomma
      exact past hcurrent (PunctAt.balanced hcomma (by decide) (by decide)) hinside hyes
    · exact hno start hinside

theorem loops : Loops (enclosedness e) (Enclosed e) .bounded :=
  .bounded guards lists (fun _ hinside => .done rfl hinside List.prefix_rfl) (branch (·.atEnd))

end Enclosed

end Eval

end Rewind
