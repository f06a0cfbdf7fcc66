import Rewind.Proofs.Comparison.Parts
import Rewind.Proofs.Tree.Reading

namespace Rewind

/-- What holds of a computation that succeeds, and of one that fails. -/
def Outcome.Meets {α : Type} (done : α → Machine → Prop) (failed : Error → Machine → Prop) : Outcome α → Prop
  | .done a after => done a after
  | .failed error after => failed error after
  | .unfinished => True

theorem Outcome.Meets.mono {α : Type} {D E : α → Machine → Prop} {F G : Error → Machine → Prop} {outcome : Outcome α}
    (hmeets : outcome.Meets D F) (hdone : ∀ a after, D a after → E a after)
    (hfailed : ∀ error after, F error after → G error after) : outcome.Meets E G := by
  cases outcome with
  | done a after => exact hdone a after hmeets
  | failed error after => exact hfailed error after hmeets
  | unfinished => trivial

theorem Outcome.Meets.of_done {α : Type} {D : α → Machine → Prop} {F : Error → Machine → Prop} {outcome : Outcome α}
    {a : α} {after : Machine} (hmeets : outcome.Meets D F) (hdone : outcome = .done a after) : D a after := by
  subst hdone
  exact hmeets

theorem Eval.bind_meets {α β : Type} {x : Eval α} {f : α → Eval β} {frame : Frame} {start : Machine}
    {D : α → Machine → Prop} {E : β → Machine → Prop} {F : Error → Machine → Prop}
    (hx : (x frame start).Meets D F) (hf : ∀ a mid, D a mid → (f a frame mid).Meets E F) :
    ((x >>= f) frame start).Meets E F := by
  rw [bind_apply]
  cases hfirst : x frame start with
  | done a mid =>
    rw [hfirst] at hx
    exact hf a mid hx
  | failed error mid =>
    rw [hfirst] at hx
    exact hx
  | unfinished => trivial

/-- The head of a definition: its keyword, its name and its parameters. What follows it,
    from `body` on, is taken for the body. -/
structure HeaderAt (tokens : Array Located) (p : Nat) (name : String) (params : List String) (body : Nat) : Prop where
  keyword : KeywordAt tokens p .define
  name : ∃ span, NameAt tokens (p + 1) name span
  opening : PunctAt tokens (p + 2) "("
  params : ∃ stop, Reads tokens (.params params) (p + 3) stop ∧ PunctAt tokens stop ")" ∧ body = stop + 1

/-- A body of a definition: if a list opens there, it is closed. -/
def BodyAt (tokens : Array Located) (body : Nat) : Prop :=
  PunctAt tokens body "(" → ∃ stop, Eval.closeFrom tokens (body + 1) 0 = some stop

namespace Reads

variable {tokens : Array Located} {names : List String} {p q : Nat}

/-- Parameters are names that stand in the buffer. -/
theorem exists_nameAt (hreads : Reads tokens (.params names) p q) {name : String} (hmem : name ∈ names) :
    ∃ pos span, NameAt tokens pos name span := by
  generalize hphrase : Phrase.params names = phrase at hreads
  induction hreads generalizing names with
  | paramsEnd =>
    cases hphrase
    cases hmem
  | paramsLast hname =>
    cases hphrase
    rw [List.mem_singleton] at hmem
    exact ⟨_, _, hmem ▸ hname⟩
  | paramsComma hname _ _ ih =>
    cases hphrase
    rcases List.mem_cons.1 hmem with rfl | hmem
    · exact ⟨_, _, hname⟩
    · exact ih hmem rfl
  | _ => cases hphrase

end Reads

namespace Eval

/-- A machine that was only moved. -/
def Moved (start : Machine) (_ : Error) (after : Machine) : Prop := ∃ pos, after = { start with pos }

variable (frame : Frame) (start : Machine)

theorem expectPunct_meets (lexeme : String) :
    (expectPunct lexeme frame start).Meets
      (fun _ after => PunctAt frame.tokens start.pos lexeme ∧ after = { start with pos := start.pos + 1 })
      (Moved start) := by
  rw [expectPunct_apply]
  split
  · rename_i hpunct
    exact ⟨hpunct, rfl⟩
  · exact ⟨start.pos, rfl⟩

theorem expectName_meets :
    (expectName frame start).Meets
      (fun found after => NameAt frame.tokens start.pos found.1 found.2 ∧ after = { start with pos := start.pos + 1 })
      (Moved start) := by
  rw [expectName_apply]
  split
  · rename_i located hcurrent
    split
    · rename_i hkind
      refine ⟨?_, rfl⟩
      rw [NameAt, hcurrent, ← hkind]
    · exact ⟨start.pos, rfl⟩
  · exact ⟨start.pos, rfl⟩

theorem skipList_meets :
    (skipList frame start).Meets
      (fun _ after => ∃ stop, closeFrom frame.tokens (start.pos + 1) 0 = some stop ∧ after = { start with pos := stop })
      (Moved start) := by
  rw [skipList_apply]
  split
  · split
    · rename_i stop hclose
      exact ⟨stop, hclose, rfl⟩
    · exact ⟨_, rfl⟩
  · exact ⟨start.pos, rfl⟩

/-- Where a parenthesis follows, the names that were read are parameters. -/
private theorem paramsFrom_meets {rounds : Nat} (hrounds : frame.tokens.size - start.pos < rounds)
    (params : Array String) :
    (paramsFrom rounds params frame start).Meets
      (fun found after => ∃ names pos, found.toList = params.toList ++ names ∧ after = { start with pos } ∧
        (PunctAt frame.tokens pos ")" → Reads frame.tokens (.params names) start.pos pos))
      (Moved start) := by
  induction rounds generalizing start params with
  | zero => omega
  | succ rounds ih =>
    rw [paramsFrom, bind_apply]
    dsimp only [cursor]
    split
    · exact ⟨[], start.pos, by simp, rfl, .paramsEnd⟩
    · refine bind_meets (expectName_meets frame start) ?_
      rintro ⟨name, span⟩ _ ⟨hname, rfl⟩
      have hinside : start.pos < frame.tokens.size := (Array.getElem?_eq_some_iff.1 hname).1
      dsimp only
      rw [bind_apply]
      dsimp only [cursor]
      split
      · rename_i hcomma
        obtain ⟨comma, hnext, _⟩ := isPunct_iff.1 hcomma
        rw [bind_of_done (advance_of_current hnext)]
        refine (ih { start with pos := start.pos + 1 + 1 } (by dsimp only; omega) (params.push name)).mono ?_ ?_
        · rintro found after ⟨names, pos, hfound, hafter, hreads⟩
          refine ⟨name :: names, pos, by simpa using hfound, hafter, fun hclose => ?_⟩
          exact .paramsComma hname hcomma (hreads hclose)
        · exact fun _ _ hmoved => hmoved
      · rename_i hcomma
        exact ⟨[name], start.pos + 1, by simp, rfl, fun _ => .paramsLast hname hcomma⟩

private theorem takeBody_meets (name : String) (params : List String) :
    (takeBody name params frame start).Meets
      (fun _ after => BodyAt frame.tokens start.pos ∧
        ∃ pos, after = ({ start with pos } : Machine).define name params ⟨frame.tokens, start.pos⟩)
      (Moved start) := by
  rw [takeBody, bind_apply]
  dsimp only [cursor]
  split
  · refine bind_meets (skipList_meets frame start) ?_
    rintro _ _ ⟨stop, hclose, rfl⟩
    exact ⟨fun _ => ⟨stop, hclose⟩, stop, rfl⟩
  · rename_i hopen
    exact ⟨fun hpunct => absurd hpunct hopen, start.pos, rfl⟩

/-- A definition that succeeds does so because its head and its body are there, and all
    that it does is to define the function. -/
theorem define_meets {frame : Frame} {start : Machine} (hkeyword : KeywordAt frame.tokens start.pos .define) :
    (define frame start).Meets
      (fun value after => value = .nil ∧ ∃ name params body pos, HeaderAt frame.tokens start.pos name params body ∧
        BodyAt frame.tokens body ∧ after = ({ start with pos } : Machine).define name params ⟨frame.tokens, body⟩)
      (Moved start) := by
  obtain ⟨located, hcurrent, _⟩ := hkeyword.current
  rw [← Parts.define_of (pure .nil) (pure ())]
  unfold Parts.define Parts.of between
  simp only [liftM_eval, bind_assoc, pure_bind]
  rw [bind_of_done (advance_of_current hcurrent)]
  refine bind_meets (expectName_meets frame _) ?_
  rintro ⟨name, span⟩ _ ⟨hname, rfl⟩
  refine bind_meets (expectPunct_meets frame _ "(") ?_
  rintro _ _ ⟨hopen, rfl⟩
  rw [bind_apply]
  dsimp only [rounds]
  refine bind_meets (paramsFrom_meets frame _ (by dsimp only; omega) #[]) ?_
  rintro params _ ⟨names, stop, hnames, rfl, hreads⟩
  refine bind_meets (expectPunct_meets frame _ ")") ?_
  rintro _ _ ⟨hclose, rfl⟩
  refine bind_meets (takeBody_meets frame _ name params.toList) ?_
  rintro _ _ ⟨hbody, pos, rfl⟩
  have hheader : HeaderAt frame.tokens start.pos name names (stop + 1) :=
    ⟨hkeyword, ⟨span, hname⟩, hopen, stop, hreads hclose, hclose, rfl⟩
  rw [hnames]
  exact ⟨rfl, name, names, stop + 1, pos, hheader, hbody, rfl⟩

end Eval

end Rewind
