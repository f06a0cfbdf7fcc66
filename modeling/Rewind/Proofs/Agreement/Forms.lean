import Rewind.Proofs.Agreement

namespace Rewind.Eval.Agrees

variable {inner : Eval Value} {skip : Eval Unit}

theorem elementsFrom_level {inner : Eval Value} (hinner : Level inner) (rounds : Nat)
    (values : Array Value) : Level (elementsFrom inner rounds values) := by
  induction rounds generalizing values with
  | zero => exact .pure values
  | succ rounds ih =>
    refine Level.cursor.bind fun here => ?_
    split
    · exact .pure values
    · exact hinner.bind fun value => Level.branch (by decide) (by decide) (ih _) (ih _)

theorem paramsFrom_level (rounds : Nat) (params : Array String) : Level (paramsFrom rounds params) := by
  induction rounds generalizing params with
  | zero => exact .pure params
  | succ rounds ih =>
    refine Level.cursor.bind fun here => ?_
    split
    · exact .pure params
    · refine Level.expectName.bind fun name => ?_
      exact Level.branch (by decide) (by decide) (ih _) (.pure _)

theorem list (hinner : Agrees anyResult inner skip) (hskip : Level skip) :
    Agrees anyResult (list inner) skipList := by
  have hinside : Level (do elementsFrom inner (← rounds) #[]) :=
    Level.rounds.bind fun rounds => elementsFrom_level (hinner.level hskip) rounds #[]
  have hregion := region hinside fun values => walks.pure (V := anyResult) (a := values) (b := ()) trivial
  simp only [bind_assoc, bind_pure_unit] at hregion
  exact hregion

/-- Calling and consulting happen elsewhere: the caller's position stays. -/
private theorem invoke_still (f : Function) (arguments : Array Value) (span : Span) :
    Agrees anyResult (invoke inner f arguments span) (pure ()) := by
  intro frame frame' start start' _ hpos value after hdone
  refine ⟨(), start', rfl, ?_, trivial⟩
  obtain ⟨_, _, hframe, hdone⟩ := bind_eq_done_iff.1 hdone
  cases hframe
  split at hdone
  · cases hdone
  · obtain ⟨_, bound, hbound, hdone⟩ := bind_eq_done_iff.1 hdone
    cases hbound
    obtain ⟨values, back, hbody, hdone⟩ := bind_eq_done_iff.1 hdone
    cases hdone
    rw [inBuffer_apply] at hbody
    unfold Outcome.rewound at hbody
    split at hbody <;> cases hbody
    simp [hpos]

private theorem lookup_still (name : String) (span : Span) : Agrees anyResult (lookup name span) (pure ()) := by
  intro frame frame' start start' _ hpos value after hdone
  refine ⟨(), start', rfl, ?_, trivial⟩
  unfold lookup at hdone
  split at hdone
  · cases hdone
    exact hpos.symm
  · cases hdone

private theorem update_still (change : Machine → Machine) (hchange : ∀ machine, (change machine).pos = machine.pos)
    (value : Value) : Agrees anyResult (do update change; pure value) (pure ()) := by
  intro frame frame' start start' _ hpos _ after hdone
  cases hdone
  exact ⟨(), start', rfl, hpos.symm.trans (hchange start).symm, trivial⟩

private theorem pure_still {α : Type} (a : α) : Agrees anyResult (pure a) (pure ()) := walks.pure trivial

theorem fail_any {α β : Type} {V : α → β → Prop} (error : Error) (y : Eval β) : Agrees V (fail error) y :=
  fun _ _ _ _ _ _ _ _ hfail => nomatch hfail

private theorem consult_still (name : String) (host : Native) (arguments : Array Value) (span : Span) :
    Agrees anyResult (consult name host arguments span) (pure ()) := by
  by_cases hstring : ∃ code rest, arguments.toList = .string code :: rest
  · obtain ⟨code, rest, hstring⟩ := hstring
    intro frame frame' start start' _ hpos value after hdone
    rw [consult_of_string hstring] at hdone
    split at hdone
    · cases hdone
      exact ⟨(), start', rfl, by simp [hpos], trivial⟩
    · cases hdone
  · rw [consult_of_not_string (fun code rest heq => hstring ⟨code, rest, heq⟩)]
    exact fail_any _ _

private theorem call (hinner : Agrees anyResult inner skip) (hskip : Level skip) :
    Agrees anyResult (call inner) (do advance; let _ ← expectName; skipList) := by
  have hlist : Agrees anyResult (Eval.list inner) skipList := list hinner hskip
  refine walks.bind walks.advance fun _ _ _ => walks.bind walks.expectName fun name _ _ => ?_
  refine after_still (lookup_still name.1 name.2) fun callee => ?_
  cases callee with
  | function f => exact before_still hlist fun arguments => invoke_still f arguments name.2
  | native host => exact before_still hlist fun arguments => consult_still name.1 host arguments name.2
  | number x => exact fail_any _ _
  | string text => exact fail_any _ _
  | nil => exact fail_any _ _

/-- The branch that is taken and the one that is skipped change places, and
    both end where the skipper thinks. -/
private theorem conditional (hinner : Agrees anyResult inner skip) (hskip : Level skip) :
    Agrees anyResult (conditional inner)
      (do advance; skip; skipList; if ← tryKeyword .otherwise then skipList) := by
  have hlist : Agrees anyResult (Eval.list inner) skipList := list hinner hskip
  refine walks.bind walks.advance fun _ _ _ => walks.bind hinner fun condition _ _ => ?_
  split
  · refine walks.bind hlist fun values _ _ => walks.bind (walks.tryKeyword _) ?_
    rintro found _ rfl
    split
    · exact before_still walks.skipList fun _ => pure_still _
    · exact pure_still _
  · refine walks.bind walks.skipList fun _ _ _ => walks.bind (walks.tryKeyword _) ?_
    rintro found _ rfl
    split
    · exact before_still hlist fun _ => pure_still _
    · exact pure_still _

/-- However often a loop comes back to its start, it leaves where the skipper
    leaves, because the last round walks over the whole loop once. -/
private theorem forRounds (hinner : Agrees anyResult inner skip) (hself : Agrees anyResult skip skip)
    (pos patience iterations : Nat) (last : Value)
    ⦃frame frame' : Frame⦄ ⦃start start' : Machine⦄ (htokens : frame.tokens = frame'.tokens)
    (hpos : start.pos = pos) (hpos' : start'.pos = pos) ⦃value : Value⦄ ⦃after : Machine⦄
    (hdone : forRounds inner skip pos patience iterations last frame start = .done value after) :
    ∃ after', (do skip; expectPunct ";"; skip; skipList) frame' start' = .done () after' ∧
      after'.pos = after.pos := by
  induction patience generalizing iterations last start with
  | zero => cases hdone
  | succ patience ih =>
    obtain ⟨condition, tested, hcondition, hdone⟩ := bind_eq_done_iff.1 hdone
    obtain ⟨_, mid, hpunct, hdone⟩ := bind_eq_done_iff.1 hdone
    split at hdone
    · obtain ⟨_, _, _, hdone⟩ := bind_eq_done_iff.1 hdone
      obtain ⟨values, body, _, hdone⟩ := bind_eq_done_iff.1 hdone
      rw [bind_of_done (show rewind pos frame body = .done () { body with pos } from rfl)] at hdone
      exact ih (iterations + 1) (values.back?.getD .nil) rfl hdone
    · have hrest : Agrees anyResult (do skip; skipList; update (·.record (.forFinished iterations)); pure last)
          (do skip; skipList) :=
        walks.bind hself fun _ _ _ => before_still walks.skipList fun _ =>
          update_still (·.record (.forFinished iterations)) (fun _ => rfl) last
      obtain ⟨_, tested', hcondition', htested, _⟩ := hinner htokens (hpos.trans hpos'.symm) hcondition
      obtain ⟨_, mid', hpunct', hmid, _⟩ := walks.expectPunct ";" htokens htested.symm hpunct
      obtain ⟨_, after', hdone', hafter, _⟩ := hrest htokens hmid.symm hdone
      exact ⟨after', (bind_of_done hcondition').trans ((bind_of_done hpunct').trans hdone'), hafter⟩

private theorem whileRounds (hinner : Agrees anyResult inner skip) (pos patience iterations : Nat) (last : Value)
    ⦃frame frame' : Frame⦄ ⦃start start' : Machine⦄ (htokens : frame.tokens = frame'.tokens)
    (hpos : start.pos = pos) (hpos' : start'.pos = pos) ⦃value : Value⦄ ⦃after : Machine⦄
    (hdone : whileRounds inner pos patience iterations last frame start = .done value after) :
    ∃ after', (do skip; skipList) frame' start' = .done () after' ∧ after'.pos = after.pos := by
  induction patience generalizing iterations last start with
  | zero => cases hdone
  | succ patience ih =>
    obtain ⟨condition, tested, hcondition, hdone⟩ := bind_eq_done_iff.1 hdone
    split at hdone
    · obtain ⟨values, body, _, hdone⟩ := bind_eq_done_iff.1 hdone
      rw [bind_of_done (show rewind pos frame body = .done () { body with pos } from rfl)] at hdone
      exact ih (iterations + 1) (values.back?.getD .nil) rfl hdone
    · have hrest : Agrees anyResult (do skipList; update (·.record (.whileFinished iterations)); pure last)
          skipList :=
        before_still walks.skipList fun _ =>
          update_still (·.record (.whileFinished iterations)) (fun _ => rfl) last
      obtain ⟨_, tested', hcondition', htested, _⟩ := hinner htokens (hpos.trans hpos'.symm) hcondition
      obtain ⟨_, after', hdone', hafter, _⟩ := hrest htokens htested.symm hdone
      exact ⟨after', (bind_of_done hcondition').trans hdone', hafter⟩

private theorem forLoop (hinner : Agrees anyResult inner skip) (hself : Agrees anyResult skip skip) :
    Agrees anyResult (forLoop inner skip)
      (do advance; skip; expectPunct ";"; skip; expectPunct ";"; skip; skipList) := by
  refine walks.bind walks.advance fun _ _ _ => walks.bind hinner fun _ _ _ =>
    walks.bind (walks.expectPunct ";") fun _ _ _ => ?_
  intro frame frame' start start' htokens hpos value after hdone
  obtain ⟨after', hdone', hafter⟩ := forRounds hinner hself start.pos frame.patience 0 .nil
    htokens rfl hpos.symm hdone
  exact ⟨(), after', hdone', hafter, trivial⟩

private theorem whileLoop (hinner : Agrees anyResult inner skip) :
    Agrees anyResult (whileLoop inner) (do advance; skip; skipList) := by
  refine walks.bind walks.advance fun _ _ _ => ?_
  intro frame frame' start start' htokens hpos value after hdone
  obtain ⟨after', hdone', hafter⟩ := whileRounds hinner start.pos frame.patience 0 .nil
    htokens rfl hpos.symm hdone
  exact ⟨(), after', hdone', hafter, trivial⟩

private theorem define : Agrees anyResult define
    (do advance; let _ ← expectName; skipList; if (← cursor).isPunct "(" then skipList) := by
  refine walks.bind walks.advance fun _ _ _ => walks.bind walks.expectName fun name _ _ => ?_
  have hinside : Level (do paramsFrom (← rounds) #[]) :=
    Level.rounds.bind fun rounds => paramsFrom_level rounds #[]
  have htail (params : Array String) : Agrees anyResult
      (do
        let body ← cursor
        if body.isPunct "(" then skipList
        update (·.define name.1 params.toList body)
        pure Value.nil)
      (do if (← cursor).isPunct "(" then skipList) := by
    refine walks.bind walks.cursor ?_
    rintro body _ rfl
    have hstill := update_still (·.define name.1 params.toList body) (fun _ => rfl) .nil
    split
    · exact before_still walks.skipList fun _ => hstill
    · exact hstill
  have hregion := region hinside htail
  rw [bind_assoc] at hregion
  exact hregion

private theorem assign (hinner : Agrees anyResult inner skip) :
    Agrees anyResult (assign inner) (do advance; let _ ← expectName; expectPunct "="; skip) := by
  refine walks.bind walks.advance fun _ _ _ => walks.bind walks.expectName fun name _ _ =>
    walks.bind (walks.expectPunct "=") fun _ _ _ => ?_
  exact before_still hinner fun value => update_still (·.bind name.1 value) (fun _ => rfl) .nil

/-- Evaluating a form and skipping it agree, if they do on the expressions inside. -/
theorem form (hinner : Agrees anyResult inner skip) (hself : Agrees anyResult skip skip)
    (hskip : Level skip) (located : Located) :
    Agrees anyResult (form inner skip located) (skipForm skip located) := by
  unfold Eval.form Eval.skipForm
  cases located.token.kind with
  | number => exact before_still walks.advance fun _ => pure_still _
  | string => exact before_still walks.advance fun _ => pure_still _
  | name =>
    have hlookup : Agrees anyResult (do advance; lookup located.token.lexeme located.span) advance :=
      before_still walks.advance fun _ => lookup_still _ _
    cases located.token.keyword? with
    | none => exact hlookup
    | some keyword =>
      cases keyword with
      | call => exact call hinner hskip
      | cond => exact conditional hinner hskip
      | otherwise => exact hlookup
      | forLoop => exact forLoop hinner hself
      | whileLoop => exact whileLoop hinner
      | define => exact define
      | assign => exact assign hinner
  | punct =>
    by_cases hopen : located.token.lexeme == "("
    · simp only [hopen, if_true]
      refine before_still (list hinner hskip) fun values => ?_
      cases values.back? with
      | none => exact fail_any _ _
      | some value => exact pure_still value
    · simp only [hopen]
      exact walks.unexpected _
  | operator => exact walks.unexpected _

end Rewind.Eval.Agrees
