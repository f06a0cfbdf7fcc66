import Rewind.Proofs.Calling
import Rewind.Proofs.Provenance.Running

namespace Rewind.Eval

/-- Past the comma that may stand behind an element. -/
def pastComma (frame : Frame) (machine : Machine) : Machine :=
  if PunctAt frame.tokens machine.pos "," then { machine with pos := machine.pos + 1 } else machine

/-- The values of the elements of a list, which are evaluated one after another. -/
inductive Listed (inner : Eval Value) (frame : Frame) : Machine → List Value → Machine → Prop where
  | nil {start : Machine} : Listed inner frame start [] start
  | cons {start mid after : Machine} {value : Value} {values : List Value}
      (hvalue : inner frame start = .done value mid) (hrest : Listed inner frame (pastComma frame mid) values after) :
      Listed inner frame start (value :: values) after

variable {inner : Eval Value} {frame : Frame} {start after : Machine}

private theorem elementsFrom_meets (inner : Eval Value) (frame : Frame) (start : Machine) (rounds : Nat)
    (values : Array Value) :
    (elementsFrom inner rounds values frame start).Meets
      (fun found after => ∃ more, found.toList = values.toList ++ more ∧ Listed inner frame start more after)
      fun _ _ => True := by
  induction rounds generalizing values start with
  | zero => exact ⟨[], by simp, .nil⟩
  | succ rounds ih =>
    rw [elementsFrom, bind_apply]
    dsimp only [cursor]
    split
    · exact ⟨[], by simp, .nil⟩
    · refine bind_meets (D := fun value mid => inner frame start = .done value mid) ?_ fun value mid hvalue => ?_
      · cases hvalue : inner frame start <;> trivial
      · -- what comes after the element, with or without a comma
        have hrest {next : Machine} (hnext : pastComma frame mid = next) :
            (elementsFrom inner rounds (values.push value) frame next).Meets
              (fun found after => ∃ more, found.toList = values.toList ++ more ∧ Listed inner frame start more after)
              fun _ _ => True := by
          refine (ih next (values.push value)).mono ?_ fun _ _ => id
          rintro found after ⟨more, hfound, hmore⟩
          exact ⟨value :: more, by simpa using hfound, .cons hvalue (hnext ▸ hmore)⟩
        rw [bind_apply]
        dsimp only [cursor]
        split
        · rename_i hcomma
          obtain ⟨comma, hcurrent, _⟩ := isPunct_iff.1 hcomma
          rw [bind_of_done (advance_of_current hcurrent)]
          exact hrest (if_pos hcomma)
        · rename_i hcomma
          exact hrest (if_neg hcomma)

/-- A list has the values of its elements. -/
private theorem list_listed {values : Array Value} (hdone : list inner frame start = .done values after) :
    ∃ stop, Listed inner frame { start with pos := start.pos + 1 } values.toList stop ∧
      after = { stop with pos := stop.pos + 1 } := by
  have hlist : (list inner frame start).Meets
      (fun values after => ∃ stop, Listed inner frame { start with pos := start.pos + 1 } values.toList stop ∧
        after = { stop with pos := stop.pos + 1 }) fun _ _ => True := by
    refine bind_meets ((expectPunct_meets frame start "(").mono (fun _ _ => id) fun _ _ _ => trivial) ?_
    rintro _ _ ⟨_, rfl⟩
    rw [bind_apply]
    dsimp only [rounds]
    refine bind_meets (elementsFrom_meets inner frame _ _ #[]) ?_
    rintro found stop ⟨more, hfound, hmore⟩
    refine bind_meets ((expectPunct_meets frame stop ")").mono (fun _ _ => id) fun _ _ _ => trivial) ?_
    rintro _ _ ⟨_, rfl⟩
    exact ⟨stop, by simpa [hfound] using hmore, rfl⟩
  exact hlist.of_done hdone

/-- An assignment binds the value of its expression. -/
private theorem assign_binds {located : Located} (hcurrent : frame.tokens[start.pos]? = some located) {result : Value}
    (hdone : assign inner frame start = .done result after) :
    ∃ name span value mid, NameAt frame.tokens (start.pos + 1) name span ∧
      inner frame { start with pos := start.pos + 3 } = .done value mid ∧ after = mid.bind name value := by
  unfold assign at hdone
  rw [bind_of_done (advance_of_current hcurrent)] at hdone
  obtain ⟨⟨name, span⟩, _, hfound, hdone⟩ := bind_eq_done_iff.1 hdone
  obtain ⟨hname, rfl⟩ := (expectName_meets frame _).of_done hfound
  obtain ⟨_, _, hequals, hdone⟩ := bind_eq_done_iff.1 hdone
  obtain ⟨_, rfl⟩ := (expectPunct_meets frame _ "=").of_done hequals
  obtain ⟨value, mid, hvalue, hdone⟩ := bind_eq_done_iff.1 hdone
  cases hdone
  exact ⟨name, span, value, mid, hname, hvalue, rfl⟩

/-- The value of a list is that of its last element. -/
private theorem operand_of_opening {budget : Nat} (hopen : PunctAt frame.tokens start.pos "(") {value : Value}
    (hdone : operand (budget + 1) frame start = .done value after) :
    ∃ values noted, start.Untouched noted ∧ noted.pos = start.pos ∧
      list (evaluate budget) frame noted = .done values after ∧ values.back? = some value := by
  obtain ⟨located, hcurrent, hpunct⟩ := isPunct_iff.1 hopen
  obtain ⟨hkind, hlexeme⟩ : located.token.kind = .punct ∧ located.token.lexeme = "(" := by
    simpa [Token.isPunct] using hpunct
  have hfirst : firstToken frame start = .done located start := by rw [firstToken_apply, hcurrent]
  let noted : Machine := { start with deepestNesting := max start.deepestNesting (frame.limits.nesting - budget) }
  have hnoted : noteNesting budget frame start = .done () noted := rfl
  rw [operand, bind_of_done hfirst, bind_of_done hnoted] at hdone
  unfold form at hdone
  rw [hkind] at hdone
  dsimp only at hdone
  rw [if_pos (beq_iff_eq.2 hlexeme)] at hdone
  obtain ⟨values, stop, hlist, hdone⟩ := bind_eq_done_iff.1 hdone
  cases hback : values.back? with
  | none =>
    rw [hback] at hdone
    cases hdone
  | some found =>
    rw [hback] at hdone
    cases hdone
    exact ⟨values, noted, ⟨rfl, rfl, rfl⟩, rfl, hlist, hback⟩

/-- Where a value goes, it goes as it is. -/
structure PassesValues (budget : Nat) (frame : Frame) (start : Machine) : Prop where
  assigned : ∀ {result : Value} {after : Machine}, KeywordAt frame.tokens start.pos .assign →
    assign (evaluate budget) frame start = .done result after →
      ∃ name span value mid, NameAt frame.tokens (start.pos + 1) name span ∧
        evaluate budget frame { start with pos := start.pos + 3 } = .done value mid ∧
        after.env.get? name = some value
  listed : ∀ {values : Array Value} {after : Machine}, list (evaluate budget) frame start = .done values after →
    ∃ stop, Listed (evaluate budget) frame { start with pos := start.pos + 1 } values.toList stop ∧
      after = { stop with pos := stop.pos + 1 }
  /-- An operand that is a list has the value of its last element. -/
  last : ∀ {value : Value} {after : Machine}, PunctAt frame.tokens start.pos "(" →
    operand (budget + 1) frame start = .done value after →
      ∃ values noted, start.Untouched noted ∧ noted.pos = start.pos ∧
        list (evaluate budget) frame noted = .done values after ∧ values.back? = some value
  /-- A call binds parameters to the values of its arguments, and has the value of the last
      element of the body. -/
  called : ∀ {f : Function} {span : Span} {arguments : Array Value} {ready : Machine},
    CallSite budget frame start f span arguments ready → frame.depth < frame.limits.calls →
      ∃ entry, ready.Receives f arguments entry ∧
        call (evaluate budget) frame start =
          ((list (evaluate budget) (frame.entering f.body) entry).rewound ready.pos).map
            fun values => values.back?.getD .nil

theorem passesValues (budget : Nat) (frame : Frame) (start : Machine) : PassesValues budget frame start where
  assigned hkeyword hdone := by
    obtain ⟨located, hcurrent, _⟩ := hkeyword.current
    obtain ⟨name, span, value, mid, hname, hvalue, rfl⟩ := assign_binds hcurrent hdone
    exact ⟨name, span, value, mid, hname, hvalue, by rw [Machine.get?_bind, if_pos rfl]⟩
  listed := list_listed
  last hopen hdone := operand_of_opening hopen hdone
  called {f _ arguments ready} hsite hdepth :=
    ⟨_, ready.receives_calling f arguments frame.depth, hsite.call_eq_body hdepth⟩

end Rewind.Eval
