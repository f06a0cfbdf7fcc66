import Rewind.Eval.Expression

namespace Rewind

namespace Machine

@[simp]
theorem record_pos (machine : Machine) (event : Event) : (machine.record event).pos = machine.pos := rfl

@[simp]
theorem bind_pos (machine : Machine) (name : String) (value : Value) :
    (machine.bind name value).pos = machine.pos := rfl

/-- A parameter gets the next argument, or nil. -/
theorem bindAll_cons (machine : Machine) (param : String) (params : List String) (arguments : List Value) :
    machine.bindAll (param :: params) arguments =
      (machine.bind param (arguments.head?.getD .nil)).bindAll params arguments.tail := by
  cases arguments <;> rfl

/-- Binding parameters changes only the environment and the log. -/
theorem exists_bindAll_eq (machine : Machine) (params : List String) (arguments : List Value) :
    ∃ env log, machine.bindAll params arguments = { machine with env, log } := by
  induction params generalizing machine arguments with
  | nil => exact ⟨machine.env, machine.log, rfl⟩
  | cons param params ih =>
    rw [bindAll_cons]
    exact ih (machine.bind param _) arguments.tail

@[simp]
theorem bindAll_pos (machine : Machine) (params : List String) (arguments : List Value) :
    (machine.bindAll params arguments).pos = machine.pos := by
  obtain ⟨env, log, hbound⟩ := machine.exists_bindAll_eq params arguments
  rw [hbound]

end Machine

/-- The machine that a computation leaves, whether it succeeds or not. -/
def Outcome.after? {α : Type} : Outcome α → Option Machine
  | .done _ after => some after
  | .failed _ after => some after
  | .unfinished => none

/-- The outcome, with the machine put back to a position. -/
def Outcome.rewound {α : Type} (outcome : Outcome α) (pos : Nat) : Outcome α :=
  match outcome with
  | .done a after => .done a { after with pos }
  | .failed error after => .failed error { after with pos }
  | .unfinished => .unfinished

/-- The outcome, with its result changed. -/
def Outcome.map {α β : Type} (outcome : Outcome α) (f : α → β) : Outcome β :=
  match outcome with
  | .done a after => .done (f a) after
  | .failed error after => .failed error after
  | .unfinished => .unfinished

/-- The frame inside a call whose body begins at `target`. -/
def Frame.entering (frame : Frame) (target : Cursor) : Frame :=
  { frame with tokens := target.tokens, depth := frame.depth + 1 }

/-- The machine at the start of the body of a call, with `depth` calls around it. -/
def Machine.entering (machine : Machine) (target : Cursor) (depth : Nat) : Machine :=
  { machine with pos := target.pos, deepestCall := max machine.deepestCall (depth + 1) }

namespace Eval

section Bind

variable {α β : Type} {x : Eval α} {f : α → Eval β} {frame : Frame} {start mid after : Machine}

theorem bind_eq_done_iff {b : β} :
    (x >>= f) frame start = .done b after ↔
      ∃ a mid, x frame start = .done a mid ∧ f a frame mid = .done b after := by
  rw [bind_apply]
  cases x frame start with
  | done a mid =>
    constructor
    · exact fun hdone => ⟨a, mid, rfl, hdone⟩
    · rintro ⟨_, _, heq, hdone⟩
      cases heq
      exact hdone
  | failed error mid => simp
  | unfinished => simp

theorem bind_of_done {a : α} (hx : x frame start = .done a mid) :
    (x >>= f) frame start = f a frame mid := by
  rw [bind_apply, hx]

theorem bind_of_failed {error : Error} (hx : x frame start = .failed error mid) :
    (x >>= f) frame start = .failed error mid := by
  rw [bind_apply, hx]

theorem bind_of_unfinished (hx : x frame start = .unfinished) :
    (x >>= f) frame start = .unfinished := by
  rw [bind_apply, hx]

end Bind

section Steps

variable (frame : Frame) (start : Machine)

theorem isPunct_iff {tokens : Array Located} {pos : Nat} {lexeme : String} :
    (Cursor.mk tokens pos).isPunct lexeme = true ↔
      ∃ located, tokens[pos]? = some located ∧ located.token.isPunct lexeme := by
  unfold Cursor.isPunct Cursor.current?
  cases tokens[pos]? <;> simp

theorem advance_of_current {frame : Frame} {start : Machine} {located : Located}
    (hcurrent : frame.tokens[start.pos]? = some located) :
    advance frame start = .done () { start with pos := start.pos + 1 } := by
  have hlt : start.pos < frame.tokens.size := (Array.getElem?_eq_some_iff.1 hcurrent).1
  simp [advance, Cursor.advance, Cursor.atEnd, Nat.not_le.2 hlt]

theorem expectPunct_apply (lexeme : String) :
    expectPunct lexeme frame start =
      if (Cursor.mk frame.tokens start.pos).isPunct lexeme then .done () { start with pos := start.pos + 1 }
      else .failed (.expected (.punct lexeme) frame.tokens[start.pos]?) start := by
  unfold expectPunct
  rw [bind_of_done (show cursor frame start = .done ⟨frame.tokens, start.pos⟩ start from rfl)]
  split
  · rename_i hpunct
    obtain ⟨located, hcurrent, _⟩ := isPunct_iff.1 hpunct
    exact advance_of_current hcurrent
  · rfl

theorem expectName_apply :
    expectName frame start =
      match frame.tokens[start.pos]? with
      | some located =>
        if located.token.kind = .name then
          .done (located.token.lexeme, located.span) { start with pos := start.pos + 1 }
        else .failed (.expected (.kind .name) (some located)) start
      | none => .failed (.expected (.kind .name) none) start := by
  unfold expectName
  rw [bind_of_done (show current? frame start = .done frame.tokens[start.pos]? start from rfl)]
  cases hcurrent : frame.tokens[start.pos]? with
  | none => simp [unexpected, Cursor.current?, hcurrent]
  | some located =>
    simp only [beq_iff_eq]
    split
    · exact bind_of_done (advance_of_current hcurrent)
    · simp [unexpected, Cursor.current?, hcurrent]

theorem firstToken_apply :
    firstToken frame start =
      match frame.tokens[start.pos]? with
      | some located => .done located start
      | none => .failed (.expected .expression none) start := by
  unfold firstToken
  rw [bind_of_done (show current? frame start = .done frame.tokens[start.pos]? start from rfl)]
  cases hcurrent : frame.tokens[start.pos]? with
  | none => simp [unexpected, Cursor.current?, hcurrent]
  | some located => rfl

theorem operator?_apply (tier : Tier) :
    operator? tier frame start =
      .done (frame.tokens[start.pos]?.filter (·.token.isOperator tier)) start := by
  unfold operator?
  rw [bind_of_done (show current? frame start = .done frame.tokens[start.pos]? start from rfl)]
  cases frame.tokens[start.pos]? with
  | none => rfl
  | some located => simp [Option.filter, pure_apply]

theorem tryKeyword_apply (keyword : Keyword) :
    tryKeyword keyword frame start =
      if (Cursor.mk frame.tokens start.pos).keyword? = some keyword then
        .done true { start with pos := start.pos + 1 }
      else .done false start := by
  unfold tryKeyword
  rw [bind_of_done (show cursor frame start = .done ⟨frame.tokens, start.pos⟩ start from rfl)]
  simp only [beq_iff_eq]
  split
  · rename_i hkeyword
    obtain ⟨located, hcurrent, _⟩ := Option.bind_eq_some_iff.1 hkeyword
    exact bind_of_done (advance_of_current hcurrent)
  · rfl

theorem skipList_apply :
    skipList frame start =
      if (Cursor.mk frame.tokens start.pos).isPunct "(" then
        match closeFrom frame.tokens (start.pos + 1) 0 with
        | some pos => .done () { start with pos }
        | none => .failed (.expected (.punct ")") none) { start with pos := frame.tokens.size }
      else .failed (.expected (.punct "(") frame.tokens[start.pos]?) start := by
  unfold skipList
  by_cases hpunct : (Cursor.mk frame.tokens start.pos).isPunct "("
  · have hopen := expectPunct_apply frame start "("
    rw [if_pos hpunct] at hopen ⊢
    rw [bind_of_done hopen, bind_of_done (show cursor frame { start with pos := start.pos + 1 } =
      .done ⟨frame.tokens, start.pos + 1⟩ { start with pos := start.pos + 1 } from rfl)]
    cases closeFrom frame.tokens (start.pos + 1) 0 with
    | some pos => rfl
    | none =>
      show Outcome.failed (.expected (.punct ")") frame.tokens[frame.tokens.size]?) _ = _
      rw [Array.getElem?_eq_none (Nat.le_refl _)]
  · have hopen := expectPunct_apply frame start "("
    rw [if_neg hpunct] at hopen ⊢
    exact bind_of_failed hopen

theorem inBuffer_apply {α : Type} (target : Cursor) (body : Eval α) :
    inBuffer target body frame start =
      (body (frame.entering target) (start.entering target frame.depth)).rewound start.pos := by
  unfold inBuffer Outcome.rewound
  rfl

theorem invoke_apply (inner : Eval Value) (f : Function) (arguments : Array Value) (span : Span) :
    invoke inner f arguments span frame start =
      if frame.limits.calls ≤ frame.depth then
        .failed (.atSpan span (.callDepth frame.limits.calls)) start
      else
        ((list inner (frame.entering f.body)
          (((start.record (.called f arguments.size)).bindAll f.params arguments.toList).entering f.body
            frame.depth)).rewound start.pos).map fun values => values.back?.getD .nil := by
  unfold invoke
  rw [bind_of_done (show Eval.frame frame start = .done frame start from rfl)]
  split
  · rfl
  · rw [bind_of_done (show update _ frame start = .done () _ from rfl), bind_apply, inBuffer_apply,
      Machine.bindAll_pos, Machine.record_pos]
    generalize (list inner _ _).rewound start.pos = outcome
    cases outcome <;> rfl

/-- What consulting a host makes of the machine, whatever the answer. -/
def consulted (host : Native) (code : String) (frame : Frame) (start : Machine) : Machine :=
  let told := if (frame.hosts host).logged then start.record (.shellRun code) else start
  { told with calls := told.calls.push ⟨host, code⟩ }

theorem consult_of_string {arguments : Array Value} {code : String} {rest : List Value}
    (harguments : arguments.toList = .string code :: rest) (name : String) (host : Native) (span : Span)
    (frame : Frame) (start : Machine) :
    consult name host arguments span frame start =
      match (frame.hosts host).answer (start.earlier host) code with
      | .ok value => .done value (consulted host code frame start)
      | .error text => .failed (.atSpan span (.other text)) (consulted host code frame start) := by
  unfold consult
  rw [harguments]
  rfl

theorem consult_of_not_string {arguments : Array Value}
    (harguments : ∀ code rest, arguments.toList ≠ .string code :: rest) (name : String) (host : Native)
    (span : Span) : consult name host arguments span = failAt span (.hostCode name host.name) := by
  unfold consult
  generalize arguments.toList = values at harguments
  cases values with
  | nil => rfl
  | cons value rest => cases value <;> first | rfl | exact absurd rfl (harguments _ rest)

@[simp]
theorem consulted_pos (host : Native) (code : String) (frame : Frame) (start : Machine) :
    (consulted host code frame start).pos = start.pos := by
  unfold consulted
  dsimp only
  split <;> rfl

end Steps

end Eval

end Rewind
