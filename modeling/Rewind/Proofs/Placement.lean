import Rewind.Proofs.RunInvariant

namespace Rewind

/-- A list begins at the cursor, and moving past it ends at `stop`. -/
def Cursor.Skips (cursor : Cursor) (stop : Nat) : Prop :=
  ∀ (frame : Frame) (start : Machine), frame.tokens = cursor.tokens → start.pos = cursor.pos →
    Eval.skipList frame start = .done () { start with pos := stop }

theorem Cursor.skips_iff {cursor : Cursor} {stop : Nat} :
    cursor.Skips stop ↔
      cursor.isPunct "(" = true ∧ Eval.closeFrom cursor.tokens (cursor.pos + 1) 0 = some stop := by
  obtain ⟨tokens, pos⟩ := cursor
  constructor
  · intro hskips
    have hskip := hskips ⟨tokens, {}, fun _ => .echo, 0, 0⟩ { pos } rfl rfl
    rw [Eval.skipList_apply] at hskip
    split at hskip
    · rename_i hopen
      refine ⟨hopen, ?_⟩
      cases hclose : Eval.closeFrom tokens (pos + 1) 0 with
      | none => simp [hclose] at hskip
      | some found => simpa [hclose] using hskip
    · cases hskip
  · rintro ⟨hopen, hclose⟩ frame start rfl rfl
    rw [Eval.skipList_apply, if_pos hopen, hclose]

/-- A function as a definition leaves it: its name and its parameters are names of its own
    buffer, and its body begins right after the parenthesis that ends the parameters. There
    the buffer ends, or something stands that is no list, or a list that can be skipped. -/
structure Function.Placed (f : Function) : Prop where
  name : ∃ pos span, NameAt f.body.tokens pos f.name span
  params : ∀ param ∈ f.params, ∃ pos span, NameAt f.body.tokens pos param span
  inside : f.body.pos ≤ f.body.tokens.size
  behind : ∃ pos, f.body.pos = pos + 1 ∧ PunctAt f.body.tokens pos ")"
  body : f.body.atEnd = true ∨ (∃ located, f.body.current? = some located ∧ located.token.isPunct "(" = false) ∨
    ∃ stop, f.body.Skips stop

/-- What a definition defines is well placed. -/
private theorem Function.Placed.of_header {tokens : Array Located} {p body : Nat} {name : String} {params : List String}
    (hheader : HeaderAt tokens p name params body) (hbody : BodyAt tokens body) (id : Identity) :
    Function.Placed ⟨id, name, params, tokens, body⟩ := by
  obtain ⟨stop, hreads, hclose, rfl⟩ := hheader.params
  obtain ⟨span, hname⟩ := hheader.name
  refine ⟨⟨_, span, hname⟩, fun param hmem => hreads.exists_nameAt hmem, hclose.lt, ⟨stop, rfl, hclose⟩, ?_⟩
  cases hcurrent : tokens[stop + 1]? with
  | none => exact .inl ((Cursor.atEnd_iff_current? _).2 hcurrent)
  | some located =>
    right
    cases hopen : located.token.isPunct "(" with
    | false => exact .inl ⟨located, hcurrent, hopen⟩
    | true =>
      have hpunct : PunctAt tokens (stop + 1) "(" := Eval.isPunct_iff.2 ⟨located, hcurrent, hopen⟩
      obtain ⟨last, hlast⟩ := hbody hpunct
      exact .inr ⟨last, Cursor.skips_iff.2 ⟨hpunct, hlast⟩⟩

/-- The body of such a function is closed if it is a list. -/
theorem Function.Placed.closed {f : Function} (hplaced : f.Placed) (hopen : f.body.isPunct "(" = true) :
    Eval.closeFrom f.body.tokens (f.body.pos + 1) 0 ≠ none := by
  intro hnone
  obtain ⟨located, hcurrent, hpunct⟩ := Eval.isPunct_iff.1 hopen
  rcases hplaced.body with hend | ⟨other, hother, hnot⟩ | ⟨stop, hskips⟩
  · have hgone : f.body.tokens[f.body.pos]? = none := (Cursor.atEnd_iff_current? _).1 hend
    rw [hcurrent] at hgone
    cases hgone
  · rw [Cursor.current?, hcurrent] at hother
    cases hother
    rw [hpunct] at hnot
    cases hnot
  · rw [(Cursor.skips_iff.1 hskips).2] at hnone
    cases hnone

/-- From `start` on the log grows, and all functions have a property. -/
def RunInvariant.since (function : Function → Prop) (start : Machine) : RunInvariant where
  buffer _ := True
  function := function
  name _ := True
  origin := start.env
  log log := ∃ later, log.toList = start.log.toList ++ later ∧
    ∀ event ∈ later, ∀ f, event.function? = some f → function f

namespace RunInvariant

variable {function : Function → Prop} {start : Machine} {hosts : Hosts}

theorem since_closed
    (hdefined : ∀ {tokens p name params body} (id : Identity), HeaderAt tokens p name params body → BodyAt tokens body →
      function ⟨id, name, params, tokens, body⟩)
    (hanswer : ∀ {host earlier code value}, (hosts host).answer earlier code = .ok value →
      (since function start).Allows value) : (since function start).Closed hosts where
  body _ := trivial
  param _ _ := trivial
  assigned _ _ _ := trivial
  defined id _ hheader hbody := ⟨trivial, hdefined id hheader hbody⟩
  answer := hanswer
  push := by
    rintro log event ⟨later, hlog, hlater⟩ hevent
    refine ⟨later ++ [event], ?_, ?_⟩
    · simp [hlog]
    · simp only [List.mem_append, List.mem_singleton]
      rintro _ (hmem | rfl)
      · exact hlater _ hmem
      · exact hevent

theorem since_keeps (hstart : ∀ name f, start.env.get? name = some (.function f) → function f) :
    start.Satisfies (since function start) where
  functions hbound := hstart _ _ hbound
  others hname := absurd trivial hname
  bound := id
  log := ⟨[], by simp, by simp⟩

theorem placed_closed (start : Machine) (hplain : hosts.Plain) : (since Function.Placed start).Closed hosts :=
  since_closed (fun id hheader hbody => .of_header hheader hbody id) fun hanswer =>
    allows_of_ne_function (hplain _ _ _ _ hanswer)

end RunInvariant

/-- The machines that a sequence of runs can reach from bindings without functions. Each run
    has a source, limits and hosts of its own, and it may go on where an earlier one stopped. -/
inductive Reachable : Machine → Prop where
  | fresh {machine : Machine} (hfresh : ∀ name f, machine.env.get? name ≠ some (.function f)) : Reachable machine
  | ran {machine : Machine} {interpreter after : Interpreter} {hosts : Hosts} {patience : Nat}
    {result : Except Error Value} (hreachable : Reachable machine) (hplain : hosts.Plain)
    (henv : interpreter.machine.env = machine.env)
    (hrun : interpreter.run hosts patience = some (result, after)) : Reachable after.machine

/-- The functions that a run shows: what it yields, and what is in its log. -/
def Interpreter.Shows (interpreter : Interpreter) (result : Except Error Value) (after : Interpreter) (f : Function) :
    Prop :=
  result = .ok (.function f) ∨
    ∃ event ∈ after.machine.log.toList.drop interpreter.machine.log.size, event.function? = some f

namespace Function.Placed

/-- Where all functions are well placed, so are those that a run leaves and those that it
    shows. -/
theorem of_run {interpreter after : Interpreter} {hosts : Hosts} {patience : Nat} {result : Except Error Value}
    (hplain : hosts.Plain) (hstart : ∀ name f, interpreter.machine.env.get? name = some (.function f) → f.Placed)
    (hrun : interpreter.run hosts patience = some (result, after)) :
    (∀ name f, after.machine.env.get? name = some (.function f) → f.Placed) ∧
      ∀ f, interpreter.Shows result after f → f.Placed := by
  have hclosed := RunInvariant.placed_closed interpreter.machine hplain
  -- the invariant is that of the log since the start, as functions of before are not asked about
  obtain ⟨hafter, hvalue⟩ := Interpreter.run_keeps trivial hclosed (RunInvariant.since_keeps hstart) hrun
  refine ⟨fun name f hbound => hafter.functions hbound, ?_⟩
  rintro f (hresult | ⟨event, hmem, hfunction⟩)
  · exact hvalue _ hresult f rfl
  · obtain ⟨later, hlog, hlater⟩ := hafter.log
    rw [hlog, ← Array.length_toList, List.drop_left] at hmem
    exact hlater event hmem f hfunction

theorem of_reachable {machine : Machine} (hreachable : Reachable machine) :
    ∀ name f, machine.env.get? name = some (.function f) → f.Placed := by
  induction hreachable with
  | fresh hfresh => exact fun name f hbound => absurd hbound (hfresh name f)
  | ran _ hplain henv hrun ih => exact (of_run hplain (henv ▸ ih) hrun).1

end Function.Placed

end Rewind
