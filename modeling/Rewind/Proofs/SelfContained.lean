import Rewind.Proofs.Enclosure.Program

namespace Rewind

namespace Eval

/-- Stops an evaluation where it begins or ends something outside of the places from `low`
    to `stop`, with this many calls active. -/
def Watch.fence (depth low stop : Nat) : Watch := fun _ frame pos =>
  frame.depth != depth || (low ≤ pos && pos ≤ stop)

private theorem Watch.fence_fences (frame : Frame) (low stop : Nat) :
    (Watch.fence frame.depth low stop).Fences ⟨frame, low, stop⟩ where
  here hlow hstop := by simp [fence, hlow, hstop]
  deeper hdepth := by simp [fence, Nat.ne_of_gt hdepth]

/-- Evaluates the list that begins at the current place behind a fence, which stops it
    wherever it begins or ends something outside of the places from there to `stop`. -/
def fencedList (budget stop : Nat) : Watched (Array Value) := fun frame start =>
  (Watch.fence frame.depth start.pos stop).around .list
    (Loop.bounded.list ((Watch.fence frame.depth start.pos stop).evaluate budget)) frame start

/-- The list that begins at the current place is evaluated inside of its parentheses, the
    last of which stands right before `stop`. -/
structure StaysWithin (budget : Nat) (frame : Frame) (start : Machine) (stop : Nat) : Prop where
  /-- The evaluation does not get to the fence, also where it does not end. -/
  fenced : fencedList budget stop frame start ≠ .stopped
  same : (fencedList budget stop frame start).outcome = list (evaluate budget) frame start
  done : ∀ values after, list (evaluate budget) frame start = .done values after → after.pos = stop
  failed : ∀ error after, list (evaluate budget) frame start = .failed error after →
    start.pos ≤ after.pos ∧ after.pos ≤ stop
  /-- A failure at the end of the buffer comes from a call. -/
  breaks : ∀ error after, list (evaluate budget) frame start = .failed error after → error.AtEnd →
    start.BreaksOff after

private theorem staysWithin_of_closed (budget : Nat) {frame : Frame} {start : Machine} {stop : Nat}
    (hopen : PunctAt frame.tokens start.pos "(") (hclose : closeFrom frame.tokens (start.pos + 1) 0 = some stop) :
    StaysWithin budget frame start stop := by
  have hfences := Watch.fence_fences frame start.pos stop
  have hle : start.pos ≤ stop := Nat.le_of_succ_le (Nat.le_of_lt (closeFrom_bounds hclose).1)
  have helements := Enclosed.loops.elements (Enclosed.evaluate budget _ hfences) (.evaluate budget)
  have hlist := Enclosed.between_held (Nat.le_refl _) hopen hclose helements
  rw [← list_eq_between] at hlist
  have hheld : Verdict.Held start.pos stop start (· = stop) _ (fencedList budget stop frame start) _ :=
    Enclosed.around_held (hfences.here (Nat.le_refl _) hle)
      (fun pos hpos => hfences.here (hpos ▸ hle) (Nat.le_of_eq hpos)) hlist
  obtain ⟨hgoes, hsame⟩ := hheld.outcome_eq fun _ _ => Likeness.same_arrays
  refine ⟨hgoes, hsame, fun values after hdone => ?_, fun error after hfailed => ?_, fun error after hfailed => ?_⟩
  · rw [hdone] at hheld
    exact hheld.of_done
  · rw [hfailed] at hheld
    exact hheld.of_failed.1
  · rw [hfailed] at hheld
    exact hheld.of_failed.2

/-- Where all functions are well placed, only a body that is not there can break off. -/
private theorem calledBetween_of_breaksOff {budget : Nat} {frame : Frame} {start after : Machine} {error : Error}
    (hplaced : ∀ name f, start.env.get? name = some (.function f) → f.Placed) (hplain : frame.hosts.Plain)
    (hfailed : list (evaluate budget) frame start = .failed error after) (hbreaks : start.BreaksOff after) :
    ∃ (f : Function) (rest : List Event), f.CalledBetween start after rest ∧ f.Placed ∧ f.body.atEnd = true ∧
      ∀ event ∈ rest, ∃ name value, event = .bound name value := by
  have hpreserves := Preserves.list budget trivial (RunInvariant.placed_closed start hplain)
    (RunInvariant.since_keeps hplaced)
  rw [hfailed] at hpreserves
  obtain ⟨later, hlater, hfunctions⟩ := hpreserves.log
  obtain ⟨f, rest, ⟨before, n, hlog⟩, hbody⟩ := hbreaks
  -- the call that broke off is among the events since the start, of which all functions are well placed
  have hevents : later = before ++ .called f n :: rest := by
    rw [hlater, List.append_assoc] at hlog
    exact List.append_cancel_left hlog
  have hplaced : f.Placed := hfunctions (.called f n) (by simp [hevents]) f rfl
  rcases hbody with ⟨hend, hrest⟩ | ⟨hopen, hclose⟩
  · exact ⟨f, rest, ⟨before, n, hlog⟩, hplaced, hend, hrest⟩
  · exact absurd hclose (hplaced.closed hopen)

end Eval

/-- Functions are well placed in every reachable machine and in everything that its runs show.
    A body that is a list is evaluated inside of its parentheses, whatever is bound: it ends
    where skipping it ends, and it can fail at the end of the buffer only in a call of a
    function without a body, as long as functions are well placed. -/
theorem functions_well_placed_and_self_contained :
    (∀ machine, Reachable machine → ∀ name f, machine.env.get? name = some (.function f) → f.Placed) ∧
    (∀ machine, Reachable machine → ∀ (interpreter after : Interpreter) hosts patience result,
      interpreter.machine.env = machine.env → hosts.Plain →
        interpreter.run hosts patience = some (result, after) → ∀ f, interpreter.Shows result after f → f.Placed) ∧
    ∀ (f : Function) (stop : Nat), f.body.Skips stop →
      ∀ (budget : Nat) (frame : Frame) (start : Machine), frame.tokens = f.body.tokens → start.pos = f.body.pos →
        Eval.StaysWithin budget frame start stop ∧
        ((∀ name g, start.env.get? name = some (.function g) → g.Placed) → frame.hosts.Plain →
          ∀ error after, Eval.list (Eval.evaluate budget) frame start = .failed error after → error.AtEnd →
            ∃ (g : Function) (rest : List Event), g.CalledBetween start after rest ∧ g.Placed ∧ g.body.atEnd = true ∧
              ∀ event ∈ rest, ∃ name value, event = .bound name value) := by
  refine ⟨fun machine hreachable => .of_reachable hreachable, ?_, ?_⟩
  · intro machine hreachable interpreter after hosts patience result henv hplain hrun
    exact (Function.Placed.of_run hplain (henv ▸ Function.Placed.of_reachable hreachable) hrun).2
  · intro f stop hskips budget frame start htokens hpos
    obtain ⟨hopen, hclose⟩ := Cursor.skips_iff.1 hskips
    rw [← htokens, ← hpos] at hclose
    have hstays : Eval.StaysWithin budget frame start stop := by
      refine Eval.staysWithin_of_closed budget ?_ hclose
      rw [PunctAt, htokens, hpos]
      exact hopen
    exact ⟨hstays, fun hplaced hplain error after hfailed hend =>
      Eval.calledBetween_of_breaksOff hplaced hplain hfailed (hstays.breaks error after hfailed hend)⟩

/-- The second function has no body. -/
def dangling : String := "fn f() (call g()) fn g()"

/-- The frame of a call, in a session that is at this source. -/
def danglingFrame : Frame where
  tokens := tokenize dangling
  limits := {}
  hosts := fun _ => .echo
  depth := 1
  patience := 0

/-- Whether a list fails at the end of a buffer. -/
def Eval.breaksOff (budget : Nat) (frame : Frame) (start : Machine) : Bool :=
  match Eval.list (Eval.evaluate budget) frame start with
  | .failed ⟨.expected _ none, _⟩ _ => true
  | _ => false

private theorem Eval.exists_of_breaksOff {budget : Nat} {frame : Frame} {start : Machine}
    (hbreaks : Eval.breaksOff budget frame start = true) :
    ∃ error after, Eval.list (Eval.evaluate budget) frame start = .failed error after ∧ error.AtEnd := by
  unfold Eval.breaksOff at hbreaks
  split at hbreaks
  · rename_i wanted span after hfailed
    exact ⟨_, after, hfailed, wanted, rfl⟩
  · cases hbreaks

/-- Whether a name is bound to a function with this body. -/
def Env.bindsBody (env : Env) (name : String) (body : Cursor) : Bool :=
  match env.get? name with
  | some (.function f) => f.body == body
  | _ => false

private theorem Env.exists_of_bindsBody {env : Env} {name : String} {body : Cursor}
    (hbinds : env.bindsBody name body = true) :
    ∃ f, env.get? name = some (.function f) ∧ f.body = body := by
  unfold bindsBody at hbinds
  split at hbinds
  · rename_i f hf
    exact ⟨f, hf, eq_of_beq hbinds⟩
  · cases hbinds

/-- A function that a run has defined calls another one, which has no body. This breaks off,
    and it is the call that does. -/
theorem functions_well_placed_and_self_contained_of_dangling :
    ∃ (after : Interpreter) (f : Function), Reachable after.machine ∧
      after.machine.env.get? "f" = some (.function f) ∧ f.Placed ∧ f.body.Skips 10 ∧
      Eval.StaysWithin 9 danglingFrame { after.machine with pos := 4 } 10 ∧
      ∃ error last, Eval.list (Eval.evaluate 9) danglingFrame { after.machine with pos := 4 } = .failed error last ∧
        error.AtEnd ∧ ∃ (g : Function) (rest : List Event),
          g.CalledBetween { after.machine with pos := 4 } last rest ∧ g.Placed ∧ g.body.atEnd = true := by
  have hplain : Hosts.Plain fun _ => .echo := by
    rintro host earlier code value hanswer f rfl
    cases hanswer
  have htest : ((Interpreter.onMachine dangling {} {}).run (fun _ => .echo) 0).any (fun ending =>
      Eval.breaksOff 9 danglingFrame { ending.2.machine with pos := 4 } &&
        ending.2.machine.env.bindsBody "f" ⟨tokenize dangling, 4⟩) = true := by decide +kernel
  obtain ⟨⟨result, after⟩, hrun, hends⟩ := (Option.any_eq_true _ _).1 htest
  simp only [Bool.and_eq_true] at hends
  obtain ⟨hbreaks, hbound⟩ := hends
  obtain ⟨f, hf, hbody⟩ := Env.exists_of_bindsBody hbound
  have hskips : f.body.Skips 10 := by
    rw [Cursor.skips_iff, hbody]
    decide +kernel
  obtain ⟨error, last, hfailed, hend⟩ := Eval.exists_of_breaksOff hbreaks
  have hfresh : Reachable {} := .fresh fun name f hbound => by cases hbound
  have hreachable : Reachable after.machine := .ran hfresh hplain rfl hrun
  obtain ⟨hplaced, _, hbodies⟩ := functions_well_placed_and_self_contained
  obtain ⟨hstays, hcalled⟩ := hbodies f 10 hskips 9 danglingFrame { after.machine with pos := 4 }
    (by rw [hbody]; rfl) (by rw [hbody])
  obtain ⟨g, rest, hbetween, hg, hatEnd, _⟩ :=
    hcalled (hplaced after.machine hreachable) hplain error last hfailed hend
  exact ⟨after, f, hreachable, hf, hplaced after.machine hreachable "f" f hf, hskips, hstays, error, last, hfailed,
    hend, g, rest, hbetween, hg, hatEnd⟩

end Rewind
