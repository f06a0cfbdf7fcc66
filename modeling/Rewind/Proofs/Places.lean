import Rewind.Host.Shell
import Rewind.Proofs.Lexing.Partition
import Rewind.Proofs.Reach.Confined
import Rewind.Proofs.Tree.Simulation

namespace Rewind

/-- A run ends in a failure, whether it is for the last value or for the bindings. -/
def Interpreter.Fails (interpreter : Interpreter) (hosts : Hosts) (patience : Nat) (error : Error) : Prop :=
  (∃ after, interpreter.run hosts patience = some (.error error, after)) ∨
    ∃ after, interpreter.interpret hosts patience = some (.error error, after)

namespace Interpreter

variable {interpreter : Interpreter} {source : String} {hosts : Hosts} {patience : Nat} {error : Error}

private theorem Fails.run (hfails : interpreter.Fails hosts patience error) :
    ∃ after, interpreter.run hosts patience = some (.error error, after) := by
  rcases hfails with hrun | ⟨after, hinterpret⟩
  · exact hrun
  · obtain ⟨⟨result, stop⟩, hrun, heq⟩ := Option.map_eq_some_iff.1 hinterpret
    cases result with
    | ok value => cases heq
    | error error =>
      cases heq
      exact ⟨after, hrun⟩

/-- A run that fails does so at a place. -/
private theorem Fails.verdict (hfails : interpreter.Fails hosts patience error) :
    ∃ place after, interpreter.verdict .idle hosts patience = .failed error place after ∧
      interpreter.run hosts patience = some (.error error, { interpreter with machine := after }) := by
  obtain ⟨after, hrun⟩ := hfails.run
  rcases run_cases interpreter hosts patience with ⟨_, _, _, hends⟩ | ⟨_, place, after, hverdict, hends⟩ | ⟨_, _, hends⟩
  · rw [hrun] at hends
    cases hends
  · have heq := hrun.symm.trans hends
    cases heq
    exact ⟨place, after, hverdict, hends⟩
  · rw [hrun] at hends
    cases hends

/-- What the run can read is in reach. -/
def reach (interpreter : Interpreter) : Reach := ⟨interpreter.Sees, fun _ => True, fun _ => True⟩

end Interpreter

end Rewind
