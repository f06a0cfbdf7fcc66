import Rewind.Proofs.Control.Invariant

namespace Rewind

private theorem Registers.inOrder_of_idle {settings : Settings} {registers : Registers}
    (hnesting : registers.nesting = 0)
    (hdepth : registers.depth = 0) (hready : registers.Ready settings) : registers.InOrder settings := by
  refine ⟨?_, ?_, ?_, settings.landings.inside _ hready.inside⟩
  · rw [hnesting, hdepth]
    exact UInt64.le_refl 0
  · rw [hnesting]
    exact UInt64.le_iff_toNat_le.2 (Nat.zero_le _)
  · rw [hdepth]
    exact UInt64.le_iff_toNat_le.2 (Nat.zero_le _)

namespace Routine

variable {settings : Settings} {registers : Registers} {stack : Nat}

/-- The program routine where no level is entered and no call is active. -/
private theorem program_eq (hstack : settings.nesting.toNat < stack) (hnesting : registers.nesting = 0)
    (hdepth : registers.depth = 0) (hready : registers.Ready settings) :
    program.onRegisters stack settings registers =
      Control.quietly (program.eval settings.nesting.toNat) settings registers := by
  have hbegins : program.Begins settings registers := trivial
  rw [onRegisters_eq hstack (Registers.inOrder_of_idle hnesting hdepth hready) hready hbegins, hnesting]
  rfl

/-- A run between two others does what a new evaluator would do over the tokens that
    are left. -/
private theorem program_fresh (hstack : settings.nesting.toNat < stack) (hnesting : registers.nesting = 0)
    (hdepth : registers.depth = 0) (hready : registers.Ready settings) :
    Ending.Alike settings.landings registers.machine.pos (Value.Rest settings.landings)
      (program.onRegisters stack settings registers)
      (program.onRegisters stack settings
        (.fresh (restFrom registers.tokens registers.machine.pos) registers.machine)) := by
  have hrest := hready.machine
  have hfresh : Registers.Ready (.fresh (restFrom registers.tokens registers.machine.pos) registers.machine)
      settings := ⟨hready.hosts, ⟨hrest.env, hrest.made, hrest.calls, hrest.log⟩, Nat.zero_le _⟩
  rw [program_eq hstack hnesting hdepth hready, program_eq hstack rfl rfl hfresh]
  have hresumes := program.resumes settings.landings settings.nesting.toNat
    ⟨registers.tokens, registers.machine.pos, registers.machine.pos, hready.inside⟩ (fun _ _ _ => nofun)
    (registers.frame settings) registers.machine
    (Registers.fresh (restFrom registers.tokens registers.machine.pos) registers.machine).machine rfl hready.hosts
    ⟨⟨hrest.env, hrest.made, hrest.calls, hrest.log⟩, rfl, Nat.le_refl _, hready.inside⟩
  have hframe : ({ registers.frame settings with tokens := restFrom registers.tokens registers.machine.pos } : Frame) =
      (Registers.fresh (restFrom registers.tokens registers.machine.pos) registers.machine).frame settings := by
    simp only [Registers.frame, Registers.fresh, hdepth]
  unfold Control.quietly
  rw [Stretch.rest, hframe] at hresumes
  generalize program.eval _ (registers.frame settings) registers.machine = outcome at hresumes ⊢
  generalize program.eval _ (Registers.frame _ settings) _ = outcome' at hresumes ⊢
  cases hresumes with
  | done hresults hmachines => exact .done hresults hmachines.rest hmachines.positions.shift
  | failed herrors hmachines => exact .failed herrors hmachines.rest hmachines.positions.shift
  | unfinished => exact .unfinished

/-- The run of an interpreter is the program routine on its registers. -/
private theorem run_eq_report (hstack : settings.nesting.toNat < stack) (interpreter : Interpreter)
    (hlimits : interpreter.limits = settings.limits) (hready : interpreter.registers.Ready settings) :
    interpreter.run settings.hosts settings.patience =
      (program.onRegisters stack settings interpreter.registers).report interpreter := by
  have hrun : interpreter.run settings.hosts settings.patience =
      match program.eval settings.nesting.toNat (interpreter.registers.frame settings) interpreter.machine with
      | .done value machine => some (.ok value, { interpreter with machine })
      | .failed error machine => some (.error error, { interpreter with machine })
      | .unfinished => none := by
    have hnesting : interpreter.limits.nesting = settings.nesting.toNat := congrArg Limits.nesting hlimits
    unfold Interpreter.run Registers.frame Interpreter.registers
    rw [← hlimits, ← hnesting]
    rfl
  rw [program_eq hstack rfl rfl hready, hrun]
  unfold Control.quietly Interpreter.registers
  generalize program.eval _ _ interpreter.machine = outcome
  cases outcome <;> rfl

end Routine

/-- An interpreter that is built from a configuration is ready for any evaluator
    whose hosts are. -/
private theorem Interpreter.ready_ofConfig {settings : Settings} (hhosts : settings.hosts.Land settings.landings)
    (source : String) (config : Config) : (ofConfig source config).registers.Ready settings := by
  have hempty : Machine.Rest settings.landings ({} : Machine) ({} : Machine) := ⟨fun _ => .none, rfl, rfl, rfl⟩
  have hmachine : (Machine.ofConfig config).Rest settings.landings (Machine.ofConfig config) := by
    unfold Machine.ofConfig
    cases config.host with
    | none => exact hempty
    | some host => exact hempty.bind config.hostBinding (.plain nofun)
  exact ⟨hhosts, ⟨hmachine.env, hmachine.made, hmachine.calls, hmachine.log⟩, Nat.zero_le _⟩

/-- Where bodies may begin anywhere, every state is ready whose cursor is in its
    buffer. -/
private theorem Registers.ready_of_anywhere {settings : Settings} (hanywhere : settings.landings = .anywhere)
    {registers : Registers} (hinside : registers.machine.pos ≤ registers.tokens.size) :
    registers.Ready settings := by
  refine ⟨fun _ _ _ value _ => ?_, ⟨fun name => ?_, rfl, rfl, rfl⟩, hinside⟩
  · rw [hanywhere]
    exact .anywhere value
  · rw [hanywhere]
    cases registers.machine.env.get? name with
    | none => exact .none
    | some value => exact .some (.anywhere value)

/-- The control state is restored by every routine, from every state that is in
    order, and also by one that fails. An evaluator that counts in words of 64 bits,
    swaps buffers and puts back by hand what it changed does the same as the one that
    is handed what it needs, and none of its counters gets out of order on the way.
    Where bodies may begin anywhere, nothing is asked of bindings and hosts. Runs begin
    in order, and one after a failure is as good as a new evaluator over the tokens
    that are left. -/
theorem control_state_restored (settings : Settings) {stack : Nat} (hstack : settings.nesting.toNat < stack) :
    (∀ (routine : Routine) (registers : Registers), registers.InOrder settings → registers.Ready settings →
      routine.Begins settings registers →
      (routine.onRegisters stack settings registers).Restores settings registers (routine = .expression) ∧
      routine.onRegisters stack settings registers = Control.quietly
        (routine.eval (settings.nesting.toNat - registers.nesting.toNat)) settings registers) ∧
    (∀ (source : String) (config : Config), settings.hosts.Land settings.landings →
      (Interpreter.ofConfig source config).registers.Ready settings) ∧
    (settings.landings = .anywhere → ∀ registers : Registers, registers.machine.pos ≤ registers.tokens.size →
      registers.Ready settings) ∧
    (∀ interpreter : Interpreter, interpreter.limits = settings.limits → interpreter.registers.Ready settings →
      interpreter.registers.InOrder settings ∧
      interpreter.run settings.hosts settings.patience =
        (Routine.program.onRegisters stack settings interpreter.registers).report interpreter ∧
      (interpreter.interpret settings.hosts settings.patience).map (·.2) =
        (interpreter.run settings.hosts settings.patience).map (·.2)) ∧
    (∀ (registers after : Registers) (error : Error), registers.nesting = 0 → registers.depth = 0 →
      registers.Ready settings → Routine.program.onRegisters stack settings registers = .failed error after →
      Ending.Alike settings.landings after.machine.pos (Value.Rest settings.landings)
        (Routine.program.onRegisters stack settings after)
        (Routine.program.onRegisters stack settings
          (.fresh (restFrom after.tokens after.machine.pos) after.machine))) := by
  refine ⟨fun routine registers horder hready hbegins => ?_, fun source config hhosts => ?_,
    fun hanywhere registers => Registers.ready_of_anywhere hanywhere, fun interpreter hlimits hready => ?_,
    fun registers after error hnesting hdepth hready hfailed => ?_⟩
  · exact ⟨Routine.restores hstack horder hready hbegins, Routine.onRegisters_eq hstack horder hready hbegins⟩
  · exact Interpreter.ready_ofConfig hhosts source config
  · refine ⟨Registers.inOrder_of_idle rfl rfl hready, Routine.run_eq_report hstack interpreter hlimits hready, ?_⟩
    unfold Interpreter.interpret
    rw [Option.map_map]
    rfl
  · have hbegins : Routine.program.Begins settings registers := trivial
    have hrestores := Routine.restores hstack (Registers.inOrder_of_idle hnesting hdepth hready) hready hbegins
    rw [hfailed] at hrestores
    obtain ⟨hrestored, hafter, _⟩ := hrestores
    exact Routine.program_fresh hstack (hrestored.nesting.trans hnesting) (hrestored.depth.trans hdepth) hafter

/-- A call that fails, followed by an expression that evaluates. -/
def stumbling : Registers := .fresh (tokenize "call f('a') 'b'") (.ofConfig {})

/-- One call and three levels of nesting are enough for it. -/
def narrow : Settings := ⟨1, 3, fun _ => .echo, 0, .insideBuffer⟩

theorem control_state_restored_of_stumbling :
    ∃ error after, Routine.program.onRegisters 4 narrow stumbling = .failed error after ∧
      stumbling.Restored after ∧
      Ending.Alike narrow.landings after.machine.pos (Value.Rest narrow.landings)
        (Routine.program.onRegisters 4 narrow after)
        (Routine.program.onRegisters 4 narrow
          (.fresh (restFrom after.tokens after.machine.pos) after.machine)) := by
  have hready : stumbling.Ready narrow := by
    refine ⟨fun host earlier code value hanswer => ?_, ⟨fun _ => .none, rfl, rfl, rfl⟩, Nat.zero_le _⟩
    cases hanswer
    exact .string code
  obtain ⟨hroutines, _, _, _, hagain⟩ := @control_state_restored narrow 4 (by decide)
  have horder := Registers.inOrder_of_idle rfl rfl hready
  have hfails : (match Routine.program.onRegisters 4 narrow stumbling with
      | .failed _ _ => true
      | _ => false) = true := by decide +kernel
  split at hfails
  · rename_i error after hfailed
    have hrestores := (hroutines .program stumbling horder hready trivial).1
    rw [hfailed] at hrestores
    exact ⟨error, after, hfailed, hrestores.1, hagain stumbling after error rfl rfl hready hfailed⟩
  · cases hfails

end Rewind
