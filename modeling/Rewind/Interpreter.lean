import Rewind.Eval.Expression

namespace Rewind

/-- A source in the middle of being run. -/
structure Interpreter where
  tokens : Array Located
  limits : Limits
  machine : Machine

namespace Interpreter

/-- Begins a source on a machine that earlier sources have used. Their functions
    stay callable. -/
def onMachine (source : String) (machine : Machine) (limits : Limits) : Interpreter where
  tokens := tokenize source
  limits
  machine := { machine with pos := 0, deepestCall := 0, deepestNesting := 0 }

/-- Begins a source with the bindings of a configuration. -/
def ofConfig (source : String) (config : Config) : Interpreter :=
  onMachine source (.ofConfig config) config.limits

/-- Evaluates the rest of the source and yields its last value, nil when nothing
    is left. After a failure the interpreter stands where it stopped, with every
    binding made so far. There is no result when a loop runs out of `patience`. -/
def run (interpreter : Interpreter) (hosts : Hosts) (patience : Nat) :
    Option (Except Error Value × Interpreter) :=
  let frame : Frame :=
    { tokens := interpreter.tokens, limits := interpreter.limits, hosts, depth := 0, patience }
  match Eval.program frame interpreter.machine with
  | .done value machine => some (.ok value, { interpreter with machine })
  | .failed error machine => some (.error error, { interpreter with machine })
  | .unfinished => none

/-- Evaluates the rest of the source for its bindings. -/
def interpret (interpreter : Interpreter) (hosts : Hosts) (patience : Nat) :
    Option (Except Error Env × Interpreter) :=
  (interpreter.run hosts patience).map fun (result, after) => (result.map fun _ => after.machine.env, after)

end Interpreter

end Rewind
