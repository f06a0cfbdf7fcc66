import Rewind.Interpreter

namespace Rewind

/-- One symbol table that sources are run against, one after another. -/
structure Session where
  machine : Machine
  limits : Limits
  /-- Symbol tables put aside, to come back to. -/
  saved : Array Env := #[]

namespace Session

/-- A session with the bindings of a configuration. -/
def ofConfig (config : Config) : Session where
  machine := .ofConfig config
  limits := config.limits

/-- What can be done in a session. -/
inductive Command where
  /-- Runs a source, under limits of its own if it has some. -/
  | run (source : String) (limits : Option Limits)
  | set (name : String) (value : Value)
  | get (name : String)
  /-- Compares what two names are bound to. -/
  | same (left right : String)
  /-- Puts the symbol table aside. -/
  | snapshot
  /-- Goes back to a symbol table that was put aside. -/
  | restore (number : Nat)
  | info

/-- What a command tells. -/
inductive Reply where
  | ran (result : Except Error Value)
  | size (n : Nat)
  | got (value : Option Value)
  | same (value : Bool)
  | saved (number : Nat)
  | restored
  | info

/-- Whether two look-ups agree: both find nothing, or equal values. -/
def sameValues : Option Value → Option Value → Bool
  | some left, some right => left.same right
  | none, none => true
  | _, _ => false

/-- Runs a source. The bindings that it makes stay, whether it succeeds or not. -/
def run (session : Session) (hosts : Hosts) (patience : Nat) (source : String)
    (limits : Limits) : Option (Except Error Value × Session) :=
  ((Interpreter.onMachine source session.machine limits).run hosts patience).map fun (result, after) =>
    (result, { session with machine := after.machine })

/-- The current symbol table. -/
def env (session : Session) : Env := session.machine.env

/-- Does one thing. There is no reply when a run does not end within `patience`. -/
def step (session : Session) (hosts : Hosts) (patience : Nat) : Command → Option (Reply × Session)
  | .run source limits =>
    (session.run hosts patience source (limits.getD session.limits)).map fun (result, session) =>
      (.ran result, session)
  | .set name value =>
    let session := { session with machine := session.machine.bind name value }
    some (.size session.env.size, session)
  | .get name => some (.got (session.env.get? name), session)
  | .same left right =>
    some (.same (sameValues (session.env.get? left) (session.env.get? right)), session)
  | .snapshot =>
    some (.saved session.saved.size, { session with saved := session.saved.push session.env })
  | .restore number =>
    let env := session.saved[number]?.getD session.env
    some (.restored, { session with machine := { session.machine with env } })
  | .info => some (.info, session)

end Session

end Rewind
