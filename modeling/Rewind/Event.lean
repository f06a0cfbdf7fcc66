import Rewind.Value

namespace Rewind

/-- Something that a run does and that its log records. -/
inductive Event where
  /-- A name was bound. -/
  | bound (name : String) (value : Value)
  /-- A function is called, with so many arguments. -/
  | called (f : Function) (arguments : Nat)
  /-- A function was defined. -/
  | defined (f : Function)
  /-- A `for` loop ended, after its body ran so many times. -/
  | forFinished (iterations : Nat)
  /-- A `while` loop ended, after its body ran so many times. -/
  | whileFinished (iterations : Nat)
  /-- Code is handed to the shell. -/
  | shellRun (code : String)

namespace Event

/-- How much detail a reader of the log has asked for. -/
inductive Level where
  | debug
  | trace
deriving DecidableEq, Repr

/-- What a log line says of one aspect of an event. -/
inductive Detail where
  | text (text : String)
  | count (n : Nat)

/-- The word for a level in a log line. -/
def Level.word : Level → String
  | debug => "DEBUG"
  | trace => "TRACE"

/-- The level at which an event is logged. -/
def level : Event → Level
  | bound _ _ => .trace
  | _ => .debug

/-- The words of a log line. -/
def message : Event → String
  | bound _ _ => "bind"
  | called _ _ => "call"
  | defined _ => "defined function"
  | forFinished _ => "for loop finished"
  | whileFinished _ => "while loop finished"
  | shellRun _ => "running shell host code"

/-- The details of a log line. -/
def details : Event → List (String × Detail)
  | bound name value => [("name", .text name), ("value", .text value.code)]
  | called f arguments => [("name", .text f.name), ("arguments", .count arguments)]
  | defined f => [("name", .text f.name), ("parameters", .text (Text.quotedList f.params))]
  | forFinished iterations => [("iterations", .count iterations)]
  | whileFinished iterations => [("iterations", .count iterations)]
  | shellRun code => [("code", .text code)]

/-- The event as a line of a log. -/
def line (event : Event) : String :=
  let detail : String × Detail → String
    | (name, .text text) => " " ++ name ++ "=" ++ text
    | (name, .count n) => " " ++ name ++ "=" ++ toString n
  event.level.word ++ " " ++ event.message ++ String.join (event.details.map detail)

end Event

end Rewind
