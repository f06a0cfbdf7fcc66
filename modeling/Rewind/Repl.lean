import Rewind.Session
import Rewind.Text.Blank

namespace Rewind.Repl

/-- The first thing that the interactive loop prints. -/
def greeting : String := "qs language v0.1.0\n"

/-- What is printed for a line that is not text. -/
def undecodable : String :=
  "Error: Io(Error \x7b kind: InvalidData, message: \"stream did not contain valid UTF-8\" \x7d)\n"

/-- What a line does: the loop goes on with a session, or ends. Both print
    something first. -/
inductive Reaction where
  | goOn (printed : String) (session : Session)
  | stop (printed : String)

/-- What is printed for the result of a line. -/
def report : Except Error Value → String
  | .ok value => value.code ++ "\n"
  | .error error => "Error: " ++ error.message ++ "\n"

/-- Reacts to a line, which comes with its line end. Blank lines do nothing, `exit`
    and `quit` end the loop, `:env` lists the symbol table, and any other line is
    run. -/
def react (session : Session) (hosts : Hosts) (patience : Nat) (line : String) : Option Reaction :=
  let command := String.ofList (Text.trim line.toList)
  if command == "exit" || command == "quit" then some (.stop "")
  else if command.isEmpty then some (.goOn "" session)
  else if command == ":env" then some (.goOn session.env.listing session)
  else (session.run hosts patience line session.limits).map fun (result, session) =>
    .goOn (report result) session

/-- Reacts to a line of bytes. One that is not text ends the loop. -/
def reactBytes (session : Session) (hosts : Hosts) (patience : Nat) (line : ByteArray) : Option Reaction :=
  match String.fromUTF8? line with
  | some line => react session hosts patience line
  | none => some (.stop undecodable)

/-- What is printed for a sequence of lines, until one of them ends the loop. -/
def transcript (session : Session) (hosts : Hosts) (patience : Nat) : (lines : List ByteArray) → Option String
  | [] => some ""
  | line :: lines => do
    match ← reactBytes session hosts patience line with
    | .stop printed => some printed
    | .goOn printed session => return printed ++ (← transcript session hosts patience lines)

/-- Splits bytes into lines, each with its line end. `line` is what has been read
    of the current one. -/
def linesFrom (line : ByteArray) : (bytes : List UInt8) → List ByteArray
  | [] => if line.isEmpty then [] else [line]
  | byte :: bytes =>
    if byte == 10 then line.push byte :: linesFrom .empty bytes else linesFrom (line.push byte) bytes

/-- The lines of an input. -/
def lines (input : ByteArray) : List ByteArray := linesFrom .empty input.data.toList

end Rewind.Repl
