import Rewind.CommandLine
import Rewind.Files
import Rewind.Repl

namespace Rewind.Program

/-- Why a script cannot be read. -/
inductive ReadFailure where
  | path (fault : PathFault)
  | notText

/-- The words of a diagnostic. -/
def ReadFailure.message : ReadFailure → String
  | path fault => fault.words ++ " (os error " ++ toString fault.number ++ ")"
  | notText => "stream did not contain valid UTF-8"

/-- What the program prints, and how it ends. -/
structure Report where
  code : Nat
  stdout : String := ""
  stderr : String := ""
  /-- What happened on the way. -/
  log : Array Event := #[]

/-- The text of a script. -/
def decode (contents : ByteArray) : Except ReadFailure String :=
  match String.fromUTF8? contents with
  | some source => .ok source
  | none => .error .notText

/-- What is printed about a failed script. -/
def complaint (source : String) (error : Error) : String :=
  let near := match error.near? source with
    | some text => "  near `" ++ text ++ "`\n"
    | none => ""
  "Error: " ++ error.message ++ "\n" ++ near

/-- Runs a script, and lists the bindings that it leaves. -/
def runScript (config : Config) (hosts : Hosts) (patience : Nat) (path : String)
    (contents : Except PathFault ByteArray) : Option Report :=
  match (contents.mapError ReadFailure.path).bind decode with
  | .error failure =>
    some { code := 1, stderr := "Error: could not read " ++ path ++ ": " ++ failure.message ++ "\n" }
  | .ok source =>
    ((Interpreter.ofConfig source config).interpret hosts patience).map fun (result, after) =>
      let log := after.machine.log
      match result with
      | .ok env => { code := 0, stdout := env.listing, log }
      | .error error => { code := 1, stderr := complaint source error, log }

/-- Runs the program on its arguments, the files that it can read and its standard
    input. -/
def run (arguments : List String) (read : String → Except PathFault ByteArray) (stdin : ByteArray)
    (hosts : Hosts) (patience : Nat) : Option Report :=
  match CommandLine.parse arguments with
  | .version => some { code := 0, stdout := CommandLine.versionText }
  | .help => some { code := 0, stdout := CommandLine.helpText }
  | .misuse => some { code := 2, stderr := CommandLine.misuseText }
  | .start options =>
    match options.file with
    | some path => runScript options.config hosts patience path (read path)
    | none =>
      (Repl.transcript (.ofConfig options.config) hosts patience (Repl.lines stdin)).map fun printed =>
        { code := 0, stdout := Repl.greeting ++ printed }

end Rewind.Program
