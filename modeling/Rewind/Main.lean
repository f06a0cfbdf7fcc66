import Rewind.Files.Standard
import Rewind.Host.Shell
import Rewind.Program

namespace Rewind.Main

/-- The rounds that a loop may take, more than can be run. -/
def patience : Nat := 0x4000000000000000

/-- The hosts of the command line: a shell behind every native. -/
def hosts : Hosts := fun _ => .shell .bare

/-- Why the system could not read a file. -/
def failureOf : IO.Error → PathFault
  | .inappropriateType _ 20 _ => .notDirectory
  | .inappropriateType _ _ _ => .isDirectory
  | .invalidArgument _ 36 _ => .nameTooLong
  | _ => .missing

/-- The bytes of a file. -/
def read (path : String) : IO (Except PathFault ByteArray) := do
  try return .ok (← IO.FS.readBinFile path)
  catch error => return .error (failureOf error)

/-- Tells events on the error stream. -/
def tell (events : Array Event) : IO Unit := do
  for event in events do
    if event.level == .debug then IO.eprintln event.line

/-- Reads a line of bytes with its end. -/
partial def readLine (stdin : IO.FS.Stream) (line : ByteArray) : IO ByteArray := do
  let byte ← stdin.read 1
  if byte.isEmpty then return line
  let line := line ++ byte
  if byte.data.toList == [10] then return line else readLine stdin line

/-- Reacts to lines until the input or the loop ends. -/
partial def interact (verbose : Bool) (stdin : IO.FS.Stream) (session : Session) : IO Unit := do
  let line ← readLine stdin .empty
  if line.isEmpty then return
  match Repl.reactBytes session hosts patience line with
  | none => return
  | some (.stop printed) => IO.print printed
  | some (.goOn printed after) =>
    if verbose then tell (after.machine.log.extract session.machine.log.size after.machine.log.size)
    IO.print printed
    (← IO.getStdout).flush
    interact verbose stdin after

/-- Prints what the program prints, and ends the way it ends. -/
def finish (verbose : Bool) (report : Program.Report) : IO UInt32 := do
  if verbose then tell report.log
  IO.print report.stdout
  IO.eprint report.stderr
  return report.code.toUInt32

/-- Runs the command line. -/
def run (arguments : List String) : IO UInt32 := do
  match CommandLine.parse arguments with
  | .start options =>
    match options.file with
    | none =>
      IO.print Repl.greeting
      (← IO.getStdout).flush
      interact options.verbose (← IO.getStdin) (.ofConfig options.config)
      return 0
    | some path =>
      match Program.runScript options.config hosts patience path (← read path) with
      | some report => finish options.verbose report
      | none => return 1
  | _ =>
    match Program.run arguments (fun _ => .error .missing) .empty hosts patience with
    | some report => finish false report
    | none => return 1

end Rewind.Main

def main (arguments : List String) : IO UInt32 := Rewind.Main.run arguments
