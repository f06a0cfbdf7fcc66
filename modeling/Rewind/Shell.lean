import Rewind.Shell.Run
import Rewind.Text.Bytes

namespace Rewind.Shell

/-- How a shell ended. -/
inductive Finish where
  | exited (status : Nat)
  | killed (signal : Nat)

namespace Finish

/-- The words for it in a diagnostic. -/
def text : Finish → String
  | exited status => "exit status: " ++ toString status
  | killed signal =>
    let name := match signals.find? (·.2 == signal) with
      | some (name, _) => " (SIG" ++ name ++ ")"
      | none => ""
    "signal: " ++ toString signal ++ name

end Finish

/-- What a shell leaves behind. -/
structure Output where
  finish : Finish
  stdout : ByteArray
  stderr : ByteArray
  files : Files

/-- A shell that has nothing to read, and whose output is kept. -/
def initial (files : Files) : State :=
  let (stdout, files) := files.store ""
  let (stderr, files) := files.store ""
  { descriptors := [(0, 0), (1, 1), (2, 2)]
    handles := #[{ node := none }, { node := some stdout }, { node := some stderr }]
    bindings := [("HOME", "/root"), ("PWD", Files.pathOf files.current)]
    exported := ["HOME", "PWD"]
    files }

/-- Runs code. -/
def run (files : Files) (code : String) : Output :=
  let start := initial files
  let (outcome, state) := StateT.run (ExceptT.run (Sh.script (Text.widen code))) start
  let output (handle : Nat) : ByteArray :=
    match (start.handles[handle]?).bind (·.node) with
    | some node => Text.toBytes (state.files.contents node)
    | none => .empty
  let finish := match outcome with
    | .error (.killed signal) => .killed signal
    | .error (.exit status) => .exited status
    | _ => .exited state.status
  { finish, stdout := output 1, stderr := output 2
    files := { state.files with current := files.current } }

end Rewind.Shell
