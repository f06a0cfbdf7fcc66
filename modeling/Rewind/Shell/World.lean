import Rewind.Files
import Rewind.Shell.Script

namespace Rewind.Shell

/-- An open file: which contents it has, and how far it has been read. One without
    contents is empty, and drops what is written to it. -/
structure Handle where
  node : Option Nat
  position : Nat := 0

/-- What a shell knows and changes. Text holds one character below 256 for each
    byte. -/
structure State where
  /-- What the script is called by. -/
  name : String := "sh"
  bindings : List (String × String) := []
  /-- The variables that programs are given. -/
  exported : List String := []
  /-- Inside a function, the variables that are its own, with the values to go
      back to. -/
  locals : Option (List (String × Option String)) := none
  /-- How many loops are being run. -/
  loops : Nat := 0
  functions : List (String × Command) := []
  arguments : List String := []
  /-- How the last command ended. -/
  status : Nat := 0
  /-- How the last command ended whose output became part of the current one. -/
  substituted : Option Nat := none
  /-- The handle behind each descriptor. -/
  descriptors : List (Nat × Nat) := []
  handles : Array Handle := #[]
  files : Files := {}
  /-- The line of the script that is being run. -/
  line : Nat := 1
  /-- Whether a command that fails ends the script. -/
  failureEnds : Bool := false
  /-- Whether a parameter that is not set is a failure. -/
  unsetFails : Bool := false
  /-- Whether a pattern stands for the files that match it. -/
  namesFiles : Bool := true
  /-- Whether the outcome of the current command is being tested. -/
  tested : Bool := false
  /-- What to run at the end. -/
  atExit : Option String := none

/-- Why commands are not run to their end. -/
inductive Stop where
  | exit (status : Nat)
  | comeBack (status : Nat)
  | leaveLoops (levels : Nat)
  | nextRound (levels : Nat)
  | killed (signal : Nat)

/-- A computation of a shell. -/
abbrev Sh := ExceptT Stop (StateM State)

/-- Signals by name. -/
def signals : List (String × Nat) :=
  [("HUP", 1), ("INT", 2), ("QUIT", 3), ("ILL", 4), ("TRAP", 5), ("ABRT", 6), ("BUS", 7), ("FPE", 8),
    ("KILL", 9), ("USR1", 10), ("SEGV", 11), ("USR2", 12), ("PIPE", 13), ("ALRM", 14), ("TERM", 15),
    ("STKFLT", 16), ("CHLD", 17), ("CONT", 18), ("STOP", 19), ("TSTP", 20), ("TTIN", 21), ("TTOU", 22),
    ("URG", 23), ("XCPU", 24), ("XFSZ", 25), ("VTALRM", 26), ("PROF", 27), ("WINCH", 28), ("IO", 29),
    ("PWR", 30), ("SYS", 31)]

/-- Signals that do not end a process. -/
def harmless : List Nat := [0, 17, 18, 23, 28]

namespace Sh

/-- Sets how the last command ended. -/
def setStatus (status : Nat) : Sh Unit := modify fun state => { state with status }

/-- Opens contents. -/
def openNode (node : Option Nat) : Sh Nat := do
  let handle := (← get).handles.size
  modify fun state => { state with handles := state.handles.push { node } }
  return handle

/-- Makes contents that have no name. -/
def newNode (text : String) : Sh Nat := do
  let (node, files) := (← get).files.store text
  modify fun state => { state with files }
  return node

/-- The handle behind a descriptor. -/
def handle? (descriptor : Nat) : Sh (Option Nat) := do return (← get).descriptors.lookup descriptor

/-- Makes a descriptor lead to a handle. -/
def connect (descriptor handle : Nat) : Sh Unit :=
  modify fun state => { state with descriptors := (descriptor, handle) :: state.descriptors }

/-- Makes a descriptor lead nowhere. -/
def disconnect (descriptor : Nat) : Sh Unit :=
  modify fun state => { state with descriptors := state.descriptors.filter (·.1 != descriptor) }

/-- Writes text. -/
def write (descriptor : Nat) (text : String) : Sh Unit := do
  match ← handle? descriptor with
  | none => pure ()
  | some handle =>
    modify fun state =>
      match state.handles[handle]? with
      | some { node := some node, .. } => { state with files := state.files.modify node (· ++ text) }
      | _ => state

/-- What a descriptor still has to be read. -/
def pending (descriptor : Nat) : Sh (List Char) := do
  let state ← get
  match state.descriptors.lookup descriptor with
  | none => return []
  | some handle =>
    match state.handles[handle]? with
    | some { node := some node, position } => return ((state.files.contents node).toList).drop position
    | _ => return []

/-- Moves a descriptor past `n` bytes. -/
def skip (descriptor n : Nat) : Sh Unit := do
  match ← handle? descriptor with
  | none => pure ()
  | some handle =>
    modify fun state =>
      { state with handles := state.handles.modify handle fun handle =>
          { handle with position := handle.position + n } }

/-- Reads all that is left. -/
def readAll (descriptor : Nat) : Sh String := do
  let text ← pending descriptor
  skip descriptor text.length
  return String.ofList text

/-- Prints a complaint of the shell itself. -/
def complain (text : String) : Sh Unit := do
  let state ← get
  write 2 (state.name ++ ": " ++ toString state.line ++ ": " ++ text ++ "\n")

/-- Complains, and ends the script. -/
def fatal {α : Type} (text : String) : Sh α := do
  complain text
  throw (.exit 2)

/-- Runs `body`, and tells how it was stopped, if it was. -/
def catching (body : Sh Unit) : Sh (Option Stop) :=
  tryCatch (do
    body
    pure none) fun stop => pure (some stop)

/-- Runs `body` on a copy of the shell. Only what it does to files stays. -/
def isolated (body : Sh Unit) : Sh Unit := do
  let before ← get
  modify fun state => { state with atExit := none }
  let stop ← catching body
  let after ← get
  set { before with
    handles := after.handles
    files := { after.files with current := before.files.current }
    status := after.status }
  match stop with
  | none => pure ()
  | some (.exit status) => setStatus status
  | some (.comeBack status) => setStatus status
  | some (.killed signal) => throw (.killed signal)
  | some _ => pure ()

/-- What `body` prints. -/
def capture (body : Sh Unit) : Sh String := do
  let node ← newNode ""
  let handle ← openNode (some node)
  isolated do
    connect 1 handle
    body
  modify fun state => { state with substituted := some state.status }
  return (← get).files.contents node

/-- The value of a variable. -/
def value? (name : String) : Sh (Option String) := do return (← get).bindings.lookup name

/-- Gives a variable a value. -/
def setVariable (name value : String) : Sh Unit :=
  modify fun state =>
    { state with bindings := (name, value) :: state.bindings.filter (·.1 != name) }

/-- Lets programs see a variable. -/
def exportVariable (name : String) : Sh Unit :=
  modify fun state => { state with exported := name :: state.exported.filter (· != name) }

/-- What programs see of the variables. -/
def surroundings : Sh (List (String × String)) := do
  let state ← get
  return state.bindings.filter fun (name, _) => state.exported.contains name

/-- Takes a variable away. -/
def unsetVariable (name : String) : Sh Unit :=
  modify fun state => { state with bindings := state.bindings.filter (·.1 != name) }

end Sh

end Rewind.Shell
