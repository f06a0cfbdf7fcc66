import Rewind.Shell.Format
import Rewind.Shell.Redirect
import Rewind.Shell.Tool.Table

namespace Rewind.Shell.Sh

/-- Reads a status from an argument. -/
def statusOf (name text : String) : Sh Nat := do
  match text.toNat? with
  | some n => return n % 256
  | none => fatal (name ++ ": Illegal number: " ++ text)

/-- The signal that text names, by number or by name. -/
def signal? (text : String) : Option Nat :=
  match text.toNat? with
  | some n => if n ≤ 64 then some n else none
  | none =>
    let name := if "SIG".toList.isPrefixOf text.toList then String.ofList (text.toList.drop 3) else text
    signals.lookup name

/-- Sends a signal to processes. Only this one is known. -/
def sendSignal (signal : Nat) (targets : List String) : Sh Unit := do
  if targets.isEmpty then
    complain "kill: Usage: kill [-s sigspec | -signum | -sigspec] [pid | job]... or\nkill -l [exitstatus]"
    setStatus 2
  else
    setStatus 0
    for target in targets do
      if target == processId || target == "0" then
        unless harmless.contains signal do throw (.killed signal)
      else if (Arithmetic.integer? target).isSome then
        complain "kill: No such process\n"
        setStatus 1
      else fatal ("kill: Illegal number: " ++ target)

/-- Sends the signal with this name. -/
def sendNamed (name : String) (targets : List String) : Sh Unit :=
  match signal? name with
  | some signal => sendSignal signal targets
  | none => fatal ("kill: Illegal option -" ++ String.ofList (name.toList.take 1))

/-- `kill`, with a signal or without. -/
def kill (arguments : List String) : Sh Unit := do
  match arguments with
  | "-s" :: name :: targets => sendNamed name targets
  | "--" :: targets => sendSignal 15 targets
  | first :: targets =>
    match first.toList with
    | '-' :: name => sendNamed (String.ofList name) targets
    | _ => sendSignal 15 (first :: targets)
  | [] => sendSignal 15 []

/-- Gives each variable a word, and the last one all that is left. -/
def assignWords (isBlank : Char → Bool) (rest : List Char) : (names : List String) → Sh Unit
  | [] => pure ()
  | [name] => setVariable name (String.ofList ((rest.reverse.dropWhile isBlank).reverse))
  | name :: names => do
    let word := rest.takeWhile (!isBlank ·)
    setVariable name (String.ofList word)
    assignWords isBlank ((rest.drop word.length).dropWhile isBlank) names

/-- `read`: takes a line apart into variables. -/
def readVariables (arguments : List String) : Sh Unit := do
  let (raw, names) := match arguments with
    | "-r" :: names => (true, names)
    | names => (false, names)
  let text ← pending 0
  let line := text.takeWhile (· != '\n')
  let complete := line.length < text.length
  skip 0 (if complete then line.length + 1 else line.length)
  let line := if raw then line else line.filter (· != '\\')
  let separators ← separators
  let isBlank (c : Char) : Bool := separators.contains c
  let trimmed := line.dropWhile isBlank
  assignWords isBlank trimmed names
  setStatus (if complete then 0 else 1)

/-- The switches of a shell, by their letters and names. -/
def switches : List (Char × String) :=
  [('e', "errexit"), ('f', "noglob"), ('I', "ignoreeof"), ('i', "interactive"), ('m', "monitor"), ('n', "noexec"),
    ('s', "stdin"), ('x', "xtrace"), ('v', "verbose"), ('V', "vi"), ('E', "emacs"), ('C', "noclobber"),
    ('a', "allexport"), ('b', "notify"), ('u', "nounset"), ('l', "nolog"), ('d', "debug")]

/-- Turns a switch on or off. -/
def switch (letter : Char) (value : Bool) : Sh Unit :=
  modify fun state =>
    { state with
      failureEnds := if letter == 'e' then value else state.failureEnds
      unsetFails := if letter == 'u' then value else state.unsetFails
      namesFiles := if letter == 'f' then !value else state.namesFiles }

/-- Turns switches on or off by their letters. -/
def switchAll (value : Bool) (letters : List Char) : Sh Unit := do
  for letter in letters do
    if (switches.lookup letter).isSome then switch letter value
    else fatal ("set: Illegal option -" ++ String.singleton letter)

/-- Turns a switch on or off by its name. -/
def switchNamed (value : Bool) (name : String) : Sh Unit := do
  match switches.find? (·.2 == name) with
  | some (letter, _) => switch letter value
  | none => fatal ("set: Illegal option -o " ++ name)

/-- `set`: switches, and new arguments. -/
def setOptions : (arguments : List String) → Sh Unit
  | [] => setStatus 0
  | "--" :: arguments => do
    modify fun state => { state with arguments }
    setStatus 0
  | "-o" :: name :: rest => do
    switchNamed true name
    setOptions rest
  | "+o" :: name :: rest => do
    switchNamed false name
    setOptions rest
  | first :: rest => do
    match first.toList with
    | '-' :: letters =>
      switchAll true letters
      setOptions rest
    | '+' :: letters =>
      switchAll false letters
      setOptions rest
    | _ =>
      modify fun state => { state with arguments := first :: rest }
      setStatus 0

/-- Splits `name=value`. -/
def splitAssignment (text : String) : String × Option String :=
  let name := text.toList.takeWhile (· != '=')
  if name.length < text.length then
    (String.ofList name, some (String.ofList (text.toList.drop (name.length + 1))))
  else (text, none)

/-- Gives variables the values that come with their names. -/
def declare (arguments : List String) : Sh Unit := do
  for argument in arguments do
    match splitAssignment argument with
    | (name, some value) => setVariable name value
    | (_, none) => pure ()
  setStatus 0

/-- `export`: lets programs see variables. -/
def exportAll (arguments : List String) : Sh Unit := do
  declare arguments
  for argument in arguments do
    exportVariable (splitAssignment argument).1

/-- `test`, whose complaints name it. -/
def test (name : String) (words : List String) : Sh Unit := do
  match Test.answer (viewOf (← get).files) words with
  | .ok answer => setStatus (if answer then 0 else 1)
  | .error problem =>
    complain (name ++ ": " ++ problem)
    setStatus 2

/-- `printf`. -/
def printf (arguments : List String) : Sh Unit := do
  match arguments with
  | [] =>
    complain "printf: usage: printf format [arg ...]"
    setStatus 2
  | format :: arguments =>
    let (printed, complaints, status) := Format.printf format arguments
    write 1 printed
    for complaint in complaints do
      complain ("printf: " ++ complaint)
    setStatus status

/-- The levels of loops that an argument asks for. -/
def levels (arguments : List String) : Nat := (arguments.head?.bind (·.toNat?)).getD 1

/-- `cd`: goes to another directory, by default to that of the user. -/
def changeDirectory (arguments : List String) : Sh Unit := do
  let back := arguments.head? == some "-"
  let path ← if back then do pure ((← value? "OLDPWD").getD "")
    else pure (arguments.headD ((← value? "HOME").getD ""))
  match (← get).files.find path with
  | .ok (steps, .directory) =>
    let before := (← get).files.current
    modify fun state => { state with files := { state.files with current := steps } }
    setVariable "OLDPWD" (Files.pathOf before)
    setVariable "PWD" (Files.pathOf steps)
    if back then write 1 (Files.pathOf steps ++ "\n")
    setStatus 0
  | _ =>
    complain ("cd: can't cd to " ++ path)
    setStatus 2

/-- Commands that the shell runs itself and that only need their arguments. -/
def builtin? : String → Option (List String → Sh Unit)
  | ":" => some fun _ => setStatus 0
  | "true" => some fun _ => setStatus 0
  | "false" => some fun _ => setStatus 1
  | "echo" => some fun arguments => do
    write 1 (Format.echo arguments)
    setStatus 0
  | "printf" => some printf
  | "test" => some (test "test")
  | "[" => some fun arguments => do
    if arguments.getLast? == some "]" then test "[" arguments.dropLast
    else
      complain "[: missing ]"
      setStatus 2
  | "exit" => some fun arguments => do
    match arguments with
    | [] => throw (.exit (← get).status)
    | status :: _ => throw (.exit (← statusOf "exit" status))
  | "return" => some fun arguments => do
    match arguments with
    | [] => throw (.comeBack (← get).status)
    | status :: _ => throw (.comeBack (← statusOf "return" status))
  | "break" => some fun arguments => do
    setStatus 0
    if 0 < (← get).loops then throw (.leaveLoops (levels arguments))
  | "continue" => some fun arguments => do
    setStatus 0
    if 0 < (← get).loops then throw (.nextRound (levels arguments))
  | "set" => some setOptions
  | "shift" => some fun arguments => do
    let n := levels arguments
    if (← get).arguments.length < n then fatal "shift: can't shift that many"
    modify fun state => { state with arguments := state.arguments.drop n }
    setStatus 0
  | "unset" => some fun arguments => do
    modify fun state =>
      { state with
        bindings := state.bindings.filter fun (name, _) => !arguments.contains name
        exported := state.exported.filter fun name => !arguments.contains name
        functions := if arguments.head? == some "-f" then
            state.functions.filter fun (name, _) => !arguments.contains name
          else state.functions }
    setStatus 0
  | "export" => some exportAll
  | "readonly" => some declare
  | "local" => some fun arguments => do
    match (← get).locals with
    | none => fatal "local: not in a function"
    | some _ =>
      for argument in arguments do
        let (name, _) := splitAssignment argument
        let before ← value? name
        modify fun state => { state with locals := state.locals.map ((name, before) :: ·) }
      declare arguments
  | "read" => some readVariables
  | "kill" => some kill
  | "wait" => some fun _ => setStatus 0
  | "cd" => some changeDirectory
  | "pwd" => some fun _ => do
    write 1 (Files.pathOf (← get).files.current ++ "\n")
    setStatus 0
  | "umask" => some fun _ => do
    write 1 "0022\n"
    setStatus 0
  | "trap" => some fun arguments => do
    match arguments with
    | [action, "EXIT"] | [action, "0"] => modify fun state => { state with atExit := some action }
    | _ => pure ()
    setStatus 0
  | _ => none

/-- Runs a program on the standard input of the shell. -/
def runTool (name : String) (tool : Tool) (arguments : List String) : Sh Unit := do
  let state ← get
  let node := match state.descriptors.lookup 0 with
    | some handle => (state.handles[handle]?).bind (·.node)
    | none => none
  let named := node.filter fun node => state.files.entries.any fun (_, entry) =>
    match entry with
    | .file other _ => other == node
    | _ => false
  let stdin ← if Tool.inputless.contains name then pure "" else readAll 0
  let inputSize := named.map fun node => (state.files.contents node).length
  let ((), job) := StateT.run (tool arguments) { files := (← get).files, stdin, inputSize }
  modify fun state => { state with files := job.files }
  let output := job.output.reverse
  let output := if Tool.unbuffered.contains name then output
    else output.filter (·.1) ++ output.filter (!·.1)
  for (isError, text) in output do
    write (if isError then 2 else 1) text
  setStatus job.status

/-- Prints words the way the program does that only has the name of the shell's own
    command. -/
def plainEcho (arguments : List String) : Sh Unit := do
  match arguments with
  | "-n" :: rest => write 1 (" ".intercalate rest)
  | "-e" :: rest => write 1 (Format.echo rest)
  | rest => write 1 (" ".intercalate rest ++ "\n")
  setStatus 0

/-- Prints the values of variables that programs see, or all of these. -/
def printVariables (names : List String) : Sh Unit := do
  let seen ← surroundings
  setStatus 0
  if names.isEmpty then
    for (name, value) in seen.reverse do
      write 1 (name ++ "=" ++ value ++ "\n")
  for name in names do
    match seen.lookup name with
    | some value => write 1 (value ++ "\n")
    | none => setStatus 1

/-- The programs that look at the shell they are started by, or that also are
    commands of it. -/
def twin? : String → Option (List String → Sh Unit)
  | "printenv" => some printVariables
  | "echo" => some plainEcho
  | "printf" => some printf
  | "test" => some (test "test")
  | "[" => builtin? "["
  | "true" => builtin? "true"
  | "false" => builtin? "false"
  | "pwd" => builtin? "pwd"
  | _ => none

/-- The programs of the system, by their names. -/
def program? (name : String) : Option (List String → Sh Unit) :=
  match Tool.named? name with
  | some tool => some (runTool name tool)
  | none => twin? name

/-- Runs one of the programs, or a file as a script. What is not known is not
    found. -/
def external (programs : String → Option (List String → Sh Unit)) (runFile : String → List String → Sh Unit)
    (name : String) (arguments : List String) : Sh Unit := do
  let refuse (text : String) (status : Nat) : Sh Unit := do
    complain (name ++ ": " ++ text)
    setStatus status
  if name.isEmpty then refuse "Permission denied" 127
  else if name.toList.contains '/' then
    let files := (← get).files
    match files.find name with
    | .error .missing => refuse "not found" 127
    | .error fault => refuse (faultWords "not found" fault) 126
    | .ok (["usr", "bin", base], .file _ _) =>
      match programs base with
      | some program => program arguments
      | none => refuse "not found" 127
    | .ok (_, .file node true) => runFile (files.contents node) (name :: arguments)
    | .ok _ => refuse "Permission denied" 126
  else
    match programs name with
    | some program => program arguments
    | none => refuse "not found" 127

end Rewind.Shell.Sh
