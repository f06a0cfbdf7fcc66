import Rewind.Shell.Builtin
import Rewind.Shell.Reader.Command

namespace Rewind.Shell.Sh

/-- Ends the script if a command failed, nothing tests it, and failures end
    scripts. -/
def checkFailure : Sh Unit := do
  let state ← get
  if state.failureEnds && !state.tested && state.status != 0 then throw (.exit state.status)

/-- Runs `body` while its outcome is being tested. -/
def testing (body : Sh Unit) : Sh Unit := do
  let before := (← get).tested
  modify fun state => { state with tested := true }
  let stop ← catching body
  modify fun state => { state with tested := before }
  match stop with
  | some stop => throw stop
  | none => pure ()

/-- Calls a function with arguments of its own. -/
def callFunction (run : Command → Sh Unit) (body : Command) (arguments : List String) : Sh Unit := do
  let before ← get
  modify fun state => { state with arguments, locals := some [], loops := 0 }
  let stop ← catching (run body)
  for (name, value) in (← get).locals.getD [] do
    match value with
    | some value => setVariable name value
    | none => unsetVariable name
  modify fun state =>
    { state with arguments := before.arguments, locals := before.locals, loops := before.loops }
  match stop with
  | none => pure ()
  | some (.comeBack status) => setStatus status
  | some stop => throw stop

/-- Runs the lines of a script, each one as soon as it has been read. -/
def runLines (run : Command → Sh Unit) : (fuel : Nat) → Input → Sh Unit
  | 0, _ => pure ()
  | fuel + 1, input => do
    match Reader.readLine? input with
    | .error fault =>
      modify fun state => { state with line := fault.line }
      fatal fault.text
    | .ok none => pure ()
    | .ok (some (command, rest)) =>
      run command
      runLines run fuel rest

/-- Runs the text of a script. -/
def runText (run : Command → Sh Unit) (text : String) : Sh Unit :=
  runLines run (text.length + 1) { rest := text.toList, line := 1 }

/-- Runs code in a shell of its own, whose end is not the end of this one, with the
    switches that letters name. -/
def runShell (run : Command → Sh Unit) (letters : List Char) (code : String) (arguments : List String) :
    Sh Unit := do
  let stop ← catching (isolated do
    let bindings ← surroundings
    modify fun state =>
      { state with
        name := arguments.head?.getD "sh", arguments := arguments.drop 1, bindings, functions := [], locals := none
        loops := 0, status := 0, line := 1, failureEnds := false, unsetFails := false, namesFiles := true
        tested := false }
    switchAll true letters
    runText run code)
  match stop with
  | some (.killed signal) =>
    if signal == 9 then write 2 "Killed\n" else if signal == 15 then write 2 "Terminated\n"
    setStatus (128 + signal)
  | some stop => throw stop
  | none => pure ()

/-- Complains as a shell that does not even begin. -/
def refuseStart (text : String) : Sh Unit := do
  write 2 ("sh: 0: " ++ text ++ "\n")
  setStatus 2

/-- `sh`: runs code, a file, or else what can be read. Letters turn switches on, and
    one of them says that code follows. -/
def startShell (run : Command → Sh Unit) (letters : List Char) : (arguments : List String) → Sh Unit
  | [] => do
    if letters.contains 'c' then refuseStart "-c requires an argument"
    else runShell run letters (← readAll 0) []
  | first :: rest => do
    match first.toList with
    | '-' :: more => startShell run (letters ++ more) rest
    | _ =>
      if letters.contains 'c' then runShell run (letters.filter (· != 'c')) first rest
      else
        let files := (← get).files
        match files.find first with
        | .ok (_, .file node _) => runShell run letters (files.contents node) (first :: rest)
        | .ok _ => setStatus 0
        | .error fault => refuseStart ("cannot open " ++ first ++ ": " ++ faultWords "No such file" fault)

/-- Runs a program that starts no others but shells. -/
def externalOnly (run : Command → Sh Unit) : (name : String) → (arguments : List String) → Sh Unit :=
  external (fun name => if name == "sh" then some (startShell run []) else program? name) (runShell run [])

/-- Groups of `n` items each. -/
def groupsOf (n : Nat) : (fuel : Nat) → List String → List (List String)
  | 0, _ => []
  | fuel + 1, items =>
    if items.isEmpty then [] else items.take n :: groupsOf n fuel (items.drop n)

/-- How `xargs` deals out what it reads. -/
inductive Dealing where
  | together
  | unlessNone
  | groups (n : Nat)
  /-- Each line in place of a mark. -/
  | inPlaceOf (mark : String)

/-- Reads how to deal out, and the command. A value may stand behind its letter. -/
def Dealing.parse : (arguments : List String) → Dealing × List String
  | "-r" :: command => (.unlessNone, command)
  | "-n" :: count :: command => (.groups (count.toNat?.getD 1), command)
  | "-I" :: mark :: command => (.inPlaceOf mark, command)
  | first :: command =>
    match first.toList with
    | '-' :: 'n' :: count => (.groups ((String.ofList count).toNat?.getD 1), command)
    | '-' :: 'I' :: mark => (.inPlaceOf (String.ofList mark), command)
    | _ => (.together, first :: command)
  | [] => (.together, [])

/-- `xargs`: runs a command with what it reads as arguments. -/
def spread (start : String → List String → Sh Unit) (arguments : List String) : Sh Unit := do
  let text ← readAll 0
  let words := (Tool.wordsOf text.toList).map String.ofList
  let begin (command words : List String) : Sh Unit :=
    match command with
    | [] => start "echo" words
    | name :: first => start name (first ++ words)
  setStatus 0
  match Dealing.parse arguments with
  | (.together, command) => begin command words
  | (.unlessNone, command) => unless words.isEmpty do begin command words
  | (.groups n, command) =>
    for group in groupsOf (max 1 n) words.length words do
      begin command group
  | (.inPlaceOf mark, command) =>
    for line in Tool.linesOf text do
      begin (command.map fun word => (String.ofList line).intercalate (word.splitOn mark)) []

/-- `env`: runs a command that sees some more variables, or only these. -/
def surround (start : String → List String → Sh Unit) : (arguments : List String) → Sh Unit
  | [] => printVariables []
  | "-i" :: rest => do
    modify fun state => { state with exported := [] }
    surround start rest
  | first :: rest => do
    match splitAssignment first with
    | (name, some value) =>
      setVariable name value
      exportVariable name
      surround start rest
    | (name, none) =>
      if name.toList.contains '/' || (program? name).isSome || name == "sh" then start name rest
      else
        write 2 ("env: " ++ Tool.quote name ++ ": No such file or directory\n")
        setStatus 127

/-- The programs that start others. -/
def starters : List String := ["env", "sh", "which", "xargs"]

/-- Whether there is a program with this name. -/
def isProgram (name : String) : Bool := (program? name).isSome || starters.contains name

/-- `which`: tells where programs are. -/
def locatePrograms (names : List String) : Sh Unit := do
  setStatus (if names.isEmpty then 1 else 0)
  for name in names do
    if isProgram name then write 1 ("/usr/bin/" ++ name ++ "\n") else setStatus 1

/-- Runs a program. -/
def start (run : Command → Sh Unit) : (name : String) → (arguments : List String) → Sh Unit :=
  let programs : String → Option (List String → Sh Unit)
    | "env" => some fun arguments => isolated (surround (externalOnly run) arguments)
    | "sh" => some (startShell run [])
    | "which" => some locatePrograms
    | "xargs" => some (spread (externalOnly run))
    | name => program? name
  external programs (runShell run [])

/-- What a command is. -/
inductive Kind where
  | keyword
  | function
  | builtin
  | program
  | unknown

/-- What the command with this name is. -/
def kindOfCommand (name : String) : Sh Kind := do
  if reservedWords.contains name then return .keyword
  else if ((← get).functions.lookup name).isSome then return .function
  else if (builtin? name).isSome || ["eval", "exec", "command", "type", "."].contains name then return .builtin
  else if isProgram name then return .program
  else return .unknown

/-- `command -v`: tells how commands are found. -/
def locateCommands (names : List String) : Sh Unit := do
  setStatus 0
  for name in names do
    match ← kindOfCommand name with
    | .program => write 1 ("/usr/bin/" ++ name ++ "\n")
    | .unknown => setStatus 127
    | _ => write 1 (name ++ "\n")

/-- `type`: tells what commands are. -/
def describeCommands (names : List String) : Sh Unit := do
  setStatus 0
  for name in names do
    match ← kindOfCommand name with
    | .keyword => write 1 (name ++ " is a shell keyword\n")
    | .function => write 1 (name ++ " is a shell function\n")
    | .builtin => write 1 (name ++ " is a shell builtin\n")
    | .program => write 1 (name ++ " is /usr/bin/" ++ name ++ "\n")
    | .unknown =>
      write 1 (name ++ ": not found\n")
      setStatus 127

/-- Runs a command by its name. -/
def dispatch (run : Command → Sh Unit) (name : String) (arguments : List String) : Sh Unit := do
  let own (name : String) (arguments : List String) : Sh Unit :=
    match builtin? name with
    | some builtin => builtin arguments
    | none => start run name arguments
  match name, arguments, (← get).functions.lookup name with
  | _, _, some body => callFunction run body arguments
  | "eval", _, none =>
    setStatus 0
    runText run (" ".intercalate arguments)
  | "command", "-v" :: names, none => locateCommands names
  | "command", name :: arguments, none => own name arguments
  | "exec", name :: arguments, none =>
    own name arguments
    throw (.exit (← get).status)
  | ".", path :: _, none =>
    let state ← get
    match state.files.find path with
    | .ok (_, .file node _) => runText run (state.files.contents node)
    | .ok (_, .sink) => setStatus 0
    | _ => fatal (".: cannot open " ++ path ++ ": No such file")
  | "type", names, none => describeCommands names
  | _, _, none => own name arguments

/-- Runs a simple command. -/
def runSimple (run : Command → Sh Unit) (line : Nat) (assignments : List (String × List Part))
    (words : List (List Part)) (redirects : List Redirect) : Sh Unit := do
  modify fun state => { state with line, substituted := none }
  let fields ← expandFields run words
  let assign : Sh Unit :=
    for (name, value) in assignments do
      setVariable name (← expandText run value)
  match fields with
  | [] =>
    withRedirects run redirects do
      assign
      setStatus ((← get).substituted.getD 0)
  | ["exec"] =>
    match ← redirectAll run redirects with
    | .ok () => setStatus 0
    | .error problem => fatal problem
  | name :: arguments =>
    let before ← get
    withRedirects run redirects do
      assign
      for (name, _) in assignments do
        exportVariable name
      dispatch run name arguments
    unless assignments.isEmpty do
      modify fun state => { state with bindings := before.bindings, exported := before.exported }
  checkFailure

/-- Runs the stages of a pipeline, each with what the one before it printed. -/
def runStages (run : Command → Sh Unit) (input : Option Nat) : List Command → Sh Unit
  | [] => pure ()
  | stage :: rest => do
    let connectInput : Sh Unit := do
      match input with
      | some node => connect 0 (← openNode (some node))
      | none => pure ()
    match rest with
    | [] =>
      isolated do
        connectInput
        run stage
    | rest =>
      let node ← newNode ""
      isolated do
        connectInput
        connect 1 (← openNode (some node))
        run stage
      runStages run (some node) rest

/-- Runs the body of a loop. -/
def looping (body : Sh Unit) : Sh (Option Stop) := do
  modify fun state => { state with loops := state.loops + 1 }
  let stop ← catching body
  modify fun state => { state with loops := state.loops - 1 }
  return stop

/-- Whether a loop ends, after how its body ended. -/
def roundEnds (stop : Option Stop) : Sh Bool := do
  match stop with
  | none => return false
  | some (.leaveLoops levels) => if levels ≤ 1 then return true else throw (.leaveLoops (levels - 1))
  | some (.nextRound levels) => if levels ≤ 1 then return false else throw (.nextRound (levels - 1))
  | some stop => throw stop

/-- Runs a loop that a test governs. `status` is how its body ended last. -/
def runLoop (run : Command → Sh Unit) (stopsWhenTrue : Bool) (test body : Command) :
    (fuel : Nat) → (status : Nat) → Sh Unit
  | 0, status => setStatus status
  | fuel + 1, status => do
    testing (run test)
    if ((← get).status == 0) == stopsWhenTrue then setStatus status
    else
      let ends ← roundEnds (← looping (run body))
      if ends then setStatus 0 else runLoop run stopsWhenTrue test body fuel (← get).status

/-- Runs a loop over words. -/
def runEach (run : Command → Sh Unit) (name : String) (body : Command) : (words : List String) → Sh Unit
  | [] => pure ()
  | word :: words => do
    setVariable name word
    let ends ← roundEnds (← looping (run body))
    if ends then setStatus 0 else runEach run name body words

/-- Runs the first branch with a pattern that fits. -/
def runChoice (run : Command → Sh Unit) (text : List Char) : List (List (List Part) × Command) → Sh Unit
  | [] => setStatus 0
  | (patterns, body) :: branches => do
    let fits ← patterns.anyM fun pattern => do return Pattern.fits (← expandPattern run pattern) text
    if fits then
      match body with
      | .nothing => setStatus 0
      | body => run body
    else runChoice run text branches

/-- The rounds that a loop may take. -/
def loopRounds : Nat := 0x10000000000

/-- Runs a command. `fuel` bounds how deep commands stand inside each other. -/
def run : (fuel : Nat) → Command → Sh Unit
  | 0, _ => fatal "too deep"
  | fuel + 1, command => do
    match command with
    | .nothing => pure ()
    | .simple line assignments words redirects => runSimple (run fuel) line assignments words redirects
    | .redirected line body redirects =>
      modify fun state => { state with line }
      withRedirects (run fuel) redirects (run fuel body)
    | .pipeline negated stages =>
      if negated then
        testing (runStages (run fuel) none stages)
        setStatus (if (← get).status == 0 then 1 else 0)
      else
        runStages (run fuel) none stages
        checkFailure
    | .both left right =>
      testing (run fuel left)
      if (← get).status == 0 then run fuel right
    | .either left right =>
      testing (run fuel left)
      unless (← get).status == 0 do run fuel right
    | .sequence left right =>
      run fuel left
      run fuel right
    | .background body =>
      isolated (run fuel body)
      setStatus 0
    | .subshell body =>
      isolated (run fuel body)
      checkFailure
    | .cond test yes no =>
      testing (run fuel test)
      if (← get).status == 0 then run fuel yes
      else
        setStatus 0
        run fuel no
    | .loop stopsWhenTrue test body => runLoop (run fuel) stopsWhenTrue test body loopRounds 0
    | .each name words body =>
      let words ← match words with
        | some words => expandFields (run fuel) words
        | none => pure (← get).arguments
      setStatus 0
      runEach (run fuel) name body words
    | .choose word branches => runChoice (run fuel) (← expandText (run fuel) word).toList branches
    | .define name body =>
      modify fun state =>
        { state with functions := (name, body) :: state.functions.filter (·.1 != name), status := 0 }

/-- How deep commands may stand inside each other. -/
def deepest : Nat := 100000

/-- Runs a script, and what it leaves to be run at its end. -/
def script (text : String) : Sh Unit := do
  let stop ← catching (runText (run deepest) text)
  let finish (status : Nat) : Sh Unit := do
    setStatus status
    match (← get).atExit with
    | some action =>
      modify fun state => { state with atExit := none }
      runText (run deepest) action
      throw (.exit status)
    | none => throw (.exit status)
  match stop with
  | none => finish (← get).status
  | some (.exit status) => finish status
  | some (.comeBack status) => finish status
  | some (.killed signal) => throw (.killed signal)
  | some _ => finish (← get).status

end Rewind.Shell.Sh
