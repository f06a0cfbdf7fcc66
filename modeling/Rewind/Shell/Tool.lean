import Rewind.Files

namespace Rewind.Shell

/-- A program at work. -/
structure Job where
  files : Files
  stdin : String := ""
  /-- The size of the standard input, if it is a file with a name. -/
  inputSize : Option Nat := none
  /-- What was printed so far, latest first, on the error stream or not. -/
  output : List (Bool × String) := []
  status : Nat := 0

/-- What a program does. -/
abbrev Work := StateM Job

/-- A program, which is given its arguments. -/
abbrev Tool := List String → Work Unit

namespace Tool

/-- Prints text. -/
def print (text : String) : Work Unit := modify fun job => { job with output := (false, text) :: job.output }

/-- Sets how the program ends. -/
def setStatus (status : Nat) : Work Unit := modify fun job => { job with status }

/-- Prints a line on the error stream, and sets how the program ends. -/
def complain (status : Nat) (text : String) : Work Unit :=
  modify fun job => { job with output := (true, text ++ "\n") :: job.output, status }

/-- Complains about how the program was called. -/
def misuse (status : Nat) (name problem : String) : Work Unit :=
  complain status (name ++ ": " ++ problem ++ "\nTry '" ++ name ++ " --help' for more information.")

/-- Splits text into lines, without their ends. -/
def linesOf (text : String) : List (List Char) :=
  let pieces := text.toList.splitOnP (· == '\n')
  if pieces.getLast? == some [] then pieces.dropLast else pieces

/-- Puts lines together, each with its end. -/
def ofLines (lines : List (List Char)) : String := String.ofList (lines.flatMap (· ++ ['\n']))

/-- Whether text ends with the end of a line, or is empty. -/
def isWhole (text : String) : Bool := text.isEmpty || text.toList.getLast? == some '\n'

/-- Pads text on the left. -/
def padLeft (width : Nat) (text : String) : String :=
  String.ofList (List.replicate (width - text.length) ' ') ++ text

/-- Text between single quotes. -/
def quote (text : String) : String := "'" ++ text ++ "'"

/-- What can be read at a path, where a dash stands for the standard input. -/
def readPath (path : String) : Work (Except PathFault String) := do
  let job ← get
  if path == "-" then return .ok job.stdin
  else return job.files.read (fun n => if n == 0 then some job.stdin else none) path

/-- How a program words that it cannot read. -/
structure Wording where
  status : Nat
  complaint : (path : String) → PathFault → String

/-- The program's name, the path and the fault. -/
def plainWording (status : Nat) (name : String) : Wording where
  status
  complaint path fault := name ++ ": " ++ (if path.isEmpty then "''" else path) ++ ": " ++ fault.words

/-- The inputs that can be read among those that paths name, with their paths. The
    others are complained about. Without paths it is the standard input. -/
def readEach (wording : Wording) (paths : List String) : Work (List (String × String)) := do
  let texts ← (if paths.isEmpty then ["-"] else paths).mapM fun path => do
    match ← readPath path with
    | .ok text => return some (path, text)
    | .error fault =>
      complain wording.status (wording.complaint path fault)
      return none
  return texts.filterMap id

/-- The inputs that paths name, one after another. -/
def readAll (wording : Wording) (paths : List String) : Work String := do
  return String.join ((← readEach wording paths).map (·.2))

/-- What the arguments of a program come to: its flags, with their values, and the
    rest. -/
structure Options where
  flags : List (Char × String) := []
  operands : List String := []

namespace Options

/-- Whether a flag was given. -/
def has (options : Options) (flag : Char) : Bool := options.flags.any (·.1 == flag)

/-- The value that came with a flag, the last one if there are several. -/
def value? (options : Options) (flag : Char) : Option String :=
  (options.flags.reverse.find? (·.1 == flag)).map (·.2)

/-- The values of a flag, or else the first of the other arguments, and what is left
    of these. -/
def leading (options : Options) (flag : Char) : List String × List String :=
  match options.flags.filter (·.1 == flag), options.operands with
  | [], first :: rest => ([first], rest)
  | given, rest => (given.map (·.2), rest)

/-- Which flags a program has: those without and with a value, and long names for
    them. -/
structure Spec where
  switches : String := ""
  valued : String := ""
  long : List (String × Char) := []

/-- Reads the letters behind a dash. A value is what follows its letter, or the next
    argument. -/
def takeLetters (spec : Spec) : (letters : List Char) → (rest : List String) →
    Except String (List (Char × String) × List String)
  | [], rest => .ok ([], rest)
  | letter :: letters, rest =>
    if spec.switches.toList.contains letter then do
      let (flags, rest) ← takeLetters spec letters rest
      return ((letter, "") :: flags, rest)
    else if spec.valued.toList.contains letter then
      match letters, rest with
      | _ :: _, rest => .ok ([(letter, String.ofList letters)], rest)
      | [], value :: rest => .ok ([(letter, value)], rest)
      | [], [] => .error ("option requires an argument -- '" ++ String.singleton letter ++ "'")
    else .error ("invalid option -- '" ++ String.singleton letter ++ "'")

/-- Reads a long name. -/
def takeLong (spec : Spec) (flag : List Char) (rest : List String) :
    Except String (List (Char × String) × List String) :=
  let name := String.ofList (flag.takeWhile (· != '='))
  let value := flag.dropWhile (· != '=')
  match spec.long.lookup name, value, rest with
  | none, _, _ => .error ("unrecognized option '--" ++ name ++ "'")
  | some letter, _ :: value, rest => .ok ([(letter, String.ofList value)], rest)
  | some letter, [], rest =>
    if spec.switches.toList.contains letter then .ok ([(letter, "")], rest)
    else
      match rest with
      | value :: rest => .ok ([(letter, value)], rest)
      | [] => .error ("option '--" ++ name ++ "' requires an argument")

/-- Reads arguments. Flags may stand among the rest, up to a double dash. -/
def parse (spec : Spec) : (fuel : Nat) → (arguments : List String) → Except String Options
  | 0, _ => .ok {}
  | _, [] => .ok {}
  | fuel + 1, argument :: rest =>
    match argument.toList with
    | ['-', '-'] => .ok { operands := rest }
    | '-' :: '-' :: flag => do
      let (flags, rest) ← takeLong spec flag rest
      let options ← parse spec fuel rest
      return { options with flags := flags ++ options.flags }
    | '-' :: letter :: letters => do
      let (flags, rest) ← takeLetters spec (letter :: letters) rest
      let options ← parse spec fuel rest
      return { options with flags := flags ++ options.flags }
    | _ => do
      let options ← parse spec fuel rest
      return { options with operands := argument :: options.operands }

end Options

/-- Does something with the options of a program, or complains about them. -/
def withOptions (status : Nat) (name : String) (spec : Options.Spec) (body : Options → Work Unit) : Tool :=
  fun arguments =>
    match Options.parse spec (arguments.length + 1) arguments with
    | .ok options => body options
    | .error problem => misuse status name problem

end Tool

end Rewind.Shell
