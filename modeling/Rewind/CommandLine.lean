import Rewind.Config
import Rewind.Number.Literal

namespace Rewind

/-- What the arguments of the program ask for. -/
structure Options where
  /-- The script to run. Without one the program reads lines. -/
  file : Option String := none
  /-- Whether programs get a way out to the shell. -/
  allowHost : Bool := false
  /-- The name that the way out is bound to. -/
  hostBinding : Option String := none
  maxDepth : Option Nat := none
  maxNesting : Option Nat := none
  /-- Whether events are printed on the error stream. -/
  verbose : Bool := false

namespace Options

/-- The settings that the options select. -/
def config (options : Options) : Config where
  host := if options.allowHost then some ⟨0, "sh"⟩ else none
  hostBinding := options.hostBinding.getD ({} : Config).hostBinding
  limits := {
    calls := options.maxDepth.getD ({} : Limits).calls
    nesting := options.maxNesting.getD ({} : Limits).nesting
  }

end Options

namespace CommandLine

/-- What the program is to do. -/
inductive Request where
  | start (options : Options)
  | version
  | help
  /-- The arguments make no sense. -/
  | misuse

/-- A switch, which has no value. -/
inductive Switch where
  | allowHost
  | verbose
  | version
  | help

/-- An option that takes a value. -/
inductive Setting where
  | hostBinding
  | maxDepth
  | maxNesting

/-- A long flag. -/
inductive Flag where
  | switch (switch : Switch)
  | setting (setting : Setting)

/-- The flag with this long name. -/
def Flag.ofName? : String → Option Flag
  | "allow-host" => some (.switch .allowHost)
  | "verbose" => some (.switch .verbose)
  | "version" => some (.switch .version)
  | "help" => some (.switch .help)
  | "host-binding" => some (.setting .hostBinding)
  | "max-depth" => some (.setting .maxDepth)
  | "max-nesting" => some (.setting .maxNesting)
  | _ => none

/-- The switch with this letter. -/
def Switch.ofLetter? : Char → Option Switch
  | 'v' => some .verbose
  | 'V' => some .version
  | 'h' => some .help
  | _ => none

/-- The first count that is too large, `2 ^ 64`. -/
def countBound : Nat := 0x10000000000000000

/-- Reads a count: decimal digits after an optional plus sign, within 64 bits. -/
def count? (text : String) : Option Nat :=
  let digits := match text.toList with
    | '+' :: rest => rest
    | rest => rest
  if digits.isEmpty || !digits.all Char.isDigit then none
  else
    let n := Number.digitsValue digits
    if n < countBound then some n else none

/-- Turns a switch on, which may happen once. The two that only ask for text end
    the reading of arguments. -/
def turnOn (options : Options) : Switch → Except Request Options
  | .allowHost => if options.allowHost then .error .misuse else .ok { options with allowHost := true }
  | .verbose => if options.verbose then .error .misuse else .ok { options with verbose := true }
  | .version => .error .version
  | .help => .error .help

/-- Gives an option its value, which may happen once. -/
def give (options : Options) (setting : Setting) (value : String) : Except Request Options :=
  match setting with
  | .hostBinding =>
    if options.hostBinding.isSome then .error .misuse
    else .ok { options with hostBinding := some value }
  | .maxDepth =>
    match options.maxDepth, count? value with
    | none, some n => .ok { options with maxDepth := some n }
    | _, _ => .error .misuse
  | .maxNesting =>
    match options.maxNesting, count? value with
    | none, some n => .ok { options with maxNesting := some n }
    | _, _ => .error .misuse

/-- Takes the script. There is at most one, and its path is not empty. -/
def takeFile (options : Options) (path : String) : Except Request Options :=
  if path.isEmpty || options.file.isSome then .error .misuse
  else .ok { options with file := some path }

/-- Splits a long flag at its equals sign. -/
def splitFlag (flag : List Char) : String × Option String :=
  let name := String.ofList (flag.takeWhile (· != '='))
  match flag.dropWhile (· != '=') with
  | [] => (name, none)
  | _ :: value => (name, some (String.ofList value))

/-- Whether an argument can be the value of an option or a path: it is not a
    flag. A lone dash is not one. -/
def isOperand (argument : String) : Bool :=
  match argument.toList with
  | '-' :: _ :: _ => false
  | _ => true

/-- Reads arguments from left to right. The first one that makes no sense, or that
    asks for text only, decides. -/
def parseFrom (options : Options) : (arguments : List String) → Except Request Options
  | [] => .ok options
  | argument :: rest =>
    match argument.toList with
    | ['-', '-'] => rest.foldlM takeFile options
    | '-' :: '-' :: flag =>
      let (name, value?) := splitFlag flag
      match Flag.ofName? name, value?, rest with
      | some (.switch switch), none, rest => do parseFrom (← turnOn options switch) rest
      | some (.setting setting), some value, rest => do parseFrom (← give options setting value) rest
      | some (.setting setting), none, value :: rest =>
        if isOperand value then do parseFrom (← give options setting value) rest
        else .error .misuse
      | _, _, _ => .error .misuse
    | '-' :: first :: letters => do
      let switched ← (first :: letters).foldlM (fun options letter =>
        match Switch.ofLetter? letter with
        | some switch => turnOn options switch
        | none => .error .misuse) options
      parseFrom switched rest
    | _ => do parseFrom (← takeFile options argument) rest

/-- What the arguments ask for. -/
def parse (arguments : List String) : Request :=
  match parseFrom {} arguments with
  | .ok options => .start options
  | .error request => request

/-- The text for a request for the version. -/
def versionText : String := "qs 0.1.0\n"

/-- The text for a request for help. -/
def helpText : String :=
  String.join ([
    "Interpreter for the qs scripting language",
    "",
    "Usage: qs [OPTIONS] [FILE]",
    "",
    "Arguments:",
    "  [FILE]  Script to interpret. Starts the REPL when omitted",
    "",
    "Options:",
    "      --allow-host           Bind the shell escape hatch",
    "      --host-binding <NAME>  Name of the shell escape binding [default: sh_raw]",
    "      --max-depth <N>        Nested function calls allowed [default: 1000]",
    "      --max-nesting <N>      Expression nesting allowed [default: 5000]",
    "  -v, --verbose              Tell what happens on the error stream",
    "  -h, --help                 Print help",
    "  -V, --version              Print version"
  ].map (· ++ "\n"))

/-- The text for arguments that make no sense. -/
def misuseText : String := "error: invalid arguments\n\nFor more information, try '--help'.\n"

end CommandLine

end Rewind
