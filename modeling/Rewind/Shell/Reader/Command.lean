import Rewind.Shell.Reader.Symbol

namespace Rewind.Shell.Reader

/-- Readers of the parts of the grammar that the one being read can contain. -/
structure Nested where
  /-- A command up to the closing parenthesis of a substitution, and past it. -/
  substitution : Reader Command
  /-- A command up to the end of the input. -/
  whole : Reader Command
  /-- A list of commands up to the word that closes it, which may be empty if
      asked for. -/
  list : (mayBeEmpty : Bool) → Reader Command

/-- The next symbol. -/
def Nested.next (nested : Nested) : Reader Symbol := do
  match (← get).ahead with
  | some (symbol, rest, line) =>
    set ({ rest, line } : Input)
    return symbol
  | none => Reader.next nested.substitution nested.whole

/-- The next symbol, which is not taken away. -/
def Nested.peek (nested : Nested) : Reader Symbol := do
  let input ← get
  let symbol ← nested.next
  let after ← get
  set { input with ahead := some (symbol, after.rest, after.line) }
  return symbol

/-- Skips line ends. -/
def Nested.skipLines (nested : Nested) : (fuel : Nat) → Reader Unit
  | 0 => pure ()
  | fuel + 1 => do
    match ← nested.peek with
    | .newline =>
      let _ ← nested.next
      nested.skipLines fuel
    | _ => pure ()

/-- A bound on the number of symbols that are left. -/
def size : Reader Nat := do return (← get).rest.length + 1

/-- Takes a reserved word that must come next. -/
def Nested.expectWord (nested : Nested) (word : String) : Reader Unit := do
  let symbol ← nested.next
  if keyword? symbol == some word then pure () else unexpected symbol (some word)

/-- The text of the script up to a line that is `stop`, and what follows. -/
def splitHere (stop : List Char) (stripTabs : Bool) : List (List Char) → List (List Char) × List (List Char)
  | [] => ([], [])
  | line :: lines =>
    let line := if stripTabs then line.dropWhile (· == '\t') else line
    if line == stop then ([], lines)
    else
      let (inside, after) := splitHere stop stripTabs lines
      (line :: inside, after)

/-- Splits text at line ends. -/
def splitLines (text : List Char) : List (List Char) :=
  let lines := text.splitOnP (· == '\n')
  if lines.getLast? == some [] then lines.dropLast else lines

/-- Puts lines together, each with its end. -/
def joinLines (lines : List (List Char)) : List Char := lines.flatMap (· ++ ['\n'])

/-- The literal text of a word, and whether any of it is quoted. -/
def literalText (parts : List Part) : String × Bool :=
  parts.foldl (fun (text, quoted) part =>
    match part with
    | .text more q => (text ++ more, quoted || q)
    | _ => (text, quoted)) ("", false)

/-- Takes the text for a command to read out of the lines that follow the current
    one. -/
def Nested.readHere (nested : Nested) (word : List Part) (stripTabs : Bool) : Reader (List Part) := do
  let (stop, quoted) := literalText word
  let input ← get
  let current := input.rest.takeWhile (· != '\n')
  let following := input.rest.drop (current.length + 1)
  let (inside, after) := splitHere stop.toList stripTabs (splitLines following)
  let text := joinLines inside
  let parts ← if quoted then pure [.text (String.ofList text) true]
    else do
      set ({ rest := text, line := input.line } : Input)
      readParts nested.substitution nested.whole (2 * text.length + 2) .here
  set ({ rest := current ++ '\n' :: joinLines after, line := input.line } : Input)
  return parts

/-- Reads the target of a redirection. -/
def Nested.readRedirect (nested : Nested) (descriptor : Option Nat) (operator : String) : Reader Redirect := do
  match ← nested.next with
  | .word parts =>
    match operator with
    | "<" => return .mk (descriptor.getD 0) .input parts
    | ">" | ">|" => return .mk (descriptor.getD 1) .output parts
    | ">>" => return .mk (descriptor.getD 1) .append parts
    | "<>" => return .mk (descriptor.getD 0) .both parts
    | "<&" => return .mk (descriptor.getD 0) .copy parts
    | ">&" => return .mk (descriptor.getD 1) .copy parts
    | operator => return .mk (descriptor.getD 0) .here (← nested.readHere parts (operator == "<<-"))
  | symbol => unexpected symbol none

/-- Splits an assignment at its equals sign. -/
def assignment? (parts : List Part) : Option (String × List Part) :=
  match parts with
  | .text text false :: rest =>
    let name := text.toList.takeWhile (· != '=')
    let value := text.toList.drop (name.length + 1)
    if isName (String.ofList name) && name.length < text.length then
      some (String.ofList name,
        if value.isEmpty then rest else withHome (.text (String.ofList value) false :: rest))
    else none
  | _ => none

/-- A simple command that is being read. -/
structure Simple where
  assignments : List (String × List Part) := []
  words : List (List Part) := []
  redirects : List Redirect := []

/-- Goes on with a simple command, or with the definition of a function. -/
def Nested.readSimple (nested : Nested) (line : Nat) (compound : Reader Command) :
    (fuel : Nat) → Simple → Reader Command
  | 0, _ => fault "too long"
  | fuel + 1, simple => do
    let finish : Command := .simple line simple.assignments simple.words simple.redirects
    match ← nested.peek with
    | .word parts =>
      let _ ← nested.next
      match assignment? parts, simple.words with
      | some assignment, [] =>
        nested.readSimple line compound fuel { simple with assignments := simple.assignments ++ [assignment] }
      | _, _ => nested.readSimple line compound fuel { simple with words := simple.words ++ [parts] }
    | .redirect descriptor operator =>
      let _ ← nested.next
      let redirect ← nested.readRedirect descriptor operator
      nested.readSimple line compound fuel { simple with redirects := simple.redirects ++ [redirect] }
    | .operator "(" =>
      match simple.words, simple.assignments, simple.redirects with
      | [[.text name false]], [], [] =>
        let _ ← nested.next
        match ← nested.next with
        | .operator ")" =>
          if isName name then
            nested.skipLines (← size)
            return .define name (← compound)
          else fault "Bad function name"
        | symbol => unexpected symbol (some ")")
      | _, _, _ => return finish
    | _ => return finish

/-- Reads redirections after a compound command. -/
def Nested.readRedirects (nested : Nested) : (fuel : Nat) → Reader (List Redirect)
  | 0 => pure []
  | fuel + 1 => do
    match ← nested.peek with
    | .redirect descriptor operator =>
      let _ ← nested.next
      let redirect ← nested.readRedirect descriptor operator
      return redirect :: (← nested.readRedirects fuel)
    | _ => pure []

/-- Reads the branches of a condition after a test. -/
def Nested.readBranches (nested : Nested) : (fuel : Nat) → (test : Command) → Reader Command
  | 0, _ => fault "too long"
  | fuel + 1, test => do
    nested.expectWord "then"
    let yes ← nested.list false
    let symbol ← nested.peek
    match keyword? symbol with
    | some "elif" =>
      let _ ← nested.next
      return .cond test yes (← nested.readBranches fuel (← nested.list false))
    | some "else" =>
      let _ ← nested.next
      let no ← nested.list false
      nested.expectWord "fi"
      return .cond test yes no
    | _ =>
      nested.expectWord "fi"
      return .cond test yes .nothing

/-- Reads words up to the end of a line or a semicolon. -/
def Nested.readWords (nested : Nested) : (fuel : Nat) → Reader (List (List Part))
  | 0 => pure []
  | fuel + 1 => do
    match ← nested.next with
    | .word parts => return parts :: (← nested.readWords fuel)
    | .newline => return []
    | .operator ";" => return []
    | symbol => unexpected symbol none

/-- Reads a loop over words, after its first word. -/
def Nested.readEach (nested : Nested) : Reader Command := do
  let name ← match plain? (← nested.next) with
    | some name => if isName name then pure name else fault "Bad for loop variable"
    | none => fault "Bad for loop variable"
  nested.skipLines (← size)
  let symbol ← nested.peek
  let words ← match keyword? symbol, symbol with
    | some "in", _ => do
      let _ ← nested.next
      pure (some (← nested.readWords (← size)))
    | _, .operator ";" => do
      let _ ← nested.next
      pure none
    | _, _ => pure none
  nested.skipLines (← size)
  nested.expectWord "do"
  let body ← nested.list false
  nested.expectWord "done"
  return .each name words body

/-- Reads the patterns of a branch up to the closing parenthesis. -/
def Nested.readPatterns (nested : Nested) : (fuel : Nat) → (first : Symbol) → Reader (List (List Part))
  | 0, _ => fault "too long"
  | fuel + 1, first => do
    match first with
    | .word parts =>
      match ← nested.next with
      | .operator "|" => return parts :: (← nested.readPatterns fuel (← nested.next))
      | .operator ")" => return [parts]
      | symbol => unexpected symbol (some ")")
    | symbol => unexpected symbol (some ")")

/-- Reads the branches of a choice. -/
def Nested.readCases (nested : Nested) : (fuel : Nat) → Reader (List (List (List Part) × Command))
  | 0 => fault "too long"
  | fuel + 1 => do
    nested.skipLines (← size)
    let symbol ← nested.next
    if keyword? symbol == some "esac" then return []
    let first ← match symbol with
      | .operator "(" => nested.next
      | symbol => pure symbol
    let patterns ← nested.readPatterns (← size) first
    let body ← nested.list true
    let symbol ← nested.next
    if keyword? symbol == some "esac" then return [(patterns, body)]
    match symbol with
    | .operator ";;" => return (patterns, body) :: (← nested.readCases fuel)
    | symbol => unexpected symbol (some ";;")

/-- Reads a loop that a test governs. -/
def Nested.readLoop (nested : Nested) (stopsWhenTrue : Bool) : Reader Command := do
  let _ ← nested.next
  let test ← nested.list false
  nested.expectWord "do"
  let body ← nested.list false
  nested.expectWord "done"
  return .loop stopsWhenTrue test body

/-- Reads a command that is neither simple nor a pipeline, if the symbol begins
    one. -/
def Nested.readCompound? (nested : Nested) (symbol : Symbol) : Option (Reader Command) :=
  match keyword? symbol, symbol with
  | some "if", _ => some do
    let _ ← nested.next
    nested.readBranches (← size) (← nested.list false)
  | some "while", _ => some (nested.readLoop false)
  | some "until", _ => some (nested.readLoop true)
  | some "for", _ => some do
    let _ ← nested.next
    nested.readEach
  | some "case", _ => some do
    let _ ← nested.next
    match ← nested.next with
    | .word parts =>
      nested.skipLines (← size)
      nested.expectWord "in"
      return .choose parts (← nested.readCases (← size))
    | symbol => unexpected symbol none
  | some "\x7b", _ => some do
    let _ ← nested.next
    let body ← nested.list false
    nested.expectWord "\x7d"
    return body
  | _, .operator "(" => some do
    let _ ← nested.next
    let body ← nested.list false
    match ← nested.next with
    | .operator ")" => return .subshell body
    | symbol => unexpected symbol (some ")")
  | _, _ => none

/-- Reads a command without operators around it. -/
def Nested.readCommand (nested : Nested) : Reader Command := do
  let line := (← get).line
  let symbol ← nested.peek
  match nested.readCompound? symbol, keyword? symbol, symbol with
  | some compound, _, _ =>
    let body ← compound
    match ← nested.readRedirects (← size) with
    | [] => return body
    | redirects => return .redirected line body redirects
  | none, none, .word _ | none, none, .redirect _ _ =>
    let body : Reader Command := do
      let symbol ← nested.peek
      match nested.readCompound? symbol with
      | some compound => compound
      | none => unexpected symbol none
    nested.readSimple line body (← size) {}
  | _, _, symbol => unexpected symbol none

/-- Reads the stages of a pipeline. -/
def Nested.readStages (nested : Nested) : (fuel : Nat) → Reader (List Command)
  | 0 => fault "too long"
  | fuel + 1 => do
    let stage ← nested.readCommand
    match ← nested.peek with
    | .operator "|" =>
      let _ ← nested.next
      nested.skipLines (← size)
      return stage :: (← nested.readStages fuel)
    | _ => return [stage]

/-- Reads a pipeline. -/
def Nested.readPipeline (nested : Nested) : Reader Command := do
  let negated ← if keyword? (← nested.peek) == some "!" then do
      let _ ← nested.next
      pure true
    else pure false
  match negated, ← nested.readStages (← size) with
  | false, [stage] => return stage
  | negated, stages => return .pipeline negated stages

/-- Reads pipelines that depend on each other. -/
def Nested.readAndOr (nested : Nested) : (fuel : Nat) → (left : Command) → Reader Command
  | 0, left => pure left
  | fuel + 1, left => do
    match ← nested.peek with
    | .operator "&&" =>
      let _ ← nested.next
      nested.skipLines (← size)
      nested.readAndOr fuel (.both left (← nested.readPipeline))
    | .operator "||" =>
      let _ ← nested.next
      nested.skipLines (← size)
      nested.readAndOr fuel (.either left (← nested.readPipeline))
    | _ => pure left

/-- Whether a symbol closes a list. -/
def closes (symbol : Symbol) : Bool :=
  match keyword? symbol, symbol with
  | some word, _ => ["\x7d", "do", "done", "elif", "else", "esac", "fi", "then"].contains word
  | none, .eof => true
  | none, .operator ")" => true
  | none, .operator ";;" => true
  | _, _ => false

/-- How far a list goes. -/
inductive Extent where
  /-- To the end of a line that is complete. -/
  | line
  /-- To a symbol that closes it. With `mayBeEmpty` it can come at once. -/
  | block (mayBeEmpty : Bool)

/-- Puts one command after another. -/
def andThen : Command → Command → Command
  | .nothing, right => right
  | left, .nothing => left
  | left, right => .sequence left right

/-- Goes on with a list after `before`. -/
def Nested.readList (nested : Nested) (extent : Extent) : (fuel : Nat) → (before : Command) → Reader Command
  | 0, _ => fault "too long"
  | fuel + 1, before => do
    if extent matches .block _ then nested.skipLines (← size)
    let symbol ← nested.peek
    let empty := before matches .nothing
    let mayStop := match extent with
      | .line => (symbol matches .eof)
      | .block mayBeEmpty => (symbol matches .eof) || (closes symbol && (!empty || mayBeEmpty))
    if mayStop then return before
    if symbol matches .newline then
      let _ ← nested.next
      return before
    let item ← nested.readAndOr (← size) (← nested.readPipeline)
    match ← nested.peek with
    | .operator "&" =>
      let _ ← nested.next
      nested.readList extent fuel (andThen before (.background item))
    | .operator ";" =>
      let _ ← nested.next
      nested.readList extent fuel (andThen before item)
    | .newline => nested.readList extent fuel (andThen before item)
    | .eof => return andThen before item
    | symbol =>
      if extent matches .line then unexpected symbol none
      else return andThen before item

/-- The readers of what stands at most `fuel` levels inside. -/
def nested : (fuel : Nat) → Nested
  | 0 => { substitution := fault "too deep", whole := fault "too deep", list := fun _ => fault "too deep" }
  | fuel + 1 => {
      substitution := do
        let body ← (nested fuel).readList (.block true) (← size) .nothing
        match ← (nested fuel).next with
        | .operator ")" => return body
        | symbol => unexpected symbol (some ")")
      whole := do
        let body ← (nested fuel).readList (.block true) (← size) .nothing
        match ← (nested fuel).next with
        | .eof => return body
        | symbol => unexpected symbol none
      list := fun mayBeEmpty => do (nested fuel).readList (.block mayBeEmpty) (← size) .nothing
    }

/-- Reads the next complete line of a script, if anything is left. -/
def readLine? (input : Input) : Except Fault (Option (Command × Input)) :=
  if input.rest.isEmpty then .ok none
  else
    let reader := nested (input.rest.length + 1)
    (reader.readList .line (input.rest.length + 1) .nothing input).map some

end Rewind.Shell.Reader
