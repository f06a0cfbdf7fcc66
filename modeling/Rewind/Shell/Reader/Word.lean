import Rewind.Shell.Reader

namespace Rewind.Shell.Reader

/-- Where the parts that are being read stand, which decides what ends them. -/
inductive Place where
  | word
  /-- Between double quotes. -/
  | quotes
  /-- Between braces, which may stand between quotes. -/
  | braces (quoted : Bool)
  /-- Inside an arithmetic expression, so many parentheses deep. -/
  | arithmetic (depth : Nat)
  /-- In text that the script holds for a command to read. -/
  | here

/-- Whether literal text in the place is quoted. -/
def Place.quoted : Place → Bool
  | .word => false
  | .quotes => true
  | .braces quoted => quoted
  | .arithmetic _ => true
  | .here => true

/-- Puts literal text before parts. -/
def literal (text : String) (quoted : Bool) : List Part → List Part
  | .text more q :: rest => if q == quoted then .text (text ++ more) quoted :: rest
    else .text text quoted :: .text more q :: rest
  | rest => .text text quoted :: rest

/-- Whether a part stands for all arguments, each as a field of its own. Without
    arguments even quotes around it leave no field. -/
def isAllArguments : Part → Bool
  | .param "@" _ _ _ _ => true
  | _ => false

/-- The operator after a parameter name between braces. -/
def readUse : Reader (Use × Bool) := do
  match (← get).rest with
  | ':' :: '-' :: _ => drop 2; return (.orElse, true)
  | ':' :: '=' :: _ => drop 2; return (.orAssign, true)
  | ':' :: '?' :: _ => drop 2; return (.orFail, true)
  | ':' :: '+' :: _ => drop 2; return (.ifSet, true)
  | '-' :: _ => drop 1; return (.orElse, false)
  | '=' :: _ => drop 1; return (.orAssign, false)
  | '?' :: _ => drop 1; return (.orFail, false)
  | '+' :: _ => drop 1; return (.ifSet, false)
  | '%' :: '%' :: _ => drop 2; return (.dropTail true, false)
  | '%' :: _ => drop 1; return (.dropTail false, false)
  | '#' :: '#' :: _ => drop 2; return (.dropHead true, false)
  | '#' :: _ => drop 1; return (.dropHead false, false)
  | '\x7d' :: _ => return (.value, false)
  | [] => fault "Missing '\x7d'"
  | _ => fault "Bad substitution"

/-- The parameters that a single character names. -/
def isSpecial (c : Char) : Bool :=
  c == '@' || c == '*' || c == '#' || c == '?' || c == '-' || c == '$' || c == '!' || c.isDigit

/-- Reads a parameter between braces, after the opening one. -/
def readBraces (parts : Place → Reader (List Part)) (quoted : Bool) : Reader Part := do
  let length ← match (← get).rest with
    | '#' :: c :: _ =>
      if isNameStart c || (isSpecial c && c != '#') then do
        drop 1
        pure true
      else pure false
    | _ => pure false
  let name ← match (← get).rest with
    | c :: _ =>
      if isNameStart c then takeRun isNameRest
      else if c.isDigit then takeRun Char.isDigit
      else if isSpecial c then do
        drop 1
        pure (String.singleton c)
      else fault "Bad substitution"
    | [] => fault "Missing '\x7d'"
  let (use, nullCounts) ← readUse
  let word ← parts (.braces quoted)
  return .param name (if length then .length else use) nullCounts word quoted

/-- Reads what follows a dollar sign. -/
def readDollar (command : Reader Command) (parts : Place → Reader (List Part)) (quoted : Bool) :
    Reader Part := do
  match (← get).rest with
  | '(' :: '(' :: _ =>
    drop 2
    return .arithmetic (← parts (.arithmetic 0)) quoted
  | '(' :: _ =>
    drop 1
    return .output (← command) quoted
  | '\x7b' :: _ =>
    drop 1
    readBraces parts quoted
  | c :: _ =>
    if isNameStart c then return .param (← takeRun isNameRest) .value false [] quoted
    else if isSpecial c then
      drop 1
      return .param (String.singleton c) .value false [] quoted
    else return .text "$" quoted
  | [] => return .text "$" quoted

/-- The text between backquotes, with the backslashes that protect it taken
    away, and what follows it. -/
def splitBackquoted (quoted : Bool) : List Char → Option (List Char × List Char)
  | [] => none
  | '\x60' :: rest => some ([], rest)
  | '\\' :: c :: rest =>
    (splitBackquoted quoted rest).map fun (inside, after) =>
      if c == '\x60' || c == '\\' || c == '$' || (quoted && c == '\x22') then (c :: inside, after)
      else ('\\' :: c :: inside, after)
  | c :: rest => (splitBackquoted quoted rest).map fun (inside, after) => (c :: inside, after)

/-- Reads a command between backquotes, after the opening one. `whole` reads a
    command up to the end of the input. -/
def readBackquotes (whole : Reader Command) (quoted : Bool) : Reader Part := do
  match splitBackquoted quoted (← get).rest with
  | none => fault "EOF in backquote substitution"
  | some (inside, after) =>
    let line := (← get).line
    set ({ rest := inside, line } : Input)
    let body ← whole
    set ({ rest := after, line } : Input)
    return .output body quoted

/-- Reads parts up to the end of their place, and past the mark that ends it.
    `command` reads a command up to a closing parenthesis, `whole` one up to the
    end of the input. -/
def readParts (command whole : Reader Command) : (fuel : Nat) → Place → Reader (List Part)
  | 0, _ => fault "too long"
  | fuel + 1, place => do
    let parts := readParts command whole fuel
    let quoted := place.quoted
    match (← get).rest, place with
    | [], .word => return []
    | [], .here => return []
    | [], .quotes => fault "Unterminated quoted string"
    | [], .braces _ => fault "Missing '\x7d'"
    | [], .arithmetic _ => fault "Missing '))'"
    | '\x22' :: _, .quotes =>
      drop 1
      return []
    | '\x7d' :: _, .braces _ =>
      drop 1
      return []
    | ')' :: ')' :: _, .arithmetic 0 =>
      drop 2
      return []
    | '(' :: _, .arithmetic depth =>
      drop 1
      return literal "(" quoted (← parts (.arithmetic (depth + 1)))
    | ')' :: _, .arithmetic depth =>
      drop 1
      return literal ")" quoted (← parts (.arithmetic (depth - 1)))
    | '\\' :: '\n' :: _, _ =>
      drop 2
      parts place
    | '$' :: _, _ =>
      drop 1
      let part ← readDollar command parts quoted
      return part :: (← parts place)
    | '\x60' :: _, _ =>
      drop 1
      let part ← readBackquotes whole quoted
      return part :: (← parts place)
    | '\\' :: c :: _, _ =>
      drop 2
      if !quoted || c == '$' || c == '\x60' || c == '\\' || (c == '\x22' && !(place matches .here))
          || (c == '\x7d' && place matches .braces _) then
        return literal (String.singleton c) true (← parts place)
      else return literal ("\\" ++ String.singleton c) true (← parts place)
    | c :: _, _ =>
      if c == '\x22' && !(place matches .here) && !(place matches .arithmetic _) then
        drop 1
        let inside ← parts .quotes
        let anchor := if inside.any isAllArguments then [] else [.text "" true]
        return anchor ++ inside ++ (← parts place)
      else if c == '\x27' && !quoted then
        drop 1
        let inside ← takeRun (· != '\x27')
        if (← get).rest.isEmpty then fault "Unterminated quoted string"
        drop 1
        return literal inside true (← parts place)
      else if place matches .word && isBreak c then return []
      else
        drop 1
        return literal (String.singleton c) quoted (← parts place)

end Rewind.Shell.Reader
