import Rewind.Shell.Script

namespace Rewind.Shell

/-- A symbol of the grammar. -/
inductive Symbol where
  | eof
  | newline
  | operator (text : String)
  | redirect (descriptor : Option Nat) (operator : String)
  | word (parts : List Part)

/-- What is left of a script. -/
structure Input where
  rest : List Char
  line : Nat
  /-- The next symbol and what is left after it, once it has been looked at. -/
  ahead : Option (Symbol × List Char × Nat) := none

/-- Why a script cannot be read. -/
structure Fault where
  line : Nat
  text : String

/-- A reader of part of a script. -/
abbrev Reader := StateT Input (Except Fault)

/-- The words that have a meaning of their own at the start of a command. -/
def reservedWords : List String :=
  ["!", "case", "do", "done", "elif", "else", "esac", "fi", "for", "if", "in", "then", "until", "while",
    "\x7b", "\x7d"]

namespace Reader

/-- Stops because of what the script says. -/
def fault {α : Type} (text : String) : Reader α := do throw ⟨(← get).line, "Syntax error: " ++ text⟩

/-- Takes `n` characters away. -/
def drop (n : Nat) : Reader Unit :=
  modify fun input =>
    { rest := input.rest.drop n, line := input.line + (input.rest.take n).count '\n' }

/-- Takes the longest run of characters that satisfy `accept`. -/
def takeRun (accept : Char → Bool) : Reader String := do
  let run := (← get).rest.takeWhile accept
  drop run.length
  return String.ofList run

def isNameStart (c : Char) : Bool := c.isAlpha || c == '_'

def isNameRest (c : Char) : Bool := c.isAlphanum || c == '_'

/-- Whether the text is a name that can be assigned to. -/
def isName (text : String) : Bool :=
  match text.toList with
  | [] => false
  | c :: rest => isNameStart c && rest.all isNameRest

/-- Whether the character ends a word. -/
def isBreak (c : Char) : Bool :=
  c == ' ' || c == '\t' || c == '\n' || c == ';' || c == '&' || c == '|' || c == '<' || c == '>'
    || c == '(' || c == ')'

end Reader

end Rewind.Shell
