import Rewind.Shell.Reader.Word

namespace Rewind.Shell.Reader

/-- Skips blanks, joined lines and a comment before a symbol. -/
def skipBlanks : (fuel : Nat) → Reader Unit
  | 0 => pure ()
  | fuel + 1 => do
    match (← get).rest with
    | ' ' :: _ | '\t' :: _ =>
      drop 1
      skipBlanks fuel
    | '\\' :: '\n' :: _ =>
      drop 2
      skipBlanks fuel
    | '#' :: _ =>
      let _ ← takeRun (· != '\n')
    | _ => pure ()

/-- The operators, longest first. -/
def operators : List String := ["&&", "||", ";;", ";", "&", "|", "(", ")"]

/-- The operators of redirections, longest first. -/
def redirectOperators : List String := ["<<-", "<<", "<&", "<>", ">>", ">&", ">|", "<", ">"]

/-- The operator that the rest of the script begins with. -/
def operatorAt? (operators : List String) (rest : List Char) : Option String :=
  operators.find? fun operator => operator.toList.isPrefixOf rest

/-- The directory of the user, in place of a tilde at the start of a word that is
    followed by nothing or by a slash. -/
def withHome : List Part → List Part
  | .text text false :: rest =>
    let home : Part := .param "HOME" .orElse false [.text "~" true] true
    match text.toList, rest with
    | ['~'], [] => [home]
    | '~' :: '/' :: path, rest => home :: .text (String.ofList ('/' :: path)) false :: rest
    | _, rest => .text text false :: rest
  | parts => parts

/-- Reads the next symbol. -/
def next (command whole : Reader Command) : Reader Symbol := do
  let size := (← get).rest.length
  skipBlanks size
  let rest := (← get).rest
  match rest with
  | [] => return .eof
  | '\n' :: _ =>
    drop 1
    return .newline
  | _ =>
    match operatorAt? operators rest, operatorAt? redirectOperators rest with
    | some operator, _ =>
      drop operator.length
      return .operator operator
    | none, some operator =>
      drop operator.length
      return .redirect none operator
    | none, none =>
      let digits := rest.takeWhile Char.isDigit
      match operatorAt? redirectOperators (rest.drop digits.length) with
      | some operator =>
        if digits.isEmpty then return .word (withHome (← readParts command whole (2 * size + 2) .word))
        else
          drop (digits.length + operator.length)
          return .redirect (String.ofList digits).toNat? operator
      | none => return .word (withHome (← readParts command whole (2 * size + 2) .word))

/-- The text of a word that is plain, without quotes and parameters. -/
def plain? : Symbol → Option String
  | .word [.text text false] => some text
  | _ => none

/-- The reserved word that a symbol is at the start of a command. -/
def keyword? (symbol : Symbol) : Option String :=
  (plain? symbol).filter reservedWords.contains

/-- The name of a symbol in a diagnostic. -/
def describe (symbol : Symbol) : String :=
  match symbol, keyword? symbol with
  | _, some word => "\"" ++ word ++ "\""
  | .eof, _ => "end of file"
  | .newline, _ => "newline"
  | .redirect _ _, _ => "redirection"
  | .operator text, _ => "\"" ++ text ++ "\""
  | .word _, _ => "word"

/-- Stops at a symbol that does not belong where it stands. -/
def unexpected {α : Type} (symbol : Symbol) (wanted : Option String) : Reader α :=
  match wanted with
  | some wanted => fault (describe symbol ++ " unexpected (expecting \"" ++ wanted ++ "\")")
  | none => fault (describe symbol ++ " unexpected")

end Rewind.Shell.Reader
