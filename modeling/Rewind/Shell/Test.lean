import Rewind.Shell.Arithmetic

namespace Rewind.Shell.Test

/-- What a path leads to. -/
inductive FileKind where
  | missing
  | directory
  | plain (empty executable : Bool)
  | device

/-- What a test can see of files. -/
structure View where
  kind : String → FileKind
  isLink : String → Bool

/-- The answer to a test, or a complaint. -/
abbrev Answer := Except String Bool

/-- A whole number, or a complaint. -/
def integer (text : String) : Except String Int :=
  match Arithmetic.integer? text with
  | some n => .ok n
  | none => .error ("Illegal number: " ++ text)

/-- A test with two sides. -/
def binary? (left operator right : String) : Option Answer :=
  let compare (test : Int → Int → Bool) : Option Answer := some do
    return test (← integer left) (← integer right)
  match operator with
  | "=" => some (.ok (left == right))
  | "!=" => some (.ok (left != right))
  | "<" => some (.ok (decide (left < right)))
  | ">" => some (.ok (decide (right < left)))
  | "-eq" => compare fun x y => x == y
  | "-ne" => compare fun x y => x != y
  | "-lt" => compare fun x y => x < y
  | "-le" => compare fun x y => x ≤ y
  | "-gt" => compare fun x y => y < x
  | "-ge" => compare fun x y => y ≤ x
  | _ => none

/-- A test with one side. -/
def unary? (view : View) (operator text : String) : Option Answer :=
  let file (test : FileKind → Bool) : Option Answer := some (.ok (test (view.kind text)))
  match operator with
  | "-z" => some (.ok text.isEmpty)
  | "-n" => some (.ok !text.isEmpty)
  | "-e" | "-r" | "-w" => file fun kind => !(kind matches .missing)
  | "-f" => file fun kind => (kind matches .plain _ _)
  | "-d" => file fun kind => (kind matches .directory)
  | "-x" => file fun kind => (kind matches .directory) || (kind matches .plain _ true)
  | "-s" => file fun kind => (kind matches .directory) || (kind matches .plain false _)
  | "-c" => file fun kind => (kind matches .device)
  | "-h" | "-L" => some (.ok (view.isLink text))
  | "-t" | "-b" | "-p" | "-S" | "-k" | "-g" | "-u" => some (.ok false)
  | _ => none

/-- A reader of part of a test: its answer, and what is left. -/
abbrev Reading := Except String (Bool × List String)

/-- Reads a test with one side, or a text on its own. -/
def readUnary (view : View) (first second : String) (rest : List String) : Reading :=
  match unary? view first second with
  | some answer => do return (← answer, rest)
  | none =>
    if second == "-a" || second == "-o" || second == ")" then .ok (!first.isEmpty, second :: rest)
    else .error (first ++ ": unexpected operator")

/-- Reads a test up to a closing parenthesis, and past it. -/
def readParenthesised (inner : List String → Reading) (words : List String) : Reading := do
  match ← inner words with
  | (answer, ")" :: rest) => return (answer, rest)
  | _ => .error "closing paren expected"

/-- Reads a test without connectives. `inner` reads a test in parentheses. -/
def readPrimary (view : View) (inner : List String → Reading) : List String → Reading
  | [] => .error "argument expected"
  | [text] => .ok (!text.isEmpty, [])
  | first :: second :: rest =>
    match rest with
    | third :: after =>
      match binary? first second third with
      | some answer => do return (← answer, after)
      | none => if first == "(" then readParenthesised inner (second :: rest) else readUnary view first second rest
    | [] => readUnary view first second rest

/-- Reads a test that may be negated. -/
def readNegated (view : View) (inner : List String → Reading) : List String → Reading
  | "!" :: second :: rest => do
    let (answer, rest) ← readNegated view inner (second :: rest)
    return (!answer, rest)
  | words => readPrimary view inner words

/-- Goes on after a test, for as long as the connective follows. -/
def readChain (connective : String) (combine : Bool → Bool → Bool) (item : List String → Reading) :
    (fuel : Nat) → Bool × List String → Reading
  | 0, result => .ok result
  | fuel + 1, (left, rest) =>
    match rest with
    | word :: rest =>
      if word == connective then do
        let (right, rest) ← item rest
        readChain connective combine item fuel (combine left right, rest)
      else .ok (left, word :: rest)
    | [] => .ok (left, [])

/-- Reads a whole test, `fuel` levels of parentheses deep. -/
def readWhole (view : View) : (fuel : Nat) → List String → Reading
  | 0, _ => .error "too deep"
  | fuel + 1, words =>
    let conjunction (words : List String) : Reading := do
      let first ← readNegated view (readWhole view fuel) words
      readChain "-a" (· && ·) (readNegated view (readWhole view fuel)) words.length first
    do
      let first ← conjunction words
      readChain "-o" (· || ·) conjunction words.length first

/-- The answer to a test. Without any words it is no. -/
def answer (view : View) (words : List String) : Answer :=
  if words.isEmpty then .ok false
  else do
    match ← readWhole view (words.length + 1) words with
    | (answer, []) => return answer
    | (_, word :: _) => .error (word ++ ": unexpected operator")

end Rewind.Shell.Test
