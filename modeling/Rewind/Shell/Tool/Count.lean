import Rewind.Shell.Arithmetic
import Rewind.Shell.Regex

namespace Rewind.Shell.Tool

/-- A decimal number: its value in units of its last place, and the places. -/
structure Fixed where
  value : Int
  places : Nat

/-- Reads a decimal number. -/
def Fixed.parse? (text : String) : Option Fixed :=
  let (negative, rest) := match text.toList with
    | '-' :: rest => (true, rest)
    | '+' :: rest => (false, rest)
    | rest => (false, rest)
  let whole := rest.takeWhile Char.isDigit
  let (fraction, rest) := match rest.drop whole.length with
    | '.' :: rest => (rest.takeWhile Char.isDigit, rest.dropWhile Char.isDigit)
    | rest => ([], rest)
  if (whole.isEmpty && fraction.isEmpty) || !rest.isEmpty then none
  else
    let magnitude : Nat := (whole ++ fraction).foldl (fun n c => 10 * n + (c.toNat - '0'.toNat)) 0
    some ⟨if negative then -(magnitude : Int) else magnitude, fraction.length⟩

/-- The value in units of a smaller place. -/
def Fixed.scaled (number : Fixed) (places : Nat) : Int := number.value * (Nat.pow 10 (places - number.places) : Nat)

/-- A number in units of a place, written out. -/
def writeFixed (places : Nat) (value : Int) : String :=
  let digits := Nat.toDigits 10 value.natAbs
  let digits := List.replicate (places + 1 - digits.length) '0' ++ digits
  let whole := digits.length - places
  String.ofList ((if value < 0 then ['-'] else []) ++ digits.take whole
    ++ (if places == 0 then [] else '.' :: digits.drop whole))

/-- How many numbers `seq` prints at most. -/
def manyNumbers : Nat := 1000000

/-- The arguments of `seq`, where a number with a minus sign is not a flag. -/
def protectNumbers (arguments : List String) : List String :=
  let isNegative (argument : String) : Bool :=
    match argument.toList with
    | '-' :: c :: _ => c.isDigit || c == '.'
    | _ => false
  match arguments.findIdx? isNegative with
  | some n => arguments.take n ++ "--" :: arguments.drop n
  | none => arguments

/-- Counts from one number to another. -/
def seq : Tool := fun arguments =>
  withOptions 1 "seq" { switches := "w", valued := "sf", long := [("separator", 's'), ("equal-width", 'w')] }
    (fun options => do
      let range (first step last : Fixed) : Work Unit := do
        let places := max first.places step.places
        let fine := max places last.places
        let (low, stride, high) := (first.scaled fine, step.scaled fine, last.scaled fine)
        if stride == 0 then misuse 1 "seq" ("invalid Zero increment value: '0'")
        else
          let size := min manyNumbers (((high - low).fdiv stride) + 1).toNat
          let values := (List.range size).map fun (n : Nat) =>
            writeFixed places ((first.scaled places) + (n : Int) * step.scaled places)
          let width := (values.map String.length).foldl max 0
          let values := if options.has 'w' then values.map fun text =>
              match text.toList with
              | '-' :: digits => "-" ++ String.ofList (List.replicate (width - text.length) '0' ++ digits)
              | digits => String.ofList (List.replicate (width - text.length) '0' ++ digits)
            else values
          let separator := (options.value? 's').getD "\n"
          unless values.isEmpty do print (separator.intercalate values ++ "\n")
      match options.operands.find? fun text => (Fixed.parse? text).isNone with
      | some text => misuse 1 "seq" ("invalid floating point argument: " ++ quote text)
      | none =>
        match options.operands.filterMap Fixed.parse?, options.operands with
        | [last], _ => range ⟨1, 0⟩ ⟨1, 0⟩ last
        | [first, last], _ => range first ⟨1, 0⟩ last
        | [first, step, last], _ => range first step last
        | _, _ :: _ :: _ :: extra :: _ => misuse 1 "seq" ("extra operand " ++ quote extra)
        | _, _ => misuse 1 "seq" "missing operand") (protectNumbers arguments)

/-- A reader of part of an expression of `expr`: its value, and what is left. -/
abbrev Valuing := Except String (String × List String)

/-- Whether a value counts as nothing. -/
def isNull (text : String) : Bool := text.isEmpty || Arithmetic.integer? text == some 0

/-- The result of an operator between two values. -/
def combine (operator left right : String) : Except String String :=
  let numbers := (Arithmetic.integer? left, Arithmetic.integer? right)
  let truth (value : Bool) : Except String String := .ok (if value then "1" else "0")
  let compare (onNumbers : Int → Int → Bool) (onTexts : String → String → Bool) : Except String String :=
    match numbers with
    | (some x, some y) => truth (onNumbers x y)
    | _ => truth (onTexts left right)
  let calculate (f : Int → Int → Except String Int) : Except String String :=
    match numbers with
    | (some x, some y) => (f x y).map toString
    | _ => .error "non-integer argument"
  match operator with
  | "|" => .ok (if isNull left then (if isNull right then "0" else right) else left)
  | "&" => .ok (if isNull left || isNull right then "0" else left)
  | "=" | "==" => compare (· == ·) (· == ·)
  | "!=" => compare (· != ·) (· != ·)
  | "<" => compare (fun x y => x < y) (fun x y => decide (x < y))
  | "<=" => compare (fun x y => x ≤ y) (fun x y => !decide (y < x))
  | ">" => compare (fun x y => y < x) (fun x y => decide (y < x))
  | ">=" => compare (fun x y => y ≤ x) (fun x y => !decide (x < y))
  | "+" => calculate fun x y => .ok (x + y)
  | "-" => calculate fun x y => .ok (x - y)
  | "*" => calculate fun x y => .ok (x * y)
  | "/" => calculate fun x y => if y == 0 then .error "division by zero" else .ok (x.tdiv y)
  | _ => calculate fun x y => if y == 0 then .error "division by zero" else .ok (x.tmod y)

/-- What a pattern matches at the start of a text: its first group, or how long the
    match is. -/
def matchStart (text pattern : String) : Except String String := do
  let regex ← Regex.parse false pattern
  let grouped := (pattern.splitOn "\\(").length != 1
  match regex.matchAt? false ⟨[], text.toList⟩ with
  | some found => return if grouped then String.ofList ((found.groups.lookup 1).getD []) else toString found.text.length
  | none => return if grouped then "" else "0"

/-- The operators of `expr`, from those that bind least. -/
def tiers : List (List String) :=
  [["|"], ["&"], ["<", "<=", "=", "==", "!=", ">=", ">"], ["+", "-"], ["*", "/", "%"], [":"]]

/-- Goes on with a value for as long as an operator of the tier follows. -/
def goOn (operators : List String) (item : List String → Valuing) : (fuel : Nat) → String × List String → Valuing
  | 0, result => .ok result
  | fuel + 1, (left, rest) =>
    match rest with
    | operator :: rest =>
      if operators.contains operator then do
        if rest.isEmpty then .error ("syntax error: missing argument after " ++ quote operator)
        else
          let (right, rest) ← item rest
          let value ← if operator == ":" then matchStart left right else combine operator left right
          goOn operators item fuel (value, rest)
      else .ok (left, operator :: rest)
    | [] => .ok (left, [])

/-- Reads an operand. `whole` reads an expression in parentheses. -/
def readOperand (whole : List String → Valuing) : List String → Valuing
  | [] => .error "syntax error: missing argument"
  | "(" :: rest => do
    match ← whole rest with
    | (value, ")" :: rest) => return (value, rest)
    | (_, other :: _) => .error ("syntax error: expecting ')' instead of " ++ quote other)
    | (_, []) => .error ("syntax error: expecting ')' after " ++ quote (rest.getLast?.getD "("))
  | "length" :: text :: rest => .ok (toString text.length, rest)
  | "match" :: text :: pattern :: rest => do return (← matchStart text pattern, rest)
  | "index" :: text :: chars :: rest =>
    .ok (toString (((text.toList.findIdx? fun c => chars.toList.contains c).map (· + 1)).getD 0), rest)
  | "substr" :: text :: start :: size :: rest =>
    match Arithmetic.integer? start, Arithmetic.integer? size with
    | some start, some size =>
      if start ≤ 0 || size ≤ 0 then .ok ("", rest)
      else .ok (String.ofList ((text.toList.drop (start.toNat - 1)).take size.toNat), rest)
    | _, _ => .ok ("", rest)
  | "+" :: text :: rest => .ok (text, rest)
  | ")" :: _ => .error "syntax error: unexpected ')'"
  | text :: rest => .ok (text, rest)

/-- Reads an expression whose operators are in some tiers. -/
def readTiers (operand : List String → Valuing) : (tiers : List (List String)) → List String → Valuing
  | [], words => operand words
  | operators :: tiers, words => do
    let first ← readTiers operand tiers words
    goOn operators (readTiers operand tiers) words.length first

/-- Reads an expression, `fuel` levels of parentheses deep. -/
def readExpression : (fuel : Nat) → List String → Valuing
  | 0, _ => .error "syntax error"
  | fuel + 1, words => readTiers (readOperand (readExpression fuel)) tiers words

/-- Computes, compares and matches. -/
def expr : Tool := fun arguments => do
  let arguments := match arguments with
    | "--" :: rest => rest
    | rest => rest
  if arguments.isEmpty then misuse 2 "expr" "missing operand"
  else
    match readExpression (arguments.length + 1) arguments with
    | .error problem => complain 2 ("expr: " ++ problem)
    | .ok (_, word :: _) => complain 2 ("expr: syntax error: unexpected argument " ++ quote word)
    | .ok (value, []) =>
      print (value ++ "\n")
      setStatus (if isNull value then 1 else 0)

/-- The last step of a path, without an ending if one is given. -/
def lastStep (path ending : List Char) : List Char :=
  let trimmed := (path.reverse.dropWhile (· == '/')).reverse
  let name := if trimmed.isEmpty && !path.isEmpty then ['/'] else (trimmed.reverse.takeWhile (· != '/')).reverse
  if ending.isSuffixOf name && ending.length < name.length then name.take (name.length - ending.length) else name

/-- The last steps of paths. -/
def basename : Tool :=
  withOptions 1 "basename" { switches := "az", valued := "s", long := [("suffix", 's'), ("multiple", 'a')] }
    fun options =>
      match options.operands, options.has 'a' || options.has 's' with
      | [], _ => misuse 1 "basename" "missing operand"
      | paths, true =>
        let ending := ((options.value? 's').getD "").toList
        print (ofLines (paths.map fun path => lastStep path.toList ending))
      | [path], false => print (ofLines [lastStep path.toList []])
      | [path, ending], false => print (ofLines [lastStep path.toList ending.toList])
      | _ :: _ :: extra :: _, false => misuse 1 "basename" ("extra operand " ++ quote extra)

/-- Paths without their last steps. -/
def dirname : Tool :=
  withOptions 1 "dirname" {} fun options =>
    if options.operands.isEmpty then misuse 1 "dirname" "missing operand"
    else print (ofLines (options.operands.map fun path =>
      let trimmed := path.toList.reverse.dropWhile (· == '/')
      let parent := (trimmed.dropWhile (· != '/')).dropWhile (· == '/')
      let absolute := path.toList.head? == some '/'
      if parent.isEmpty then (if absolute then ['/'] else ['.']) else parent.reverse))

end Rewind.Shell.Tool
