namespace Rewind.Shell.Arithmetic

/-- A symbol of an expression. -/
inductive Symbol where
  | number (n : Int)
  | name (name : String)
  | operator (text : String)
deriving DecidableEq

/-- The operators, longest first. -/
def operators : List String :=
  ["<<=", ">>=", "<<", ">>", "<=", ">=", "==", "!=", "&&", "||", "+=", "-=", "*=", "/=", "%=", "&=", "|=",
    "^=", "+", "-", "*", "/", "%", "<", ">", "=", "!", "~", "&", "|", "^", "(", ")", "?", ":"]

/-- How many numbers there are within 64 bits, `2 ^ 64`. -/
def wordCount : Nat := 0x10000000000000000

/-- The number within 64 bits, signed, that `n` wraps round to. -/
def wrap (n : Int) : Int := n.bmod wordCount

/-- The value of a digit in any base up to sixteen. -/
def digitValue (c : Char) : Nat :=
  if c.isDigit then c.toNat - '0'.toNat
  else if 'a' ≤ c && c ≤ 'f' then c.toNat - 'a'.toNat + 10
  else if 'A' ≤ c && c ≤ 'F' then c.toNat - 'A'.toNat + 10
  else 99

/-- Reads digits of a base, all of them. -/
def readBase? (base : Nat) (digits : List Char) : Option Nat :=
  if digits.isEmpty then none
  else digits.foldlM (fun n c => if digitValue c < base then some (base * n + digitValue c) else none) 0

/-- Reads a constant: hexadecimal after `0x`, octal after `0`, else decimal. -/
def constant? (text : List Char) : Option Nat :=
  match text with
  | '0' :: 'x' :: digits | '0' :: 'X' :: digits => readBase? 16 digits
  | '0' :: digits => if digits.isEmpty then some 0 else readBase? 8 digits
  | digits => readBase? 10 digits

/-- Reads a whole number with an optional sign, between blanks. -/
def integer? (text : String) : Option Int :=
  let isSpace (c : Char) : Bool := c == ' ' || c == '\t' || c == '\n'
  let body := (((text.toList.dropWhile isSpace).reverse.dropWhile isSpace).reverse)
  match body with
  | '-' :: digits => (constant? digits).map fun n => -(n : Int)
  | '+' :: digits => (constant? digits).map fun n => (n : Int)
  | digits => (constant? digits).map fun n => (n : Int)

/-- The longest constant at the start of a text that begins with a digit. -/
def numeral (text : List Char) : List Char :=
  match text with
  | '0' :: 'x' :: rest => '0' :: 'x' :: rest.takeWhile fun c => digitValue c < 16
  | '0' :: 'X' :: rest => '0' :: 'X' :: rest.takeWhile fun c => digitValue c < 16
  | '0' :: rest => '0' :: rest.takeWhile fun c => digitValue c < 8
  | rest => rest.takeWhile Char.isDigit

/-- Splits an expression into symbols. -/
def symbols : (fuel : Nat) → List Char → Option (List Symbol)
  | 0, _ => none
  | _, [] => some []
  | fuel + 1, c :: rest =>
    if c == ' ' || c == '\t' || c == '\n' then symbols fuel rest
    else if c.isDigit then
      let digits := numeral (c :: rest)
      (symbols fuel ((c :: rest).drop digits.length)).map (.number ((constant? digits).getD 0) :: ·)
    else if c.isAlpha || c == '_' then
      let name := (c :: rest).takeWhile fun c => c.isAlphanum || c == '_'
      (symbols fuel ((c :: rest).drop name.length)).map (.name (String.ofList name) :: ·)
    else
      match operators.find? fun operator => operator.toList.isPrefixOf (c :: rest) with
      | some operator => (symbols fuel ((c :: rest).drop operator.length)).map (.operator operator :: ·)
      | none => (symbols fuel rest).map (.operator (String.singleton c) :: ·)

/-- What evaluation needs and changes. -/
structure State where
  rest : List Symbol
  /-- The variables that were assigned, latest first. -/
  assigned : List (String × Int) := []

/-- Evaluation of a part of an expression. -/
abbrev Eval := StateT State (Except String)

/-- The binary operators by how tight they bind, loosest first. -/
def tiers : List (List String) :=
  [["||"], ["&&"], ["|"], ["^"], ["&"], ["==", "!="], ["<", "<=", ">", ">="], ["<<", ">>"], ["+", "-"],
    ["*", "/", "%"]]

def ofBool (b : Bool) : Int := if b then 1 else 0

/-- The result of a binary operator. Division fails on zero, unless the result
    does not count. -/
def binary (live : Bool) (operator : String) (x y : Int) : Except String Int :=
  match operator with
  | "||" => .ok (ofBool (x != 0 || y != 0))
  | "&&" => .ok (ofBool (x != 0 && y != 0))
  | "|" => .ok (Int64.ofInt x ||| Int64.ofInt y).toInt
  | "^" => .ok (Int64.ofInt x ^^^ Int64.ofInt y).toInt
  | "&" => .ok (Int64.ofInt x &&& Int64.ofInt y).toInt
  | "==" => .ok (ofBool (x == y))
  | "!=" => .ok (ofBool (x != y))
  | "<" => .ok (ofBool (x < y))
  | "<=" => .ok (ofBool (x ≤ y))
  | ">" => .ok (ofBool (y < x))
  | ">=" => .ok (ofBool (y ≤ x))
  | "<<" => .ok (Int64.ofInt x <<< Int64.ofInt (y % 64)).toInt
  | ">>" => .ok (Int64.ofInt x >>> Int64.ofInt (y % 64)).toInt
  | "+" => .ok (wrap (x + y))
  | "-" => .ok (wrap (x - y))
  | "*" => .ok (wrap (x * y))
  | "/" => if y == 0 then (if live then .error "division by zero" else .ok 0) else .ok (wrap (x.tdiv y))
  | "%" => if y == 0 then (if live then .error "division by zero" else .ok 0) else .ok (x.tmod y)
  | _ => .error "expecting EOF"

/-- The next symbol if it is one of the operators. -/
def operator? (among : List String) : Eval (Option String) := do
  match (← get).rest with
  | .operator text :: rest =>
    if among.contains text then
      modify fun state => { state with rest }
      return some text
    else return none
  | _ => return none

/-- The value of a variable. `lookup` knows those that were not assigned here. -/
def valueOf (lookup : String → String) (name : String) : Eval Int := do
  match (← get).assigned.lookup name with
  | some n => return n
  | none =>
    let text := lookup name
    if text.isEmpty then return 0
    match integer? text with
    | some n => return wrap n
    | none => throw ("Illegal number: " ++ text)

/-- Evaluates a constant, a variable, an expression in parentheses, or one with a
    sign in front. -/
def primary (lookup : String → String) (whole : (live : Bool) → Eval Int) (live : Bool) :
    (fuel : Nat) → Eval Int
  | 0 => throw "expecting primary"
  | fuel + 1 => do
    match (← get).rest with
    | .number n :: rest =>
      modify fun state => { state with rest }
      return wrap n
    | .name name :: rest =>
      modify fun state => { state with rest }
      valueOf lookup name
    | .operator text :: rest =>
      modify fun state => { state with rest }
      match text with
      | "(" =>
        let n ← whole live
        match ← operator? [")"] with
        | some _ => return n
        | none => throw "expecting ')'"
      | "-" => return wrap (-(← primary lookup whole live fuel))
      | "+" => primary lookup whole live fuel
      | "!" => return ofBool ((← primary lookup whole live fuel) == 0)
      | "~" => return wrap (-(← primary lookup whole live fuel) - 1)
      | _ => throw "expecting primary"
    | [] => throw "expecting primary"

/-- Goes on with a chain of binary operators of one tier. -/
def chainFrom (item : (live : Bool) → Eval Int) (live : Bool) (operators : List String) :
    (fuel : Nat) → (left : Int) → Eval Int
  | 0, left => pure left
  | fuel + 1, left => do
    match ← operator? operators with
    | none => pure left
    | some operator =>
      let counts := live && !(operator == "||" && left != 0) && !(operator == "&&" && left == 0)
      let right ← item counts
      chainFrom item live operators fuel (← binary counts operator left right)

/-- Evaluates binary operators of the tiers, over items that bind tighter. -/
def tiered (item : (live : Bool) → Eval Int) : (tiers : List (List String)) → (live : Bool) → Eval Int
  | [], live => item live
  | operators :: tiers, live => do
    let first ← tiered item tiers live
    chainFrom (tiered item tiers) live operators (← get).rest.length first

/-- The operators that assign, and the one that each applies first. -/
def assignments : List (String × Option String) :=
  [("=", none), ("+=", some "+"), ("-=", some "-"), ("*=", some "*"), ("/=", some "/"), ("%=", some "%"),
    ("<<=", some "<<"), (">>=", some ">>"), ("&=", some "&"), ("|=", some "|"), ("^=", some "^")]

/-- Evaluates an expression that may choose between two others. -/
def conditional (lookup : String → String) (inner : (live : Bool) → Eval Int) (live : Bool) : Eval Int := do
  let size := (← get).rest.length + 1
  let test ← tiered (fun live => primary lookup inner live size) tiers live
  match ← operator? ["?"] with
  | none => return test
  | some _ =>
    let yes ← inner (live && test != 0)
    match ← operator? [":"] with
    | some _ =>
      let no ← inner (live && test == 0)
      return if test != 0 then yes else no
    | none => throw "expecting ':'"

/-- Evaluates a whole expression, which may be an assignment. `fuel` bounds how
    deep expressions stand inside each other. -/
def whole (lookup : String → String) : (fuel : Nat) → (live : Bool) → Eval Int
  | 0, _ => throw "expecting primary"
  | fuel + 1, live => do
    match (← get).rest with
    | .name name :: .operator text :: rest =>
      match assignments.lookup text with
      | some change =>
        modify fun state => { state with rest }
        let right ← whole lookup fuel live
        let value ← match change with
          | none => pure right
          | some operator => do binary live operator (← valueOf lookup name) right
        if live then modify fun state => { state with assigned := (name, value) :: state.assigned }
        return value
      | none => conditional lookup (whole lookup fuel) live
    | _ => conditional lookup (whole lookup fuel) live

/-- The value of an expression, and the variables that it assigns. A failure is
    told with the expression. -/
def evaluate (lookup : String → String) (text : String) : Except String (Int × List (String × Int)) :=
  let complain (problem : String) : String := "arithmetic expression: " ++ problem ++ ": \"" ++ text ++ "\""
  match symbols (text.length + 1) text.toList with
  | none => .error (complain "expecting primary")
  | some [] => .ok (0, [])
  | some rest =>
    match (whole lookup (rest.length + 1) true).run { rest } with
    | .error problem => .error (if "Illegal".isPrefixOf problem then problem else complain problem)
    | .ok (value, state) =>
      if state.rest.isEmpty then .ok (value, state.assigned.reverse) else .error (complain "expecting EOF")

end Rewind.Shell.Arithmetic
