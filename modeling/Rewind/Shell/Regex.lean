import Rewind.Shell.Tool.Translate

namespace Rewind.Shell

/-- A regular expression. -/
inductive Regex where
  | empty
  | char (c : Char)
  | any
  | set (negated : Bool) (accepts : List (Char × Char)) (classes : List String)
  | lineStart
  | lineEnd
  /-- Between a character of a word and one of none, if `inside` is not wanted. -/
  | wordEdge (inside : Bool)
  | wordStart
  | wordEnd
  | group (n : Nat) (body : Regex)
  | again (n : Nat)
  | sequence (left right : Regex)
  | either (left right : Regex)
  | repeated (least : Nat) (most : Option Nat) (body : Regex)

namespace Regex

/-- A place in a text: what is before it, latest first, and what follows. -/
structure Spot where
  before : List Char
  after : List Char

/-- What the groups have matched. -/
abbrev Groups := List (Nat × List Char)

/-- Whether a character is part of a word. -/
def isWordChar (c : Char) : Bool := c.isAlphanum || c == '_'

/-- Whether the text before and after a spot is part of a word. -/
def Spot.sides (spot : Spot) : Bool × Bool :=
  ((spot.before.head?.map isWordChar).getD false, (spot.after.head?.map isWordChar).getD false)

/-- Moves past a character that is accepted. -/
def Spot.step (spot : Spot) (accept : Char → Bool) : List Spot :=
  match spot.after with
  | c :: rest => if accept c then [⟨c :: spot.before, rest⟩] else []
  | [] => []

/-- The same character for upper and lower case, if case is folded. -/
def fold (folded : Bool) (c : Char) : Char := if folded then c.toLower else c

/-- Moves past a text. -/
def Spot.skip (folded : Bool) : (text : List Char) → Spot → List Spot
  | [], spot => [spot]
  | c :: text, spot => (spot.step fun d => fold folded d == fold folded c).flatMap (Spot.skip folded text)

/-- Repeats `body`, as often as possible first. Rounds that match nothing are not
    repeated. -/
def rounds (body : Spot × Groups → List (Spot × Groups)) :
    (fuel least : Nat) → (most : Option Nat) → Spot × Groups → List (Spot × Groups)
  | 0, least, _, here => if least == 0 then [here] else []
  | fuel + 1, least, most, here =>
    let more := if most == some 0 then []
      else (body here).flatMap fun next =>
        if next.1.after.length == here.1.after.length then (if least ≤ 1 then [next] else
          rounds body fuel (least - 1) (most.map (· - 1)) next)
        else rounds body fuel (least - 1) (most.map (· - 1)) next
    more ++ (if least == 0 then [here] else [])

/-- All ways to match at a spot. -/
def ways (folded : Bool) : Regex → Spot × Groups → List (Spot × Groups)
  | empty, here => [here]
  | char c, (spot, groups) => (spot.step fun d => fold folded d == fold folded c).map (·, groups)
  | any, (spot, groups) => (spot.step fun _ => true).map (·, groups)
  | set negated ranges classes, (spot, groups) =>
    let accepts (c : Char) : Bool :=
      (ranges.any fun (low, high) => low ≤ c && c ≤ high)
        || classes.any fun name => ((Tool.classNamed? name).map (· c)).getD false
    let accepts (c : Char) : Bool :=
      if folded then accepts c.toLower || accepts c.toUpper else accepts c
    (spot.step fun c => accepts c != negated).map (·, groups)
  | lineStart, here => if here.1.before.isEmpty then [here] else []
  | lineEnd, here => if here.1.after.isEmpty then [here] else []
  | wordEdge inside, here =>
    let (before, after) := here.1.sides
    if (before != after) != inside then [here] else []
  | wordStart, here =>
    let (before, after) := here.1.sides
    if !before && after then [here] else []
  | wordEnd, here =>
    let (before, after) := here.1.sides
    if before && !after then [here] else []
  | group n body, here =>
    (ways folded body here).map fun (spot, groups) =>
      let size := here.1.after.length - spot.after.length
      (spot, (n, here.1.after.take size) :: groups.filter (·.1 != n))
  | again n, (spot, groups) =>
    match groups.lookup n with
    | some text => (spot.skip folded text).map (·, groups)
    | none => []
  | sequence left right, here => (ways folded left here).flatMap (ways folded right)
  | either left right, here => ways folded left here ++ ways folded right here
  | repeated least most body, here => rounds (ways folded body) (here.1.after.length + least + 1) least most here

/-- A match: what is before it, latest first, the matched text, what is after it, and
    the groups. -/
structure Match where
  before : List Char
  text : List Char
  after : List Char
  groups : Groups

/-- The longest match at a spot. -/
def matchAt? (folded : Bool) (regex : Regex) (spot : Spot) : Option Match :=
  let best := (ways folded regex (spot, [])).foldl (fun best way =>
    match best with
    | none => some way
    | some (other, groups) => if way.1.after.length < other.after.length then some way else some (other, groups))
    none
  best.map fun (after, groups) =>
    { before := spot.before, text := spot.after.take (spot.after.length - after.after.length)
      after := after.after, groups }

/-- The first match from a spot on, and of those the longest. -/
def search? (folded : Bool) (regex : Regex) (before : List Char) : (after : List Char) → Option Match
  | [] => matchAt? folded regex ⟨before, []⟩
  | c :: after =>
    (matchAt? folded regex ⟨before, c :: after⟩).or (search? folded regex (c :: before) after)

/-- A reader of part of an expression: what was read, the number of groups, and what
    is left. -/
abbrev Reading := Except String (Regex × Nat × List Char)

/-- Reads the ranges and classes of a set up to its closing bracket, which is not the
    first character. -/
def readMembers : (fuel : Nat) → (first : Bool) → List Char →
    Except String (List (Char × Char) × List String × List Char)
  | 0, _, _ => .error "Unmatched [, [^, [:, [., or [="
  | _, _, [] => .error "Unmatched [, [^, [:, [., or [="
  | fuel + 1, first, c :: rest =>
    if c == ']' && !first then .ok ([], [], rest)
    else
      match c, rest with
      | '[', ':' :: rest => do
        let name := rest.takeWhile (· != ':')
        let (ranges, classes, after) ← readMembers fuel false (rest.drop (name.length + 2))
        return (ranges, String.ofList name :: classes, after)
      | low, '-' :: high :: rest =>
        if high == ']' then do
          let (ranges, classes, after) ← readMembers fuel false ('-' :: high :: rest)
          return ((low, low) :: ranges, classes, after)
        else if high < low then .error "Invalid range end"
        else do
          let (ranges, classes, after) ← readMembers fuel false rest
          return ((low, high) :: ranges, classes, after)
      | c, rest => do
        let (ranges, classes, after) ← readMembers fuel false rest
        return ((c, c) :: ranges, classes, after)

/-- Reads a set after its opening bracket. -/
def readSet (chars : List Char) : Except String (Regex × List Char) := do
  let (negated, chars) := match chars with
    | '^' :: rest => (true, rest)
    | rest => (false, rest)
  let (ranges, classes, rest) ← readMembers (chars.length + 1) true chars
  return (.set negated ranges classes, rest)

/-- Reads the bounds of a repetition after the opening brace. -/
def readBounds (extended : Bool) (chars : List Char) : Except String (Nat × Option Nat × List Char) :=
  let low := chars.takeWhile Char.isDigit
  let least := (String.ofList low).toNat?.getD 0
  let close (rest : List Char) (most : Option Nat) : Except String (Nat × Option Nat × List Char) :=
    match extended, rest with
    | true, '\x7d' :: rest => .ok (least, most, rest)
    | false, '\\' :: '\x7d' :: rest => .ok (least, most, rest)
    | _, _ => .error "Invalid content of \\\x7b\\\x7d"
  match chars.drop low.length with
  | ',' :: rest =>
    let high := rest.takeWhile Char.isDigit
    close (rest.drop high.length) (String.ofList high).toNat?
  | rest => close rest (some least)

/-- A mark that says how often what is before it is repeated, and what is after the
    mark. -/
def readMark (extended : Bool) : List Char → Except String (Option (Nat × Option Nat) × List Char)
  | '*' :: rest => .ok (some (0, none), rest)
  | '\\' :: '+' :: rest => if extended then .ok (none, '\\' :: '+' :: rest) else .ok (some (1, none), rest)
  | '\\' :: '?' :: rest => if extended then .ok (none, '\\' :: '?' :: rest) else .ok (some (0, some 1), rest)
  | '\\' :: '\x7b' :: rest =>
    if extended then .ok (none, '\\' :: '\x7b' :: rest)
    else do
      let (least, most, rest) ← readBounds false rest
      return (some (least, most), rest)
  | '+' :: rest => if extended then .ok (some (1, none), rest) else .ok (none, '+' :: rest)
  | '?' :: rest => if extended then .ok (some (0, some 1), rest) else .ok (none, '?' :: rest)
  | '\x7b' :: rest =>
    if extended && (rest.head?.map fun c => c.isDigit || c == ',').getD false then do
      let (least, most, rest) ← readBounds true rest
      return (some (least, most), rest)
    else .ok (none, '\x7b' :: rest)
  | rest => .ok (none, rest)

/-- Reads the marks after an item. -/
def readMarks (extended : Bool) : (fuel : Nat) → Regex → List Char → Except String (Regex × List Char)
  | 0, item, rest => .ok (item, rest)
  | fuel + 1, item, rest => do
    match ← readMark extended rest with
    | (some (least, most), rest) => readMarks extended fuel (.repeated least most item) rest
    | (none, rest) => return (item, rest)

/-- Whether what follows ends a branch. -/
def endsBranch (extended : Bool) : List Char → Bool
  | [] => true
  | '|' :: _ => extended
  | ')' :: _ => extended
  | '\\' :: '|' :: _ => !extended
  | '\\' :: ')' :: _ => !extended
  | _ => false

/-- An escape that stands for a class or an edge. -/
def escape? : Char → Option Regex
  | 'w' => some (.set false [('a', 'z'), ('A', 'Z'), ('0', '9'), ('_', '_')] [])
  | 'W' => some (.set true [('a', 'z'), ('A', 'Z'), ('0', '9'), ('_', '_')] [])
  | 's' => some (.set false [] ["space"])
  | 'S' => some (.set true [] ["space"])
  | 'b' => some (.wordEdge false)
  | 'B' => some (.wordEdge true)
  | '<' => some .wordStart
  | '>' => some .wordEnd
  | 'n' => some (.char '\n')
  | 't' => some (.char '\t')
  | _ => none

/-- Reads an expression: branches, each a row of items with marks. `groups` is how
    many groups were opened before, and `branch` what was read of the current branch. -/
def read (extended : Bool) : (fuel groups : Nat) → (branch : Option Regex) → List Char → Reading
  | 0, _, _, _ => .error "Regular expression too big"
  | fuel + 1, groups, branch, chars =>
    let fresh := branch.isNone
    let goOn (item : Regex) (groups : Nat) (rest : List Char) : Reading := do
      let (item, rest) ← readMarks extended (rest.length + 1) item rest
      read extended fuel groups (some (match branch with
        | some before => .sequence before item
        | none => item)) rest
    let opening (rest : List Char) : Reading := do
      let (body, inner, rest) ← read extended fuel (groups + 1) none rest
      match extended, rest with
      | true, ')' :: rest => goOn (.group (groups + 1) body) inner rest
      | false, '\\' :: ')' :: rest => goOn (.group (groups + 1) body) inner rest
      | _, _ => .error "Unmatched ( or \\("
    let alternative (rest : List Char) : Reading := do
      let (right, groups, rest) ← read extended fuel groups none rest
      return (.either (branch.getD .empty) right, groups, rest)
    match chars with
    | [] => .ok (branch.getD .empty, groups, [])
    | '\\' :: '(' :: rest => if extended then goOn (.char '(') groups rest else opening rest
    | '\\' :: '|' :: rest => if extended then goOn (.char '|') groups rest else alternative rest
    | '\\' :: ')' :: rest => if extended then goOn (.char ')') groups rest
      else .ok (branch.getD .empty, groups, '\\' :: ')' :: rest)
    | '\\' :: c :: rest =>
      if c.isDigit && c != '0' then goOn (.again (c.toNat - '0'.toNat)) groups rest
      else goOn ((escape? c).getD (.char c)) groups rest
    | '(' :: rest => if extended then opening rest else goOn (.char '(') groups rest
    | ')' :: rest => if extended then .ok (branch.getD .empty, groups, ')' :: rest)
      else goOn (.char ')') groups rest
    | '|' :: rest => if extended then alternative rest else goOn (.char '|') groups rest
    | '.' :: rest => goOn .any groups rest
    | '[' :: rest => do
      let (item, rest) ← readSet rest
      goOn item groups rest
    | '^' :: rest =>
      if extended || fresh then
        match rest, extended with
        | '*' :: rest, false => do
          let (item, rest) ← readMarks extended (rest.length + 1) (.char '*') rest
          read extended fuel groups (some (.sequence .lineStart item)) rest
        | rest, _ => read extended fuel groups (some (match branch with
            | some before => .sequence before .lineStart
            | none => .lineStart)) rest
      else goOn (.char '^') groups rest
    | '$' :: rest =>
      if extended || endsBranch extended rest then goOn .lineEnd groups rest else goOn (.char '$') groups rest
    | c :: rest => goOn (.char c) groups rest

/-- Reads a whole expression. -/
def parse (extended : Bool) (text : String) : Except String Regex := do
  match ← read extended (2 * text.length + 2) 0 none text.toList with
  | (regex, _, []) => return regex
  | (_, _, _ :: _) => .error "Unmatched ) or \\)"

/-- An expression that matches a text as it stands. -/
def ofText (text : String) : Regex :=
  text.toList.foldr (fun c rest => .sequence (.char c) rest) .empty

end Regex

end Rewind.Shell
