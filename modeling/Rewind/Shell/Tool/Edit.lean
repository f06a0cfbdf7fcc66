import Rewind.Shell.Tool.Search

namespace Rewind.Shell.Tool.Edit

/-- Which lines a command is for. -/
inductive Address where
  | line (n : Nat)
  | final
  | matching (regex : Regex) (folded : Bool)
  /-- Every so many lines, from one on. -/
  | every (first step : Nat)

/-- The lines of a command: all, one address, or from one to another. -/
inductive Scope where
  | all
  | one (address : Address)
  | between (first last : Address)
  /-- From an address for so many lines more. -/
  | following (first : Address) (n : Nat)

/-- A piece of what is put in place of a match. -/
inductive Filling where
  | char (c : Char)
  | group (n : Nat)
  /-- Changes the case of what follows: up, down, or as it is. -/
  | shape (upper : Option Bool)

/-- What a command does. -/
inductive Action where
  | delete
  | print
  | quit (status : Nat)
  | number
  | next
  | substitute (regex : Regex) (folded : Bool) (filling : List Filling) (all : Bool) (nth : Nat) (prints : Bool)
  | exchange (pairs : List (Char × Char))
  | append (text : String)
  | insert (text : String)
  | change (text : String)
  /-- The start of a block of so many commands, which are passed over on other
      lines. -/
  | block (size : Nat)
  | nothing

/-- A command of an editing script. -/
structure Step where
  scope : Scope
  negated : Bool
  action : Action

/-- Text up to a mark, in which the mark may stand behind a backslash or in a set. -/
def upTo (mark : Char) (inSet : Bool) : List Char → Option (List Char × List Char)
  | [] => none
  | '\\' :: c :: rest =>
    (upTo mark inSet rest).map fun (text, after) =>
      if c == mark && !inSet then (c :: text, after)
      else if c == 'n' then ('\\' :: 'n' :: text, after)
      else ('\\' :: c :: text, after)
  | c :: rest =>
    if c == mark && !inSet then some ([], rest)
    else
      let inside := if c == '[' then true else if c == ']' then false else inSet
      (upTo mark inside rest).map fun (text, after) => (c :: text, after)

/-- Text up to a mark, without any sets. -/
def plainUpTo (mark : Char) : List Char → Option (List Char × List Char)
  | [] => none
  | '\\' :: c :: rest =>
    (plainUpTo mark rest).map fun (text, after) =>
      if c == mark then (c :: text, after) else ('\\' :: c :: text, after)
  | c :: rest =>
    if c == mark then some ([], rest) else (plainUpTo mark rest).map fun (text, after) => (c :: text, after)

/-- Reads an address, if there is one. -/
def readAddress (extended : Bool) : List Char → Except String (Option Address × List Char)
  | '$' :: rest => .ok (some .final, rest)
  | '/' :: rest =>
    match upTo '/' false rest with
    | none => .error "unterminated address regex"
    | some (text, rest) => do
      let regex ← Regex.parse extended (String.ofList text)
      match rest with
      | 'I' :: rest => return (some (.matching regex true), rest)
      | rest => return (some (.matching regex false), rest)
  | c :: rest =>
    if c.isDigit then
      let digits := (c :: rest).takeWhile Char.isDigit
      let n := (String.ofList digits).toNat?.getD 0
      match (c :: rest).drop digits.length with
      | '~' :: rest =>
        let step := rest.takeWhile Char.isDigit
        .ok (some (.every n ((String.ofList step).toNat?.getD 0)), rest.drop step.length)
      | rest => .ok (some (.line n), rest)
    else .ok (none, c :: rest)
  | [] => .ok (none, [])

/-- Reads what is put in place of a match. -/
def readFilling : List Char → List Filling
  | '\\' :: c :: rest =>
    let item : Filling := if c.isDigit then .group (c.toNat - '0'.toNat)
      else if c == 'n' then .char '\n' else if c == 't' then .char '\t'
      else if c == 'U' then .shape (some true) else if c == 'L' then .shape (some false)
      else if c == 'E' then .shape none
      else .char c
    item :: readFilling rest
  | '&' :: rest => .group 0 :: readFilling rest
  | c :: rest => .char c :: readFilling rest
  | [] => []

/-- Skips blanks and separators between commands. -/
def skipSeparators (chars : List Char) : List Char :=
  chars.dropWhile fun c => c == ' ' || c == '\t' || c == ';' || c == '\n'

/-- Text that a command puts in, up to the end of the line. -/
def readText (chars : List Char) : String × List Char :=
  let chars := chars.dropWhile fun c => c == ' ' || c == '\t'
  let chars := match chars with
    | '\\' :: rest => (rest.dropWhile fun c => c == ' ' || c == '\t').dropWhile (· == '\n')
    | rest => rest
  let line := chars.takeWhile (· != '\n')
  (String.ofList line, chars.drop line.length)

/-- Reads what a command does. -/
def readAction (extended : Bool) : List Char → Except String (Action × List Char)
  | 'd' :: rest => .ok (.delete, rest)
  | 'p' :: rest => .ok (.print, rest)
  | 'n' :: rest => .ok (.next, rest)
  | '=' :: rest => .ok (.number, rest)
  | 'q' :: rest =>
    let rest := rest.dropWhile (· == ' ')
    let digits := rest.takeWhile Char.isDigit
    .ok (.quit ((String.ofList digits).toNat?.getD 0), rest.drop digits.length)
  | 'a' :: rest =>
    let (text, rest) := readText rest
    .ok (.append text, rest)
  | 'i' :: rest =>
    let (text, rest) := readText rest
    .ok (.insert text, rest)
  | 'c' :: rest =>
    let (text, rest) := readText rest
    .ok (.change text, rest)
  | 'y' :: mark :: rest =>
    match plainUpTo mark rest with
    | none => .error "unterminated `y' command"
    | some (source, rest) =>
      match plainUpTo mark rest with
      | none => .error "unterminated `y' command"
      | some (target, rest) =>
        if source.length == target.length then .ok (.exchange (source.zip target), rest)
        else .error "strings for `y' command are different lengths"
  | 's' :: mark :: rest =>
    match upTo mark false rest with
    | none => .error "unterminated `s' command"
    | some (pattern, rest) =>
      match plainUpTo mark rest with
      | none => .error "unterminated `s' command"
      | some (filling, rest) => do
        let flags := rest.takeWhile fun c => c == 'g' || c == 'p' || c == 'i' || c == 'I' || c.isDigit
        let regex ← Regex.parse extended (String.ofList pattern)
        let nth := ((String.ofList (flags.filter Char.isDigit)).toNat?).getD 1
        return (.substitute regex (flags.contains 'i' || flags.contains 'I') (readFilling filling)
          (flags.contains 'g') nth (flags.contains 'p'), rest.drop flags.length)
  | '#' :: rest => .ok (.nothing, rest.dropWhile (· != '\n'))
  | c :: _ => .error ("unknown command: `" ++ String.singleton c ++ "'")
  | [] => .error "missing command"

/-- Reads the lines that a command is for. -/
def readScope (extended : Bool) (chars : List Char) : Except String (Scope × List Char) := do
  match ← readAddress extended chars with
  | (none, rest) => return (.all, rest)
  | (some first, ',' :: rest) =>
    match rest with
    | '+' :: rest =>
      let digits := rest.takeWhile Char.isDigit
      return (.following first ((String.ofList digits).toNat?.getD 0), rest.drop digits.length)
    | rest =>
      match ← readAddress extended rest with
      | (some last, rest) => return (.between first last, rest)
      | (none, _) => .error "unexpected `,'"
  | (some first, rest) => return (.one first, rest)

/-- Reads a script, or a block so deep inside it, with what is left. -/
def readScript (extended : Bool) : (fuel depth : Nat) → List Char → Except String (List Step × List Char)
  | 0, _, _ => .ok ([], [])
  | fuel + 1, depth, chars => do
    match skipSeparators chars with
    | [] => if depth == 0 then return ([], []) else .error "unmatched `\x7b'"
    | '\x7d' :: rest => if depth == 0 then .error "unexpected `\x7d'" else return ([], rest)
    | chars =>
      let (scope, rest) ← readScope extended chars
      let rest := rest.dropWhile (· == ' ')
      let (negated, rest) := match rest with
        | '!' :: rest => (true, rest.dropWhile (· == ' '))
        | rest => (false, rest)
      match rest with
      | '\x7b' :: rest =>
        let (inner, rest) ← readScript extended fuel (depth + 1) rest
        let (more, rest) ← readScript extended fuel depth rest
        return ({ scope, negated, action := .block inner.length } :: inner ++ more, rest)
      | rest =>
        let (action, rest) ← readAction extended rest
        let rest := rest.dropWhile fun c => c == ' ' || c == '\t'
        if (rest.head?.all fun c => c == ';' || c == '\n' || c == '\x7d') || action matches .nothing then
          let (more, rest) ← readScript extended fuel depth rest
          return ({ scope, negated, action } :: more, rest)
        else
          match action with
          | .substitute .. => .error "unknown option to `s'"
          | _ => .error "extra characters after command"

/-- Puts a filling in place of a match. -/
def fill (found : Regex.Match) : (upper : Option Bool) → List Filling → List Char
  | _, [] => []
  | _, .shape upper :: rest => fill found upper rest
  | upper, item :: rest =>
    let text := match item with
      | .char c => [c]
      | .group 0 => found.text
      | .group n => (found.groups.lookup n).getD []
      | .shape _ => []
    let text := match upper with
      | some true => text.map Char.toUpper
      | some false => text.map Char.toLower
      | none => text
    text ++ fill found upper rest

/-- Replaces matches in a line, from the `nth` one on, and tells whether any was
    replaced. -/
def replace (regex : Regex) (folded : Bool) (filling : List Filling) (all : Bool) :
    (fuel nth : Nat) → (before after : List Char) → (afterMatch : Bool) → List Char × Bool
  | 0, _, _, after, _ => (after, false)
  | fuel + 1, nth, before, after, afterMatch =>
    match regex.search? folded before after with
    | none => (after, false)
    | some found =>
      let skipped := after.take (after.length - found.text.length - found.after.length)
      if found.text.isEmpty && afterMatch && skipped.isEmpty then
        match found.after with
        | [] => ([], false)
        | c :: rest =>
          let (text, any) := replace regex folded filling all fuel nth (c :: before) rest false
          (c :: text, any)
      else
        let reached := found.text.reverse ++ found.before
        let goOn (nth : Nat) : List Char × Bool :=
          if found.text.isEmpty then
            match found.after with
            | [] => ([], false)
            | c :: rest =>
              let (text, any) := replace regex folded filling all fuel nth (c :: reached) rest false
              (c :: text, any)
          else replace regex folded filling all fuel nth reached found.after true
        if nth ≤ 1 then
          let put := skipped ++ fill found none filling
          if all then (put ++ (goOn 1).1, true) else (put ++ found.after, true)
        else
          let (text, any) := goOn (nth - 1)
          (skipped ++ found.text ++ text, any)

/-- The line that is being edited. -/
structure Cycle where
  line : List Char
  number : Nat
  isLast : Bool
  /-- What was printed, latest first. -/
  printed : List String := []
  /-- What is printed after the line. -/
  appended : List String := []
  deleted : Bool := false
  quit : Option Nat := none
  /-- For each range by its place in the script, whether it is open, and up to which
      line if that is known. -/
  ranges : List (Nat × Option Nat) := []

/-- Whether an address is the current line. -/
def Cycle.isAt (cycle : Cycle) : Address → Bool
  | .line n => cycle.number == n
  | .final => cycle.isLast
  | .matching regex folded => (regex.search? folded [] cycle.line).isSome
  | .every first step =>
    if step == 0 then cycle.number == first else first ≤ cycle.number && (cycle.number - first) % step == 0

/-- Whether a scope holds for the current line, with the ranges after it. -/
def Cycle.covers (cycle : Cycle) (place : Nat) : Scope → Bool × Cycle
  | .all => (true, cycle)
  | .one address => (cycle.isAt address, cycle)
  | .following first n =>
    match cycle.ranges.lookup place with
    | some (some final) =>
      (true, if final ≤ cycle.number then { cycle with ranges := cycle.ranges.filter (·.1 != place) } else cycle)
    | _ =>
      if cycle.isAt first then
        (true, if n == 0 then cycle else { cycle with ranges := (place, some (cycle.number + n)) :: cycle.ranges })
      else (false, cycle)
  | .between first last =>
    let close : Cycle := { cycle with ranges := cycle.ranges.filter (·.1 != place) }
    match cycle.ranges.lookup place with
    | some _ =>
      match last with
      | .line n => (cycle.number ≤ n, if n ≤ cycle.number then close else cycle)
      | other => (true, if cycle.isAt other then close else cycle)
    | none =>
      if cycle.isAt first then
        match last with
        | .line n =>
          (true, if n ≤ cycle.number then cycle else { cycle with ranges := (place, none) :: cycle.ranges })
        | .final => (true, if cycle.isLast then cycle else { cycle with ranges := (place, none) :: cycle.ranges })
        | _ => (true, { cycle with ranges := (place, none) :: cycle.ranges })
      else (false, cycle)

/-- Prints text with a line end. -/
def Cycle.say (cycle : Cycle) (text : String) : Cycle := { cycle with printed := (text ++ "\n") :: cycle.printed }

/-- Does what a command does. -/
def Cycle.act (cycle : Cycle) (action : Action) : Cycle :=
  match action with
  | .delete => { cycle with deleted := true }
  | .print => cycle.say (String.ofList cycle.line)
  | .quit status => { cycle with quit := some status }
  | .number => cycle.say (toString cycle.number)
  | .next => cycle
  | .substitute regex folded filling all nth prints =>
    let (line, any) := replace regex folded filling all (2 * cycle.line.length + 2) nth [] cycle.line false
    if any then
      let cycle := { cycle with line }
      if prints then cycle.say (String.ofList line) else cycle
    else cycle
  | .exchange pairs => { cycle with line := cycle.line.map fun c => (pairs.lookup c).getD c }
  | .append text => { cycle with appended := cycle.appended ++ [text ++ "\n"] }
  | .insert text => cycle.say text
  | .change text => { cycle.say text with deleted := true }
  | .block _ => cycle
  | .nothing => cycle

/-- Runs a script on a line. -/
def Cycle.run (steps : List (Step × Nat)) (cycle : Cycle) : Cycle :=
  match steps with
  | [] => cycle
  | (step, place) :: steps =>
    let (covered, cycle) := cycle.covers place step.scope
    if covered == step.negated then
      let passed := match step.action with
        | .block size => size
        | _ => 0
      Cycle.run (steps.drop passed) cycle
    else
      let cycle := cycle.act step.action
      if cycle.deleted || cycle.quit.isSome then cycle else Cycle.run steps cycle
termination_by steps.length
decreasing_by all_goals simp; try omega

/-- Edits lines one after another. -/
def edit (quiet : Bool) (steps : List (Step × Nat)) :
    (number : Nat) → (ranges : List (Nat × Option Nat)) → List (List Char) → List String × Nat
  | _, _, [] => ([], 0)
  | number, ranges, line :: lines =>
    let cycle := Cycle.run steps { line, number, isLast := lines.isEmpty, ranges := ranges }
    let own := if quiet || cycle.deleted then [] else [String.ofList cycle.line ++ "\n"]
    let printed := cycle.printed.reverse ++ own ++ cycle.appended
    match cycle.quit with
    | some status => (printed, status)
    | none =>
      let (rest, status) := edit quiet steps (number + 1) cycle.ranges lines
      (printed ++ rest, status)

end Edit

/-- The flags of `sed`. -/
def sedSpec : Options.Spec where
  switches := "nErsui"
  valued := "e"
  long := [("quiet", 'n'), ("regexp-extended", 'E'), ("expression", 'e')]

/-- Edits the lines of its inputs by a script. -/
def sed : Tool :=
  withOptions 1 "sed" sedSpec fun options => do
    let (scripts, paths) := options.leading 'e'
    let extended := options.has 'E' || options.has 'r'
    if scripts.isEmpty then complain 1 "Usage: sed [OPTION]... \x7bscript-only-if-no-other-script\x7d [input-file]..."
    else
      let script := "\n".intercalate scripts
      match Edit.readScript extended (script.length + 1) 0 script.toList with
      | .error problem =>
        let place := if "unmatched".isPrefixOf problem then 0 else script.length
        complain 1 ("sed: -e expression #1, char " ++ toString place ++ ": " ++ problem)
      | .ok (steps, _) =>
        let wording : Wording :=
          { status := 2, complaint := fun path fault =>
              if fault == .isDirectory then "sed: couldn't edit " ++ path ++ ": not a regular file"
              else "sed: can't read " ++ path ++ ": " ++ fault.words }
        let edited (text : String) : String × Nat :=
          let (printed, status) := Edit.edit (options.has 'n') steps.zipIdx 1 [] (linesOf text)
          let printed := String.join printed
          (if isWhole text then printed else String.ofList printed.toList.dropLast, status)
        if options.has 'i' then
          for path in paths do
            match (← get).files.find path with
            | .ok (_, .file node _) =>
              modify fun job => { job with files := job.files.modify node fun text => (edited text).1 }
            | .ok _ => complain 4 (wording.complaint path .isDirectory)
            | .error fault => complain 2 (wording.complaint path fault)
        else
          let text ← readAll wording paths
          let (printed, status) := edited text
          print printed
          unless status == 0 do setStatus status

end Rewind.Shell.Tool
