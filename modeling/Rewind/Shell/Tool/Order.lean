import Rewind.Shell.Tool.Text

namespace Rewind.Shell.Tool

/-- Whether one text comes before another, or is the same. -/
def textLe (a b : List Char) : Bool := !decide (b < a)

/-- A number that a text begins with, in units of its last place. -/
structure Leading where
  value : Int
  places : Nat

/-- The number at the start of a text, zero if there is none. -/
def Leading.of (text : List Char) : Leading :=
  let text := text.dropWhile fun c => c == ' ' || c == '\t'
  let (negative, text) := match text with
    | '-' :: rest => (true, rest)
    | rest => (false, rest)
  let whole := text.takeWhile Char.isDigit
  let fraction := match text.drop whole.length with
    | '.' :: rest => rest.takeWhile Char.isDigit
    | _ => []
  let magnitude : Nat := (whole ++ fraction).foldl (fun n c => 10 * n + (c.toNat - '0'.toNat)) 0
  ⟨if negative then -(magnitude : Int) else magnitude, fraction.length⟩

/-- How two such numbers compare. -/
def Leading.compare (a b : Leading) : Ordering :=
  Ord.compare (a.value * (Nat.pow 10 b.places : Nat)) (b.value * (Nat.pow 10 a.places : Nat))

/-- What lines are sorted by. -/
structure Key where
  first : Nat := 1
  last : Option Nat := none
  numeric : Bool := false
  reversed : Bool := false
  folded : Bool := false
  skipsBlanks : Bool := false

/-- Adds the letters of a key. -/
def Key.withLetters (key : Key) (letters : List Char) : Key :=
  { key with
    numeric := key.numeric || letters.contains 'n' || letters.contains 'g'
    reversed := key.reversed || letters.contains 'r'
    folded := key.folded || letters.contains 'f'
    skipsBlanks := key.skipsBlanks || letters.contains 'b' }

/-- Reads a key such as `2,3nr`. Letters replace those that hold for all keys. -/
def Key.parse? (base : Key) (text : String) : Option Key := do
  let read (part : String) : Option (Nat × List Char) :=
    let digits := part.toList.takeWhile Char.isDigit
    let rest := part.toList.drop digits.length
    let rest := match rest with
      | '.' :: rest => rest.dropWhile Char.isDigit
      | rest => rest
    (String.ofList digits).toNat?.map (·, rest)
  let parts ← (text.splitOn ",").mapM read
  match parts with
  | [(first, letters)] => some ({ (if letters.isEmpty then base else {}) with first }.withLetters letters)
  | [(first, before), (last, after)] =>
    let letters := before ++ after
    some ({ (if letters.isEmpty then base else {}) with first, last := some last }.withLetters letters)
  | _ => none

/-- Fields that begin with the blanks before them. -/
def blankFields : (fuel : Nat) → List Char → List (List Char)
  | 0, _ => []
  | _, [] => []
  | fuel + 1, line =>
    let blanks := line.takeWhile fun c => c == ' ' || c == '\t'
    let word := (line.drop blanks.length).takeWhile fun c => c != ' ' && c != '\t'
    (blanks ++ word) :: blankFields fuel (line.drop (blanks.length + word.length))

/-- The part of a line that a key stands for. -/
def Key.part (key : Key) (separator : Option Char) (line : List Char) : List Char :=
  let fields := match separator with
    | some c => line.splitOnP (· == c)
    | none => blankFields line.length line
  let chosen := match key.last with
    | some last => (fields.take last).drop (key.first - 1)
    | none => fields.drop (key.first - 1)
  let text := match separator with
    | some c => [c].intercalate chosen
    | none => chosen.flatten
  let text := if key.skipsBlanks then text.dropWhile fun c => c == ' ' || c == '\t' else text
  if key.folded then text.map Char.toUpper else text

/-- How two lines compare by a key. -/
def Key.compare (key : Key) (separator : Option Char) (a b : List Char) : Ordering :=
  let a := key.part separator a
  let b := key.part separator b
  let order := if key.numeric then (Leading.of a).compare (Leading.of b)
    else if a < b then .lt else if a == b then .eq else .gt
  if key.reversed then order.swap else order

/-- Keeps the first of neighbours that are alike. -/
def dropAlike (alike : List Char → List Char → Bool) : List (List Char) → List (List Char)
  | a :: b :: rest =>
    if alike a b then dropAlike alike (a :: rest) else a :: dropAlike alike (b :: rest)
  | rest => rest
termination_by lines => lines.length

/-- Sorts the lines of its inputs. -/
def sort : Tool :=
  withOptions 2 "sort" { switches := "nrufbsgdhcV", valued := "kto", long := [("reverse", 'r'), ("unique", 'u')] }
    fun options => do
      let wording : Wording :=
        { status := 2, complaint := fun path fault =>
            if fault == .isDirectory then "sort: read failed: " ++ path ++ ": " ++ fault.words
            else "sort: cannot read: " ++ path ++ ": " ++ fault.words }
      let base : Key := ({} : Key).withLetters (options.flags.map (·.1))
      let keys := (options.flags.filter (·.1 == 'k')).filterMap fun (_, text) => Key.parse? base text
      let keys := if keys.isEmpty then [base] else keys
      let separator := (options.value? 't').bind (·.toList.head?)
      let byKeys (a b : List Char) : Ordering :=
        keys.foldl (fun order key => order.then (key.compare separator a b)) .eq
      let full (a b : List Char) : Ordering :=
        let order := byKeys a b
        if order != .eq || options.has 's' || options.has 'u' then order
        else
          let last : Ordering := if a < b then .lt else if a == b then .eq else .gt
          if options.has 'r' then last.swap else last
      let paths := if options.operands.isEmpty then ["-"] else options.operands
      let texts ← readEach wording paths
      if texts.length == paths.length then
        let lines := texts.flatMap fun (_, text) => linesOf text
        let sorted := lines.mergeSort fun a b => full a b != .gt
        let sorted := if options.has 'u' then dropAlike (fun a b => byKeys a b == .eq) sorted else sorted
        match options.value? 'o' with
        | some path =>
          match (← get).files.locate false path with
          | .ok ⟨_, some (.file node _)⟩ =>
            modify fun job => { job with files := job.files.modify node fun _ => ofLines sorted }
          | .ok ⟨steps, none⟩ => modify fun job => { job with files := (job.files.create steps (ofLines sorted)).2 }
          | _ => complain 2 ("sort: open failed: " ++ path ++ ": " ++ PathFault.missing.words)
        | none => print (ofLines sorted)

/-- Neighbours that are alike, in groups. -/
def groupAlike (alike : List Char → List Char → Bool) (lines : List (List Char)) : List (List Char × Nat) :=
  (lines.foldl (fun groups line =>
    match groups with
    | (first, n) :: rest => if alike first line then (first, n + 1) :: rest else (line, 1) :: groups
    | [] => [(line, 1)]) []).reverse

/-- Keeps one of neighbours that are alike. -/
def uniq : Tool :=
  withOptions 1 "uniq" { switches := "cdui", long := [("count", 'c'), ("repeated", 'd'), ("unique", 'u')] }
    fun options => do
      let text ← readAll (plainWording 1 "uniq") (options.operands.take 1)
      let alike (a b : List Char) : Bool :=
        if options.has 'i' then a.map Char.toLower == b.map Char.toLower else a == b
      let groups := (groupAlike alike (linesOf text)).filter fun (_, n) =>
        (!options.has 'd' || 1 < n) && (!options.has 'u' || n == 1)
      print (ofLines (groups.map fun (line, n) =>
        if options.has 'c' then (padLeft 7 (toString n) ++ " ").toList ++ line else line))

end Rewind.Shell.Tool
