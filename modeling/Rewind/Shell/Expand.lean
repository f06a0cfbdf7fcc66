import Rewind.Shell.Arithmetic
import Rewind.Shell.Pattern
import Rewind.Shell.World

namespace Rewind.Shell

/-- A piece of an expanded word. -/
inductive Piece where
  /-- A character. With `splits`, it divides fields if it is one of the
      separators. -/
  | glyph (glyph : Glyph) (splits : Bool)
  /-- A place where there is a field, even if nothing is in it. -/
  | anchor
  /-- The end of a field. -/
  | gap

namespace Sh

/-- The number of the process. -/
def processId : String := "4242"

/-- The characters that divide fields. -/
def separators : Sh (List Char) := do
  return ((← value? "IFS").getD " \t\n").toList

/-- Pieces of text. -/
def piecesOf (text : String) (quoted splits : Bool) : List Piece :=
  let glyphs := text.toList.map fun char => Piece.glyph ⟨char, quoted⟩ splits
  if quoted then .anchor :: glyphs else glyphs

/-- The text of pieces, without any division into fields. -/
def textOfPieces (pieces : List Piece) : String :=
  String.ofList (pieces.filterMap fun piece =>
    match piece with
    | .glyph glyph _ => some glyph.char
    | .gap => some ' '
    | .anchor => none)

/-- The characters of pieces. -/
def glyphsOf (pieces : List Piece) : List Glyph :=
  pieces.filterMap fun piece =>
    match piece with
    | .glyph glyph _ => some glyph
    | _ => none

/-- The value of a parameter that is a single text. -/
def parameter? (name : String) : Sh (Option String) := do
  let state ← get
  match name with
  | "#" => return some (toString state.arguments.length)
  | "?" => return some (toString state.status)
  | "$" => return some processId
  | "!" => return none
  | "-" => return some ""
  | "0" => return some state.name
  | name =>
    match name.toNat? with
    | some n => return state.arguments[n - 1]?
    | none => value? name

/-- Pieces for all arguments. Each is a field of its own, unless `joined` and
    quoted. -/
def argumentPieces (joined quoted : Bool) : Sh (List Piece) := do
  let arguments := (← get).arguments
  if joined && quoted then
    let separator := match (← separators) with
      | [] => ""
      | c :: _ => String.singleton c
    return piecesOf (separator.intercalate arguments) true false
  else
    let fields := arguments.map fun argument => piecesOf argument quoted (!quoted)
    return fields.intersperse [.gap] |>.flatten

/-- Expands a parameter. `word` expands the word that comes with it. -/
def expandParameter (name : String) (use : Use) (nullCounts quoted : Bool) (word : Sh (List Piece)) :
    Sh (List Piece) := do
  let all := name == "@" || name == "*"
  let value? ← if all then do
      let arguments := (← get).arguments
      pure (if arguments.isEmpty then none else some (" ".intercalate arguments))
    else parameter? name
  let value := value?.getD ""
  let present := value?.isSome && !(nullCounts && value.isEmpty)
  let plain : Sh (List Piece) :=
    if all then argumentPieces (name == "*") quoted else pure (piecesOf value quoted (!quoted))
  match use with
  | .value =>
    if (← get).unsetFails && value?.isNone && !all then fatal (name ++ ": parameter not set")
    else plain
  | .length => return piecesOf (toString value.length) quoted (!quoted)
  | .orElse => if present then plain else word
  | .ifSet => if present then word else pure []
  | .orAssign =>
    if present then plain
    else
      let value := textOfPieces (← word)
      setVariable name value
      return piecesOf value quoted (!quoted)
  | .orFail =>
    if present then plain
    else
      let text := textOfPieces (← word)
      let text := if text.isEmpty then (if nullCounts then "parameter not set or null" else "parameter not set")
        else text
      fatal (name ++ ": " ++ text)
  | .dropHead longest =>
    let pattern := Pattern.ofGlyphs (glyphsOf (← word))
    return piecesOf (String.ofList (Pattern.dropHead pattern longest value.toList)) quoted (!quoted)
  | .dropTail longest =>
    let pattern := Pattern.ofGlyphs (glyphsOf (← word))
    return piecesOf (String.ofList (Pattern.dropTail pattern longest value.toList)) quoted (!quoted)

/-- What a command prints, as it becomes part of another one: without the line
    ends at its end. -/
def substitute (body : Sh Unit) : Sh String := do
  let text := (← capture body).toList.filter (· != '\x00')
  return String.ofList ((text.reverse.dropWhile (· == '\n')).reverse)

/-- The value of an arithmetic expression. -/
def calculate (text : String) : Sh String := do
  let bindings := (← get).bindings
  let arguments := (← get).arguments
  let lookup (name : String) : String :=
    match name.toNat? with
    | some n => arguments[n - 1]?.getD ""
    | none => (bindings.lookup name).getD ""
  match Arithmetic.evaluate lookup text with
  | .error problem => fatal problem
  | .ok (value, assigned) =>
    for (name, n) in assigned do
      setVariable name (toString n)
    return toString value

/-- Expands parts of a word, `fuel` levels deep. `run` runs a command. -/
def expandParts (run : Command → Sh Unit) : (fuel : Nat) → List Part → Sh (List Piece)
  | 0, _ => fatal "too deep"
  | fuel + 1, parts => do
    let inner := expandParts run fuel
    let pieces ← parts.mapM fun part =>
      match part with
      | .text text quoted => pure (piecesOf text quoted false)
      | .param name use nullCounts word quoted =>
        expandParameter name use nullCounts quoted (inner word)
      | .output body quoted => do
        return piecesOf (← substitute (run body)) quoted (!quoted)
      | .arithmetic expression quoted => do
        return piecesOf (← calculate (textOfPieces (← inner expression))) quoted (!quoted)
    return pieces.flatten

/-- Divides pieces into fields. `field` is what is known of the current one, and
    `afterBlank` whether the last one was ended by a blank. -/
def divide (separators : List Char) : List Piece → (field : Option (List Glyph)) → (afterBlank : Bool) →
    List (List Glyph)
  | [], field, _ => (field.map List.reverse).toList
  | .anchor :: rest, field, _ => divide separators rest (some (field.getD [])) false
  | .gap :: rest, field, _ => (field.map List.reverse).toList ++ divide separators rest none false
  | .glyph glyph splits :: rest, field, afterBlank =>
    if splits && separators.contains glyph.char then
      if glyph.char == ' ' || glyph.char == '\t' || glyph.char == '\n' then
        (field.map List.reverse).toList ++ divide separators rest none (afterBlank || field.isSome)
      else
        match field with
        | some field => field.reverse :: divide separators rest none false
        | none => if afterBlank then divide separators rest none false
          else [] :: divide separators rest none false
    else divide separators rest (some (glyph :: field.getD [])) false

/-- The paths that steps of a pattern stand for, after those that `before`
    stands for. -/
def pathsFor (files : Files) : (steps : List (List Glyph)) → (before : String) → List String
  | [], before => [before]
  | step :: steps, before =>
    if Pattern.isPattern step then
      let pattern := Pattern.ofGlyphs step
      let hidden := (step.head?.map (·.char)) == some '.'
      let names := match files.find (if before.isEmpty then "." else before) with
        | .ok (place, .directory) => (if hidden then [".", ".."] else []) ++ files.names place
        | _ => []
      let fitting := names.filter fun name =>
        Pattern.fits pattern name.toList && (hidden || name.toList.head? != some '.')
      fitting.flatMap fun name => pathsFor files steps (before ++ name ++ (if steps.isEmpty then "" else "/"))
    else
      let next := before ++ textOf step
      if steps.isEmpty then
        match files.locate true next with
        | .ok ⟨_, some _⟩ => [next]
        | _ => []
      else pathsFor files steps (next ++ "/")

/-- The files that a field stands for, if it is a pattern that some match. -/
def filesFor (glyphs : List Glyph) : Sh (List String) := do
  if Pattern.isPattern glyphs && (← get).namesFiles then
    let found := pathsFor (← get).files (glyphs.splitOnP (·.char == '/')) ""
    return if found.isEmpty then [textOf glyphs] else found.mergeSort
  else return [textOf glyphs]

/-- Expands words into fields. -/
def expandFields (run : Command → Sh Unit) (words : List (List Part)) : Sh (List String) := do
  let separators ← separators
  let fields ← words.mapM fun word => do
    let pieces ← expandParts run 1000 word
    let fields ← (divide separators pieces none false).mapM filesFor
    return fields.flatten
  return fields.flatten

/-- Expands a word into one text. -/
def expandText (run : Command → Sh Unit) (word : List Part) : Sh String := do
  return textOfPieces (← expandParts run 1000 word)

/-- Expands a word into a pattern. -/
def expandPattern (run : Command → Sh Unit) (word : List Part) : Sh (List Pattern.Element) := do
  return Pattern.ofGlyphs (glyphsOf (← expandParts run 1000 word))

end Sh

end Rewind.Shell
