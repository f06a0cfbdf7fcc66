import Rewind.Shell.Tool

namespace Rewind.Shell.Tool

/-- A character the way `cat -v` shows it. -/
def visible (c : Char) : List Char :=
  let low (n : Nat) : List Char :=
    if n < 32 then ['^', Char.ofNat (n + 64)] else if n == 127 then ['^', '?'] else [Char.ofNat n]
  if c == '\t' then [c] else if c.toNat < 128 then low c.toNat else 'M' :: '-' :: low (c.toNat - 128)

/-- Lines with numbers. With `filled`, an empty line has none. `last` is the number
    before them. -/
def numbered (filled : Bool) : (last : Nat) → List (List Char) → List (List Char)
  | _, [] => []
  | last, line :: lines =>
    if filled && line.isEmpty then line :: numbered filled last lines
    else ((padLeft 6 (toString (last + 1))).toList ++ '\t' :: line) :: numbered filled (last + 1) lines

/-- Takes out all but the first of neighbours that are empty. -/
def squeezeEmpty : List (List Char) → List (List Char)
  | [] :: [] :: rest => squeezeEmpty ([] :: rest)
  | line :: rest => line :: squeezeEmpty rest
  | [] => []

/-- Changes the lines of a text, and leaves its last line without an end if it had
    none. -/
def mapLines (text : String) (change : List (List Char) → List (List Char)) : String :=
  let changed := ofLines (change (linesOf text))
  if isWhole text then changed else String.ofList changed.toList.dropLast

/-- Copies its inputs. -/
def cat : Tool :=
  withOptions 1 "cat" { switches := "AbeEnstTuv" } fun options => do
    let has (letters : String) : Bool := letters.toList.any options.has
    let mark (line : List Char) : List Char :=
      let line := if has "Aetv" then line.flatMap visible else line
      let line := if has "AtT" then line.flatMap fun c => if c == '\t' then ['^', 'I'] else [c] else line
      line
    for path in (if options.operands.isEmpty then ["-"] else options.operands) do
      match ← readPath path with
      | .error fault => complain 1 ((plainWording 1 "cat").complaint path fault)
      | .ok text =>
        if options.flags.isEmpty then print text
        else
          print (mapLines text fun lines =>
            let lines := if has "s" then squeezeEmpty lines else lines
            let lines := lines.map mark
            let lines := if has "AeE" then lines.map (· ++ ['$']) else lines
            if has "b" then numbered true 0 lines else if has "n" then numbered false 0 lines else lines)

/-- How much of an input is wanted. -/
inductive Extent where
  | count (n : Nat)
  /-- All but so much at the other end. -/
  | allBut (n : Nat)
  /-- From the one with this number on. -/
  | since (n : Nat)

/-- Reads an extent. -/
def Extent.parse? (text : String) : Option Extent :=
  match text.toList with
  | '-' :: digits => (String.ofList digits).toNat?.map .allBut
  | '+' :: digits => (String.ofList digits).toNat?.map .since
  | digits => (String.ofList digits).toNat?.map .count

/-- The first items of a list. -/
def Extent.first {α : Type} (extent : Extent) (items : List α) : List α :=
  match extent with
  | .count n => items.take n
  | .since n => items.take n
  | .allBut n => items.take (items.length - n)

/-- The last items of a list. -/
def Extent.last {α : Type} (extent : Extent) (items : List α) : List α :=
  match extent with
  | .count n => items.drop (items.length - n)
  | .allBut n => items.drop (items.length - n)
  | .since n => items.drop (n - 1)

/-- Lines, each with its end, if it has one. -/
def endedLines (text : String) : List (List Char) :=
  let lines := linesOf text
  if isWhole text then lines.map (· ++ ['\n'])
  else (lines.dropLast.map (· ++ ['\n'])) ++ lines.getLast?.toList

/-- An old way to write a count: digits behind a dash. -/
def modernise : List String → List String
  | first :: rest =>
    match first.toList with
    | '-' :: c :: digits => if (c :: digits).all Char.isDigit then "-n" :: String.ofList (c :: digits) :: rest
      else first :: rest
    | _ => first :: rest
  | [] => []

/-- The first or last lines or bytes of its inputs. -/
def ends (name : String) (atStart : Bool) : Tool := fun arguments =>
  withOptions 1 name { switches := "qvf", valued := "cn", long := [("lines", 'n'), ("bytes", 'c')] } (fun options => do
    let bytes := options.has 'c'
    let given := (options.value? (if bytes then 'c' else 'n')).getD "10"
    match Extent.parse? given with
    | none =>
      complain 1 (name ++ ": invalid number of " ++ (if bytes then "bytes" else "lines") ++ ": " ++ quote given)
    | some extent =>
      let cut {α : Type} (items : List α) : List α := if atStart then extent.first items else extent.last items
      let paths := if options.operands.isEmpty then ["-"] else options.operands
      let headings := (1 < paths.length && !options.has 'q') || options.has 'v'
      let _ ← paths.foldlM (fun (first : Bool) path => do
        match ← readPath path with
        | .error .isDirectory =>
          if headings then print ((if first then "" else "\n") ++ "==> " ++ path ++ " <==\n")
          complain 1 (name ++ ": error reading " ++ quote path ++ ": Is a directory")
          return !headings && first
        | .error fault =>
          complain 1 (name ++ ": cannot open " ++ quote path ++ " for reading: " ++ fault.words)
          return first
        | .ok text =>
          if headings then
            let title := if path == "-" then "standard input" else path
            print ((if first then "" else "\n") ++ "==> " ++ title ++ " <==\n")
          print (if bytes then String.ofList (cut text.toList) else String.ofList (cut (endedLines text)).flatten)
          return false) true) (modernise arguments)

/-- Whether a character divides words. -/
def isSpace (c : Char) : Bool :=
  c == ' ' || c == '\t' || c == '\n' || c == '\r' || c == '\x0b' || c == '\x0c'

/-- The words of a text. -/
def wordsOf (text : List Char) : List (List Char) := (text.splitOnP isSpace).filter (!·.isEmpty)

/-- Counts lines, words and bytes, and the longest line. -/
def countsOf (text : String) : List Nat :=
  let chars := text.toList
  [chars.count '\n', (wordsOf chars).length, chars.length, chars.length,
    ((linesOf text).map List.length).foldl max 0]

/-- Counts what is in its inputs. The numbers are as wide as the sizes of the files
    need. -/
def wc : Tool :=
  withOptions 1 "wc" { switches := "lwmcL", long := [("lines", 'l'), ("words", 'w'), ("bytes", 'c'), ("chars", 'm')] }
    fun options => do
      let shown := "lwmcL".toList.map fun letter =>
        if options.flags.isEmpty then letter == 'l' || letter == 'w' || letter == 'c' else options.has letter
      let single := (shown.filter id).length == 1
      let paths := if options.operands.isEmpty then ["-"] else options.operands
      let job ← get
      let sizes := paths.filterMap fun path =>
        if path == "-" then some job.inputSize
        else
          match job.files.find path with
          | .ok (_, .file node _) => some (some (job.files.contents node).length)
          | .ok _ => some none
          | .error _ => none
      let total := sizes.foldl (fun sum size => sum + size.getD 0) 0
      let least := if sizes.any (·.isNone) then 7 else 1
      let failedFirst := match job.files.find (paths.headD "-") with
        | .error _ => paths.headD "-" != "-"
        | .ok _ => false
      let width := if (single && paths.length == 1) || failedFirst then 1
        else max least (toString total).length
      let row (counts : List Nat) (label : String) : String :=
        let texts := (counts.zip shown).filterMap fun (n, wanted) =>
          if wanted then some (padLeft width (toString n)) else none
        " ".intercalate texts ++ label ++ "\n"
      let label (path : String) : String := if options.operands.isEmpty then "" else " " ++ path
      let rows ← paths.mapM fun path => do
        match ← readPath path with
        | .error fault =>
          complain 1 ((plainWording 1 "wc").complaint path fault)
          if fault == .isDirectory then print (row [0, 0, 0, 0, 0] (label path))
          return [0, 0, 0, 0, 0]
        | .ok text =>
          print (row (countsOf text) (label path))
          return countsOf text
      if 1 < paths.length then
        let sums := rows.foldl (fun sums counts => (sums.take 4).zipWith (· + ·) (counts.take 4)
          ++ (sums.drop 4).zipWith max (counts.drop 4)) [0, 0, 0, 0, 0]
        print (row sums " total")

/-- Reverses each line. -/
def rev : Tool :=
  withOptions 1 "rev" {} fun options => do
    let wording : Wording :=
      { status := 1, complaint := fun path fault => "rev: cannot open " ++ path ++ ": " ++ fault.words }
    for (_, text) in ← readEach wording options.operands do
      print (mapLines text (·.map List.reverse))

/-- Prints lines in reverse order. -/
def tac : Tool :=
  withOptions 1 "tac" {} fun options => do
    let wording : Wording :=
      { status := 1, complaint := fun path fault =>
          if fault == .isDirectory then "tac: " ++ path ++ ": read error: " ++ fault.words
          else "tac: failed to open " ++ quote path ++ " for reading: " ++ fault.words }
    for (_, text) in ← readEach wording options.operands do
      print (String.ofList (endedLines text).reverse.flatten)

/-- Numbers lines. -/
def nl : Tool :=
  withOptions 1 "nl" { switches := "p", valued := "bwsvni" } fun options => do
    let text ← readAll (plainWording 1 "nl") options.operands
    let style := (options.value? 'b').getD "t"
    let width := ((options.value? 'w').bind (·.toNat?)).getD 6
    let separator := (options.value? 's').getD "\t"
    let start := ((options.value? 'v').bind (·.toNat?)).getD 1
    let step := ((options.value? 'i').bind (·.toNat?)).getD 1
    let written (n : Nat) : String :=
      match (options.value? 'n').getD "rn" with
      | "ln" => toString n ++ String.ofList (List.replicate (width - (toString n).length) ' ')
      | "rz" => String.ofList (List.replicate (width - (toString n).length) '0') ++ toString n
      | _ => padLeft width (toString n)
    let (_, lines) := (linesOf text).foldl (fun (n, lines) line =>
      if style == "a" || (style == "t" && !line.isEmpty) then
        (n + step, ((written n ++ separator).toList ++ line) :: lines)
      else
        (n, (List.replicate (width + separator.length) ' ' ++ line) :: lines)) (start, [])
    print (ofLines lines.reverse)

/-- Breaks a line into pieces of a width. -/
def foldLine (width : Nat) : (fuel : Nat) → List Char → List (List Char)
  | 0, line => [line]
  | fuel + 1, line =>
    if line.length ≤ width || width == 0 then [line]
    else line.take width :: foldLine width fuel (line.drop width)

/-- Breaks lines that are too long. -/
def fold : Tool :=
  withOptions 1 "fold" { switches := "bs", valued := "w" } fun options => do
    let width := ((options.value? 'w').bind (·.toNat?)).getD 80
    for (_, text) in ← readEach (plainWording 1 "fold") options.operands do
      print (mapLines text (·.flatMap fun line => foldLine width line.length line))

/-- The numbers that a list of ranges stands for, as tests. -/
def ranges? (text : String) : Option (List (Nat × Option Nat)) :=
  (text.splitOn ",").mapM fun range =>
    match range.splitOn "-" with
    | [one] => one.toNat?.bind fun n => if n == 0 then none else some (n, some n)
    | [low, high] =>
      match low.isEmpty, high.isEmpty, low.toNat?, high.toNat? with
      | true, false, _, some high => some (1, some high)
      | false, true, some low, _ => if low == 0 then none else some (low, none)
      | false, false, some low, some high => if low == 0 || high < low then none else some (low, some high)
      | _, _, _, _ => none
    | _ => none

/-- The flags of `cut`. -/
def cutSpec : Options.Spec where
  switches := "sn!"
  valued := "bcfdo"
  long := [("delimiter", 'd'), ("fields", 'f'), ("characters", 'c'), ("bytes", 'b'), ("only-delimited", 's'),
    ("complement", '!'), ("output-delimiter", 'o')]

/-- Takes parts out of each line. -/
def cut : Tool :=
  withOptions 1 "cut" cutSpec fun options => do
    let list := (options.value? 'f').or ((options.value? 'c').or (options.value? 'b'))
    match list, list.bind ranges? with
    | none, _ => misuse 1 "cut" "you must specify a list of bytes, characters, or fields"
    | some list, none =>
      let fields := options.has 'f'
      misuse 1 "cut"
        (if list == "0" then (if fields then "fields are" else "byte/character positions are") ++ " numbered from 1"
        else "invalid " ++ (if fields then "field" else "byte/character") ++ " range")
    | some _, some ranges =>
      let delimiter := (options.value? 'd').getD "\t"
      let chosen (n : Nat) : Bool :=
        (ranges.any fun (low, high) => low ≤ n && high.all fun high => n ≤ high) != options.has '!'
      let pick {α : Type} (items : List α) : List α :=
        ((items.zipIdx 1).filter fun (_, n) => chosen n).map (·.1)
      if 1 < delimiter.length then misuse 1 "cut" "the delimiter must be a single character"
      else
        let text ← readAll (plainWording 1 "cut") options.operands
        let divider := delimiter.toList.headD '\x00'
        let joiner := (options.value? 'o').getD delimiter
        print (ofLines ((linesOf text).filterMap fun line =>
          if options.has 'f' then
            if line.contains divider then
              some (joiner.toList.intercalate (pick (line.splitOnP (· == divider))))
            else if options.has 's' then none else some line
          else some (pick line)))

/-- Puts lines side by side. `rows` is how many lines are left at most. -/
def pasteRows (delimiters : List Char) : (rows : Nat) → List (List (List Char)) → List (List Char)
  | 0, _ => []
  | rows + 1, columns =>
    if columns.all List.isEmpty then []
    else
      let heads := columns.map (·.headD [])
      let (line, _) := heads.foldl (fun (line, n) head =>
        (if n == 0 then head
          else line ++ (delimiters[(n - 1) % max delimiters.length 1]?).toList ++ head, n + 1)) ([], 0)
      line :: pasteRows delimiters rows (columns.map List.tail)

/-- Puts every `n`-th line into a column of its own. -/
def dealOut (n : Nat) (lines : List (List Char)) : List (List (List Char)) :=
  (List.range n).map fun column =>
    ((lines.zipIdx).filter fun (_, row) => row % n == column).map (·.1)

/-- Puts the lines of its inputs side by side. -/
def paste : Tool :=
  withOptions 1 "paste" { switches := "s", valued := "d" } fun options => do
    let delimiters := ((options.value? 'd').getD "\t").toList
    let delimiters := if delimiters == ['\\', 'n'] then ['\n'] else delimiters
    let paths := if options.operands.isEmpty then ["-"] else options.operands
    let dashes := (paths.filter (· == "-")).length
    let texts ← readEach (plainWording 1 "paste") paths
    if texts.length == paths.length then
      if options.has 's' then
        for (_, text) in texts do
          let lines := linesOf text
          print (ofLines (pasteRows delimiters 1 (lines.map ([·]))))
      else
        let (_, columns) := texts.foldl (fun (seen, columns) (path, text) =>
          if path == "-" then
            (seen + 1, columns ++ [((dealOut dashes (linesOf text))[seen]?).getD []])
          else (seen, columns ++ [linesOf text])) (0, [])
        print (ofLines (pasteRows delimiters ((columns.map List.length).foldl max 0) columns))

/-- Copies its input to files and to its output. -/
def tee : Tool :=
  withOptions 1 "tee" { switches := "ai" } fun options => do
    let text := (← get).stdin
    for path in options.operands do
      let files := (← get).files
      match files.locate false path with
      | .error fault => complain 1 ((plainWording 1 "tee").complaint path fault)
      | .ok ⟨_, some .directory⟩ => complain 1 ((plainWording 1 "tee").complaint path .isDirectory)
      | .ok ⟨_, some (.file node _)⟩ =>
        modify fun job => { job with
          files := files.modify node fun old => if options.has 'a' then old ++ text else text }
      | .ok ⟨steps, none⟩ => modify fun job => { job with files := (files.create steps text).2 }
      | .ok _ => pure ()
    print text

/-- How many lines `yes` prints, which never ends by itself. -/
def manyLines : Nat := 20000

/-- Prints a line over and over. -/
def yes : Tool := fun arguments =>
  let line := if arguments.isEmpty then "y" else " ".intercalate arguments
  print (String.join (List.replicate manyLines (line ++ "\n")))

/-- The digits of base 64. -/
def digits64 : List Char := "ABCDEFGHIJKLMNOPQRSTUVWXYZabcdefghijklmnopqrstuvwxyz0123456789+/".toList

/-- Bytes in base 64. -/
def encode64 : List Char → List Char
  | a :: b :: c :: rest =>
    let n := a.toNat * 65536 + b.toNat * 256 + c.toNat
    [n / 262144, n / 4096 % 64, n / 64 % 64, n % 64].filterMap (digits64[·]?) ++ encode64 rest
  | [a, b] =>
    let n := a.toNat * 1024 + b.toNat * 4
    [n / 4096, n / 64 % 64, n % 64].filterMap (digits64[·]?) ++ ['=']
  | [a] =>
    let n := a.toNat * 16
    [n / 64, n % 64].filterMap (digits64[·]?) ++ ['=', '=']
  | [] => []

/-- The bytes that digits of base 64 stand for. -/
def decode64 : List Nat → List Char
  | a :: b :: c :: d :: rest =>
    let n := a * 262144 + b * 4096 + c * 64 + d
    [Char.ofNat (n / 65536), Char.ofNat (n / 256 % 256), Char.ofNat (n % 256)] ++ decode64 rest
  | [a, b, c] =>
    let n := a * 4096 + b * 64 + c
    [Char.ofNat (n / 1024), Char.ofNat (n / 4 % 256)]
  | [a, b] => [Char.ofNat ((a * 64 + b) / 16)]
  | _ => []

/-- Writes and reads base 64. -/
def base64 : Tool :=
  withOptions 1 "base64" { switches := "di", valued := "w", long := [("decode", 'd'), ("wrap", 'w')] } fun options => do
    let text ← readAll (plainWording 1 "base64") options.operands
    if options.has 'd' then
      let kept := text.toList.filter fun c => c != '\n' && c != '='
      let values := kept.map fun c => digits64.findIdx? (· == c)
      print (String.ofList (decode64 (values.takeWhile (·.isSome) |>.filterMap id)))
      if values.any (·.isNone) then complain 1 "base64: invalid input"
    else
      let width := ((options.value? 'w').bind (·.toNat?)).getD 76
      let encoded := encode64 text.toList
      if width == 0 then print (String.ofList encoded)
      else if encoded.isEmpty then pure ()
      else print (ofLines (foldLine width encoded.length encoded))

end Rewind.Shell.Tool
