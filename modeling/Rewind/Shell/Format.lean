import Rewind.Number.Literal
import Rewind.Shell.Arithmetic

namespace Rewind.Shell.Format

/-- The value of an octal digit. -/
def octal? (c : Char) : Option Nat := if '0' ≤ c && c ≤ '7' then some (c.toNat - '0'.toNat) else none

/-- Reads at most `n` octal digits as a byte. -/
def readOctal : (n : Nat) → List Char → (value : Nat) → Char × List Char
  | n + 1, c :: rest, value =>
    match octal? c with
    | some digit => readOctal n rest (8 * value + digit)
    | none => (Char.ofNat (value % 256), c :: rest)
  | _, rest, value => (Char.ofNat (value % 256), rest)

/-- The character that a letter after a backslash stands for. -/
def letter? : Char → Option Char
  | '\\' => some '\\'
  | 'a' => some '\x07'
  | 'b' => some '\x08'
  | 'f' => some '\x0c'
  | 'n' => some '\n'
  | 'r' => some '\r'
  | 't' => some '\t'
  | 'v' => some '\x0b'
  | _ => none

/-- Reads an escape after its backslash. A backslash that begins none stands for
    itself. -/
def readEscape (rest : List Char) : Char × List Char :=
  match rest with
  | c :: after =>
    match letter? c, octal? c with
    | some char, _ => (char, after)
    | none, some _ => readOctal 3 rest 0
    | none, none => ('\\', rest)
  | [] => ('\\', [])

/-- Replaces the escapes of a text. `\c` ends all output, which the flag tells,
    and octal digits come after a zero. -/
def unescape : (fuel : Nat) → List Char → List Char × Bool
  | 0, _ => ([], false)
  | _, [] => ([], false)
  | _ + 1, '\\' :: 'c' :: _ => ([], true)
  | fuel + 1, '\\' :: '0' :: rest =>
    let (char, after) := readOctal 3 rest 0
    let (text, ended) := unescape fuel after
    (char :: text, ended)
  | fuel + 1, '\\' :: rest =>
    let (char, after) := readEscape rest
    let (text, ended) := unescape fuel after
    (char :: text, ended)
  | fuel + 1, c :: rest =>
    let (text, ended) := unescape fuel rest
    (c :: text, ended)

/-- What `echo` prints for its arguments. -/
def echo (arguments : List String) : String :=
  let (newline, words) := match arguments with
    | "-n" :: rest => (false, rest)
    | rest => (true, rest)
  let text := (" ".intercalate words).toList
  let (text, ended) := unescape (text.length + 1) text
  String.ofList (if newline && !ended then text ++ ['\n'] else text)

/-- How a value is put into a format. -/
structure Directive where
  left : Bool := false
  zero : Bool := false
  plus : Bool := false
  blank : Bool := false
  alternate : Bool := false
  width : Nat := 0
  precision : Option Nat := none

/-- Reads the flags of a directive. -/
def readFlags : List Char → Directive → Directive × List Char
  | '-' :: rest, d => readFlags rest { d with left := true }
  | '0' :: rest, d => readFlags rest { d with zero := true }
  | '+' :: rest, d => readFlags rest { d with plus := true }
  | ' ' :: rest, d => readFlags rest { d with blank := true }
  | '#' :: rest, d => readFlags rest { d with alternate := true }
  | rest, d => (d, rest)

/-- Reads a number without a sign, or zero. -/
def readCount (rest : List Char) : Nat × List Char :=
  let digits := rest.takeWhile Char.isDigit
  (Number.digitsValue digits, rest.drop digits.length)

/-- Fills a text up to the width of a directive. -/
def Directive.pad (d : Directive) (text : List Char) : List Char :=
  let fill := List.replicate (d.width - text.length) ' '
  if d.left then text ++ fill else fill ++ text

/-- Fills a number up to the width, after its sign where zeros are asked for. -/
def Directive.padNumber (d : Directive) (sign body : List Char) (zeros : Bool) : List Char :=
  if d.zero && zeros && !d.left then
    sign ++ List.replicate (d.width - sign.length - body.length) '0' ++ body
  else d.pad (sign ++ body)

/-- The sign of a number. -/
def Directive.sign (d : Directive) (negative : Bool) : List Char :=
  if negative then ['-'] else if d.plus then ['+'] else if d.blank then [' '] else []

/-- Digits of a natural number, as many as the precision asks for at least. -/
def Directive.digits (d : Directive) (base : Nat) (n : Nat) : List Char :=
  let digits := if n == 0 && d.precision == some 0 then [] else Nat.toDigits base n
  List.replicate (d.precision.getD 1 - digits.length) '0' ++ digits

/-- A whole number by its directive. -/
def Directive.integer (d : Directive) (conversion : Char) (n : Int) : List Char :=
  let unsigned := (n % Arithmetic.wordCount).toNat
  match conversion with
  | 'o' => d.padNumber [] (d.digits 8 unsigned) d.precision.isNone
  | 'u' => d.padNumber [] (d.digits 10 unsigned) d.precision.isNone
  | 'x' => d.padNumber (if d.alternate && n != 0 then ['0', 'x'] else []) (d.digits 16 unsigned)
      d.precision.isNone
  | 'X' => d.padNumber (if d.alternate && n != 0 then ['0', 'X'] else [])
      ((d.digits 16 unsigned).map Char.toUpper) d.precision.isNone
  | _ => d.padNumber (d.sign (n < 0)) (d.digits 10 n.natAbs) d.precision.isNone

/-- A nonnegative fraction with so many digits after the point. -/
def fixed (num den places : Nat) (point : Bool) : List Char :=
  let digits := Nat.toDigits 10 (Number.roundDiv (num * Nat.pow 10 places) den)
  let digits := List.replicate (places + 1 - digits.length) '0' ++ digits
  let whole := digits.length - places
  digits.take whole ++ (if places == 0 && !point then [] else '.' :: digits.drop whole)

/-- The digits of a nonnegative fraction, `places + 1` of them, and the exponent of
    the first. -/
def leadingDigits (num den places : Nat) : List Char × Int :=
  if num == 0 then (List.replicate (places + 1) '0', 0)
  else
    let exponent := Number.leadingExponent num den
    let shift := (places : Int) - exponent
    let digits := Nat.toDigits 10 (Number.roundDiv (num * Nat.pow 10 shift.toNat) (den * Nat.pow 10 (-shift).toNat))
    (digits.take (places + 1), if places + 1 < digits.length then exponent + 1 else exponent)

/-- A nonnegative fraction with a power of ten. -/
def scientific (digits : List Char) (exponent : Int) (point : Bool) : List Char :=
  let power := Nat.toDigits 10 exponent.natAbs
  let power := List.replicate (2 - power.length) '0' ++ power
  let rest := digits.drop 1
  digits.take 1 ++ (if rest.isEmpty && !point then [] else '.' :: rest)
    ++ 'e' :: (if exponent < 0 then '-' else '+') :: power

/-- Takes zeros off the end of a fraction. -/
def stripZeros (text : List Char) : List Char :=
  if text.contains '.' then
    let text := (text.reverse.dropWhile (· == '0')).reverse
    if text.getLast? == some '.' then text.dropLast else text
  else text

/-- A number with a fraction by its directive. -/
def Directive.real (d : Directive) (conversion : Char) (x : Float) : List Char :=
  let sign := d.sign (Number.isNegative x)
  let upper := conversion.isUpper
  let body := match Number.magnitude x with
    | .nan => "nan".toList
    | .infinite => "inf".toList
    | .finite value =>
      let places := d.precision.getD 6
      match conversion.toLower with
      | 'f' => fixed value.num value.den places d.alternate
      | 'e' =>
        let (digits, exponent) := leadingDigits value.num value.den places
        scientific digits exponent d.alternate
      | _ =>
        let places := if places == 0 then 1 else places
        let (digits, exponent) := leadingDigits value.num value.den (places - 1)
        if exponent < -4 || (places : Int) ≤ exponent then
          let significant := (digits.reverse.dropWhile (· == '0')).reverse
          scientific (if significant.isEmpty then ['0'] else significant) exponent d.alternate
        else stripZeros (fixed value.num value.den ((places : Int) - 1 - exponent).toNat d.alternate)
  d.padNumber sign (if upper then body.map Char.toUpper else body)
    (Number.magnitude x matches .finite _)

/-- What is printed so far, what was complained about, and the arguments that are
    left. -/
structure Progress where
  printed : List Char := []
  complaints : List String := []
  arguments : List String
  ended : Bool := false
  /-- Whether the format itself makes no sense. -/
  broken : Bool := false

/-- The next argument of a format. -/
def Progress.take (p : Progress) : String × Progress :=
  match p.arguments with
  | [] => ("", p)
  | argument :: rest => (argument, { p with arguments := rest })

/-- An argument as a whole number. One that begins with a quote stands for the
    character after it. -/
def Progress.takeInteger (p : Progress) : Int × Progress :=
  if p.arguments.isEmpty then (0, p)
  else
    let (argument, p) := p.take
    match argument.toList with
    | '\x22' :: c :: _ | '\x27' :: c :: _ => (c.toNat, p)
    | _ =>
      match Arithmetic.integer? argument with
      | some n => (n, p)
      | none =>
        let (negative, body) := match argument.toList.dropWhile (· == ' ') with
          | '-' :: rest => (true, rest)
          | rest => (false, rest)
        let digits := body.takeWhile Char.isDigit
        let n : Int := Number.digitsValue digits
        let problem := if digits.isEmpty then ": expected numeric value" else ": not completely converted"
        (if negative then -n else n, { p with complaints := p.complaints ++ [argument ++ problem] })

/-- An argument as a number with a fraction. -/
def Progress.takeReal (p : Progress) : Float × Progress :=
  if p.arguments.isEmpty then (Number.nearest false 0 1, p)
  else
    let (argument, p) := p.take
    match argument.toList with
    | '\x22' :: c :: _ | '\x27' :: c :: _ => (Number.nearest false c.toNat 1, p)
    | text =>
      match Number.Literal.parse? text with
      | some literal => (literal.value, p)
      | none =>
        (Number.nearest false 0 1, { p with complaints := p.complaints ++ [argument ++ ": expected numeric value"] })

/-- Prints text. -/
def Progress.print (p : Progress) (text : List Char) : Progress := { p with printed := p.printed ++ text }

/-- Reads a width or a precision, which may come from the arguments. -/
def Progress.readCount (p : Progress) (rest : List Char) : Int × List Char × Progress :=
  match rest with
  | '*' :: rest =>
    let (n, p) := p.takeInteger
    (n, rest, p)
  | rest =>
    let (n, rest) := Format.readCount rest
    (n, rest, p)

/-- Prints one directive, after its percent sign. -/
def directive (p : Progress) (rest : List Char) : Progress × List Char :=
  let (d, rest) := readFlags rest {}
  let (width, rest, p) := p.readCount rest
  let d := { d with width := width.natAbs, left := d.left || width < 0 }
  let (d, rest, p) := match rest with
    | '.' :: rest =>
      let (precision, rest, p) := p.readCount rest
      ({ d with precision := if precision < 0 then none else some precision.toNat }, rest, p)
    | rest => (d, rest, p)
  match rest with
  | [] => ({ p with complaints := p.complaints ++ ["missing format character"], ended := true, broken := true }, [])
  | conversion :: rest =>
    if conversion == '%' then (p.print ['%'], rest)
    else if conversion == 's' then
      let (argument, p) := p.take
      let text := argument.toList
      (p.print (d.pad ((d.precision.map text.take).getD text)), rest)
    else if conversion == 'b' then
      let (argument, p) := p.take
      let (text, ended) := unescape (argument.length + 1) argument.toList
      let p := p.print (d.pad ((d.precision.map text.take).getD text))
      ({ p with ended := p.ended || ended }, rest)
    else if conversion == 'c' then
      let (argument, p) := p.take
      (p.print (d.pad (argument.toList.take 1)), rest)
    else if ['d', 'i', 'o', 'u', 'x', 'X'].contains conversion then
      let (n, p) := p.takeInteger
      (p.print (d.integer conversion n), rest)
    else if ['e', 'E', 'f', 'F', 'g', 'G'].contains conversion then
      let (x, p) := p.takeReal
      (p.print (d.real conversion x), rest)
    else
      ({ p with
          complaints := p.complaints ++ ["%" ++ String.singleton conversion ++ ": invalid directive"]
          ended := true
          broken := true }, [])

/-- Prints a format once. -/
def once : (fuel : Nat) → (format : List Char) → Progress → Progress
  | 0, _, p => p
  | _, [], p => p
  | fuel + 1, c :: rest, p =>
    if p.ended then p
    else if c == '\\' then
      let (char, rest) := readEscape rest
      once fuel rest (p.print [char])
    else if c == '%' then
      let (p, rest) := directive p rest
      once fuel rest p
    else once fuel rest (p.print [c])

/-- Prints a format as often as it takes to use all arguments up. -/
def repeated (format : List Char) : (fuel : Nat) → Progress → Progress
  | 0, p => p
  | fuel + 1, p =>
    let after := once (format.length + 1) format p
    if after.arguments.isEmpty || after.ended || after.arguments.length == p.arguments.length then after
    else repeated format fuel after

/-- What `printf` prints for a format and arguments, its complaints, and its
    status. -/
def printf (format : String) (arguments : List String) : String × List String × Nat :=
  let p := repeated format.toList (arguments.length + 1) { arguments }
  (String.ofList p.printed, p.complaints, if p.broken then 2 else if p.complaints.isEmpty then 0 else 1)

end Rewind.Shell.Format
