import Rewind.Shell.Tool.Text

namespace Rewind.Shell.Tool

/-- A class of characters by its name. -/
def classNamed? : String → Option (Char → Bool)
  | "upper" => some Char.isUpper
  | "lower" => some Char.isLower
  | "alpha" => some Char.isAlpha
  | "digit" => some Char.isDigit
  | "alnum" => some Char.isAlphanum
  | "xdigit" => some fun c => c.isDigit || ('a' ≤ c && c ≤ 'f') || ('A' ≤ c && c ≤ 'F')
  | "space" => some isSpace
  | "blank" => some fun c => c == ' ' || c == '\t'
  | "cntrl" => some fun c => c.toNat < 32 || c.toNat == 127
  | "punct" => some fun c => 32 < c.toNat && c.toNat < 127 && !c.isAlphanum
  | "graph" => some fun c => 32 < c.toNat && c.toNat < 127
  | "print" => some fun c => 32 ≤ c.toNat && c.toNat < 127
  | _ => none

/-- All characters below 256. -/
def allChars : List Char := (List.range 256).map Char.ofNat

/-- Reads a character of a set, which may be written with a backslash. -/
def readEscaped : List Char → Option (Char × List Char)
  | '\\' :: 'n' :: rest => some ('\n', rest)
  | '\\' :: 't' :: rest => some ('\t', rest)
  | '\\' :: 'r' :: rest => some ('\r', rest)
  | '\\' :: 'a' :: rest => some ('\x07', rest)
  | '\\' :: 'b' :: rest => some ('\x08', rest)
  | '\\' :: 'f' :: rest => some ('\x0c', rest)
  | '\\' :: 'v' :: rest => some ('\x0b', rest)
  | '\\' :: '\\' :: rest => some ('\\', rest)
  | '\\' :: c :: rest =>
    let digits := ((c :: rest).take 3).takeWhile fun c => '0' ≤ c && c ≤ '7'
    if digits.isEmpty then some (c, rest)
    else some (Char.ofNat (digits.foldl (fun n c => 8 * n + (c.toNat - '0'.toNat)) 0 % 256),
      (c :: rest).drop digits.length)
  | c :: rest => some (c, rest)
  | [] => none

/-- The characters of a set, in which ranges, classes and escapes may stand. -/
def charsOfSet : (fuel : Nat) → List Char → List Char
  | 0, _ => []
  | _, [] => []
  | fuel + 1, '[' :: ':' :: rest =>
    let name := rest.takeWhile (· != ':')
    match classNamed? (String.ofList name), rest.drop name.length with
    | some accept, ':' :: ']' :: rest => allChars.filter accept ++ charsOfSet fuel rest
    | _, _ => '[' :: charsOfSet fuel (':' :: rest)
  | fuel + 1, chars =>
    match readEscaped chars with
    | none => []
    | some (low, '-' :: rest) =>
      match readEscaped rest with
      | some (high, after) =>
        (List.range (high.toNat + 1 - low.toNat)).map (fun n => Char.ofNat (low.toNat + n))
          ++ charsOfSet fuel after
      | none => low :: charsOfSet fuel ('-' :: rest)
    | some (c, rest) => c :: charsOfSet fuel rest

/-- Takes out all but the first of equal neighbours among some characters. -/
def squeeze (among : Char → Bool) : List Char → List Char
  | a :: b :: rest =>
    if a == b && among a then squeeze among (b :: rest) else a :: squeeze among (b :: rest)
  | rest => rest

/-- Replaces, deletes or squeezes characters of the standard input. -/
def tr : Tool :=
  withOptions 1 "tr" { switches := "cCdst" } fun options => do
    let text := (← get).stdin.toList
    let set (written : String) : List Char := charsOfSet (written.length + 1) written.toList
    let inverse := options.has 'c' || options.has 'C'
    let member (written : String) (c : Char) : Bool := (set written).contains c != inverse
    let translate (source target : String) : List Char :=
      let sources := if inverse then allChars.filter (member source) else set source
      let targets := set target
      text.map fun c =>
        match (sources.zipIdx.filter fun (d, _) => d == c).getLast? with
        | some (_, n) => (targets[n]? <|> targets.getLast?).getD c
        | none => c
    match options.operands, options.has 'd', options.has 's' with
    | [], _, _ => misuse 1 "tr" "missing operand"
    | [source], true, false => print (String.ofList (text.filter fun c => !member source c))
    | [source], false, true => print (String.ofList (squeeze (member source) text))
    | [source], true, true =>
      misuse 1 "tr" ("missing operand after " ++ quote source
        ++ "\nTwo strings must be given when both deleting and squeezing repeats.")
    | [source], false, false =>
      misuse 1 "tr" ("missing operand after " ++ quote source ++ "\nTwo strings must be given when translating.")
    | [source, target], true, true =>
      print (String.ofList (squeeze (fun c => (set target).contains c)
        (text.filter fun c => !member source c)))
    | [_, target], true, false =>
      misuse 1 "tr" ("extra operand " ++ quote target
        ++ "\nOnly one string may be given when deleting without squeezing repeats.")
    | [source, target], false, squeezes =>
      let changed := translate source target
      print (String.ofList (if squeezes then squeeze (fun c => (set target).contains c) changed else changed))
    | _ :: _ :: extra :: _, _, _ => misuse 1 "tr" ("extra operand " ++ quote extra)

end Rewind.Shell.Tool
