import Rewind.Shell.Regex

namespace Rewind.Shell.Tool

/-- All matches in a line, none of them empty. -/
def matchesIn (found? : (before after : List Char) → Option Regex.Match) :
    (fuel : Nat) → (before after : List Char) → List (List Char)
  | 0, _, _ => []
  | fuel + 1, before, after =>
    match found? before after with
    | none => []
    | some found =>
      if found.text.isEmpty then
        match found.after with
        | [] => []
        | c :: rest => matchesIn found? fuel (c :: found.before) rest
      else found.text :: matchesIn found? fuel (found.text.reverse ++ found.before) found.after

/-- The first of two matches, or the longer one if they begin together. -/
def earlier (a b : Option Regex.Match) : Option Regex.Match :=
  match a, b with
  | some a, some b =>
    if b.before.length < a.before.length
        || (b.before.length == a.before.length && a.text.length < b.text.length) then some b
    else some a
  | some a, none => some a
  | none, b => b

/-- A match that is a word or a line of its own. -/
def aloneIn (wholeLine : Bool) (found : Regex.Match) : Bool :=
  if wholeLine then found.before.isEmpty && found.after.isEmpty
  else !(found.before.head?.map Regex.isWordChar).getD false && !(found.after.head?.map Regex.isWordChar).getD false

/-- The flags of `grep`. -/
def grepSpec : Options.Spec where
  switches := "vicnqoEFGwxlLhHsraz"
  valued := "em"
  long := [("count", 'c'), ("ignore-case", 'i'), ("invert-match", 'v'), ("quiet", 'q'), ("only-matching", 'o')]

/-- Prints the lines of its inputs that match. -/
def grep : Tool :=
  withOptions 2 "grep" grepSpec fun options => do
    let (patterns, paths) := options.leading 'e'
    if !options.has 'e' && options.operands.isEmpty then
      complain 2 "Usage: grep [OPTION]... PATTERNS [FILE]...\nTry 'grep --help' for more information."
    else
      let texts := patterns.flatMap fun pattern => pattern.splitOn "\n"
      let regexes : Except String (List Regex) := texts.mapM fun text => do
        let regex ← if options.has 'F' then pure (Regex.ofText text) else Regex.parse (options.has 'E') text
        return if options.has 'x' then .sequence .lineStart (.sequence (.group 0 regex) .lineEnd) else regex
      match regexes with
      | .error problem => complain 2 ("grep: " ++ problem)
      | .ok regexes =>
        let found? (before after : List Char) : Option Regex.Match :=
          regexes.foldl (fun best regex => earlier best (regex.search? (options.has 'i') before after)) none
        let fits (line : List Char) : Bool :=
          match found? [] line with
          | none => false
          | some found =>
            if options.has 'w' then
              aloneIn false found || (matchesIn (fun before after =>
                (found? before after).filter (aloneIn false)) (line.length + 1) [] line) != []
            else true
        let named := (1 < paths.length || options.has 'H') && !options.has 'h'
        let wording : Wording := plainWording 2 "grep"
        let paths := if paths.isEmpty then ["-"] else paths
        let results ← paths.mapM fun path => do
          match ← readPath path with
          | .error fault =>
            if options.has 's' then setStatus 2 else complain wording.status (wording.complaint path fault)
            return (false, true)
          | .ok text =>
            let hits := ((linesOf text).zipIdx 1).filter fun (line, _) => fits line != options.has 'v'
            let hits := match (options.value? 'm').bind (·.toNat?) with
              | some most => hits.take most
              | none => hits
            let title := if path == "-" then "(standard input)" else path
            let label := if named then title ++ ":" else ""
            if options.has 'q' then pure ()
            else if options.has 'l' then
              unless hits.isEmpty do print (title ++ "\n")
            else if options.has 'L' then
              if hits.isEmpty then print (title ++ "\n")
            else if options.has 'c' then print (label ++ toString hits.length ++ "\n")
            else
              for (line, n) in hits do
                let front := label ++ (if options.has 'n' then toString n ++ ":" else "")
                if options.has 'o' then
                  unless options.has 'v' do
                    for piece in matchesIn found? (line.length + 1) [] line do
                      print (front ++ String.ofList piece ++ "\n")
                else print (front ++ String.ofList line ++ "\n")
            return (!hits.isEmpty, false)
        let any := results.any (·.1)
        let failed := results.any (·.2)
        setStatus (if any && options.has 'q' then 0 else if failed then 2 else if any then 0 else 1)

end Rewind.Shell.Tool
