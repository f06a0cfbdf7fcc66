import Rewind.Shell.Tool.Count
import Rewind.Shell.Tool.Edit
import Rewind.Shell.Tool.Order
import Rewind.Shell.Tool.Tree

namespace Rewind.Shell.Tool

/-- Tells who is asking, who is always the same. -/
def id : Tool :=
  withOptions 1 "id" { switches := "ugnGr" } fun options =>
    if options.has 'n' then print "root\n"
    else if options.has 'u' || options.has 'g' || options.has 'G' then print "0\n"
    else print "uid=0(root) gid=0(root) groups=0(root)\n"

/-- Tells about the system. -/
def uname : Tool :=
  withOptions 1 "uname" { switches := "smo" } fun options =>
    let words := (if options.has 's' || options.flags.isEmpty then ["Linux"] else [])
      ++ (if options.has 'm' then ["x86_64"] else []) ++ (if options.has 'o' then ["GNU/Linux"] else [])
    print (" ".intercalate words ++ "\n")

/-- Whether text is a time: digits with at most one point among them, and maybe a
    unit. -/
def isInterval (text : String) : Bool :=
  let digits := text.toList.filter (· != '.')
  let digits := match digits.getLast? with
    | some c => if ['s', 'm', 'h', 'd'].contains c then digits.dropLast else digits
    | none => digits
  !digits.isEmpty && digits.all Char.isDigit && text.toList.count '.' ≤ 1

/-- Waits, which takes no time here. -/
def sleep : Tool :=
  withOptions 1 "sleep" {} fun options => do
    if options.operands.isEmpty then misuse 1 "sleep" "missing operand"
    else
      let wrong := options.operands.filter (!isInterval ·)
      unless wrong.isEmpty do
        misuse 1 "sleep" ("\nsleep: ".intercalate (wrong.map fun text => "invalid time interval " ++ quote text))

/-- The program with this name. -/
def named? : String → Option Tool
  | "arch" => some fun _ => print "x86_64\n"
  | "base64" => some base64
  | "basename" => some basename
  | "cat" => some cat
  | "chmod" => some chmod
  | "cp" => some cp
  | "cut" => some cut
  | "dirname" => some dirname
  | "expr" => some expr
  | "fold" => some fold
  | "grep" => some grep
  | "head" => some (ends "head" true)
  | "id" => some id
  | "ln" => some ln
  | "ls" => some ls
  | "mkdir" => some mkdir
  | "mv" => some mv
  | "nl" => some nl
  | "paste" => some paste
  | "readlink" => some readlink
  | "rev" => some rev
  | "rm" => some rm
  | "rmdir" => some rmdir
  | "sed" => some sed
  | "seq" => some seq
  | "sleep" => some sleep
  | "sort" => some sort
  | "stat" => some stat
  | "tac" => some tac
  | "tail" => some (ends "tail" false)
  | "tee" => some tee
  | "touch" => some touch
  | "tr" => some tr
  | "tty" => some fun _ => do
    print "not a tty\n"
    setStatus 1
  | "uname" => some uname
  | "uniq" => some uniq
  | "wc" => some wc
  | "whoami" => some fun _ => print "root\n"
  | "yes" => some yes
  | _ => none

/-- Programs that print as they go, and not only at the end. -/
def unbuffered : List String := ["cat", "tee"]

/-- Programs that do not read their standard input. -/
def inputless : List String :=
  ["arch", "basename", "chmod", "cp", "dirname", "expr", "id", "ln", "ls", "mkdir", "mv", "readlink", "rm", "rmdir",
    "seq", "sleep", "stat", "touch", "tty", "uname", "whoami", "yes"]

end Rewind.Shell.Tool
