import Rewind.Host
import Rewind.Number.Literal
import Rewind.Shell
import Rewind.Text.Blank
import Rewind.Text.Utf8

namespace Rewind.Host

/-- Whether `c` is part of a line end. -/
def isLineEnd (c : Char) : Bool := c == '\n' || c == '\r'

/-- Reads a double that begins with a digit or a point, after a minus sign or
    none. Words stay texts. -/
def numeric? (text : List Char) : Option Float :=
  let unsigned := match text with
    | '-' :: rest => rest
    | rest => rest
  if unsigned.head?.any Number.startsNumber then Number.double? text else none

/-- The value that a command's output stands for: a number if that is all it
    spells between white space, else the text without the line ends at its
    end. -/
def valueOfOutput (stdout : ByteArray) : Value :=
  let text := Text.trimEndWhile isLineEnd (Text.Utf8.decodeLossy stdout).toList
  match numeric? (Text.trim text) with
  | some x => .number x
  | none => .string (String.ofList text)

/-- The answer to code that a shell has run. -/
def answerOfShell (output : Shell.Output) : Except String Value :=
  match output.finish with
  | .exited 0 => .ok (valueOfOutput output.stdout)
  | finish =>
    let stderr := Text.trimEndWhile Text.isBlank (Text.Utf8.decodeLossy output.stderr).toList
    .error ("sh exited with " ++ finish.text ++ ": " ++ String.ofList stderr)

/-- Whether a shell can be given the code. A NUL would end it early. -/
def isRunnable (code : String) : Bool := !code.toList.contains '\x00'

/-- The files that are left after code has been run. -/
def filesAfter (files : Files) (earlier : List String) : Files :=
  (earlier.filter isRunnable).foldl (fun files code => (Shell.run files code).files) files

/-- Gives code to a shell. `run` is what the shell makes of code after the code that it was
    given before. -/
def ofShell (run : (earlier : List String) → (code : String) → Shell.Output) : Host where
  answer earlier code :=
    if isRunnable code then answerOfShell (run earlier code)
    else .error "failed to start sh: nul byte found in provided data"
  logged := true

/-- Runs code in a shell of its own, among the files that the earlier ones have
    left. -/
def shell (files : Files) : Host := ofShell fun earlier code => Shell.run (filesAfter files earlier) code

end Rewind.Host
