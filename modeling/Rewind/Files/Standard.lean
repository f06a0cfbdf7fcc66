import Rewind.Files
import Rewind.Text.Bytes

namespace Rewind.Files

/-- The programs that every system has. -/
def programs : List String :=
  ["[", "arch", "base64", "basename", "cat", "chmod", "cp", "cut", "dirname", "echo", "env", "expr", "false",
    "fold", "grep", "head", "id", "ln", "ls", "mkdir", "mv", "nl", "paste", "printenv", "printf", "pwd",
    "readlink", "rev", "rm", "rmdir", "sed", "seq", "sh", "sleep", "sort", "stat", "tac", "tail", "tee", "test",
    "touch", "tr", "true", "tty", "uname", "uniq", "wc", "which", "whoami", "xargs", "yes"]

/-- The start of a program, which is not text. -/
def programImage : String := "\x7fELF\xff"

/-- The first line of the table of users. -/
def userTable : String := "root:x:0:0:root:/root:/bin/bash\n"

/-- The first line of the table of groups. -/
def groupTable : String := "root:x:0:\n"

/-- The first line of the table of machines. -/
def hostTable : String := "127.0.0.1\tlocalhost\n"

/-- The directories that every system has. -/
def directories : List (List String) :=
  [["boot"], ["dev"], ["dev", "pts"], ["dev", "shm"], ["etc"], ["home"], ["media"], ["mnt"], ["opt"], ["proc"],
    ["proc", "self"], ["proc", "self", "fd"], ["proc", "sys"], ["root"], ["run"], ["srv"], ["sys"], ["tmp"],
    ["usr"], ["usr", "bin"], ["usr", "include"], ["usr", "lib"], ["usr", "local"], ["usr", "local", "bin"],
    ["usr", "local", "lib"], ["usr", "sbin"], ["usr", "share"], ["var"], ["var", "lib"], ["var", "log"],
    ["var", "tmp"]]

/-- The steps to the directory that everything is run in. -/
def workplace : List String := ["tmp", "work"]

/-- The other entries that every system has. -/
def fixtures : List (List String × Entry) :=
  [(["bin"], .link "usr/bin"), (["lib"], .link "usr/lib"), (["sbin"], .link "usr/sbin"),
    (["dev", "fd"], .link "/proc/self/fd"), (["dev", "null"], .sink), (["dev", "tty"], .locked),
    (["dev", "stderr"], .link "/proc/self/fd/2"), (["dev", "stdin"], .link "/proc/self/fd/0"),
    (["dev", "stdout"], .link "/proc/self/fd/1"), (["etc", "group"], .file 2 false),
    (["etc", "hosts"], .file 3 false), (["etc", "passwd"], .file 1 false),
    (["proc", "self", "cwd"], .link (pathOf workplace)), (["proc", "self", "exe"], .file 0 true),
    (["proc", "self", "fd", "0"], .descriptor 0), (["proc", "self", "fd", "1"], .descriptor 1),
    (["proc", "self", "fd", "2"], .descriptor 2), (workplace, .directory)]

/-- A system with nothing in the current directory. -/
def bare : Files where
  nodes := #[programImage, userTable, groupTable, hostTable]
  entries := fixtures ++ directories.map (·, .directory)
    ++ programs.map fun name => (["usr", "bin", name], .file 0 true)
  current := workplace

/-- A system with files in the current directory. -/
def standard (own : List (String × ByteArray)) : Files :=
  own.foldl (fun files (name, contents) =>
    (files.create (workplace ++ [Text.widen name]) (Text.ofBytes contents)).2) bare

/-- What a program reads at a path, when `stdin` is its standard input. -/
def readBytes (files : Files) (stdin : ByteArray) (path : String) : Except PathFault ByteArray :=
  let opened? (n : Nat) : Option String := if n == 0 then some (Text.ofBytes stdin) else none
  (files.read opened? (Text.widen path)).map Text.toBytes

end Rewind.Files
