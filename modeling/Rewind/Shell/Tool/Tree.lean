import Rewind.Shell.Tool.Text

namespace Rewind.Shell.Tool

/-- Changes the files. -/
def setFiles (files : Files) : Work Unit := modify fun job => { job with files }

/-- A path below a directory. -/
def below (directory name : String) : String :=
  if directory.toList.getLast? == some '/' then directory ++ name else directory ++ "/" ++ name

/-- The last step of a path, as it names a file. -/
def nameOf (path : String) : String :=
  String.ofList (((path.toList.reverse.dropWhile (· == '/')).takeWhile (· != '/')).reverse)

/-- A path without slashes at its end. -/
def withoutSlashes (path : String) : String :=
  let trimmed := (path.toList.reverse.dropWhile (· == '/')).reverse
  if trimmed.isEmpty then path else String.ofList trimmed

/-- A name in a listing, with a mark for what it is if asked for. -/
def listed (options : Options) (files : Files) (steps : List String) (name : String) : String :=
  let entry := files.get? steps
  let mark := if options.has 'p' || options.has 'F' then
      match entry with
      | some .directory => "/"
      | some (.file _ true) => if options.has 'F' then "*" else ""
      | some (.link _) => if options.has 'F' then "@" else ""
      | _ => ""
    else ""
  if options.has 'l' then
    match entry with
    | some .directory => "drwxr-xr-x 2 root root 4096 Jan  1 00:00 " ++ name ++ mark
    | some (.file node executable) =>
      (if executable then "-rwxr-xr-x" else "-rw-r--r--") ++ " 1 root root "
        ++ toString (files.contents node).length ++ " Jan  1 00:00 " ++ name ++ mark
    | some (.link target) => "lrwxrwxrwx 1 root root " ++ toString target.length ++ " Jan  1 00:00 " ++ name
        ++ " -> " ++ target
    | _ => "crw-rw-rw- 1 root root 1, 3 Jan  1 00:00 " ++ name
  else name ++ mark

/-- The listing of a directory. -/
def listing (options : Options) (files : Files) (steps : List String) : String :=
  let names := files.names steps
  let names := if options.has 'a' then "." :: ".." :: names
    else if options.has 'A' then names
    else names.filter fun name => name.toList.head? != some '.'
  let names := if options.has 'r' then names.reverse else names
  let placeOf (name : String) : List String :=
    if name == "." then steps else if name == ".." then steps.dropLast else steps ++ [name]
  (if options.has 'l' then "total " ++ toString (4 * names.length) ++ "\n" else "")
    ++ String.join (names.map fun name => listed options files (placeOf name) name ++ "\n")

/-- The listing of a directory and of those below it, `fuel` levels deep. -/
def listingBelow (options : Options) (files : Files) : (fuel : Nat) → (path : String) → (steps : List String) →
    List String
  | 0, _, _ => []
  | fuel + 1, path, steps =>
    let inner := (files.names steps).filter fun name =>
      files.get? (steps ++ [name]) == some .directory && (options.has 'a' || name.toList.head? != some '.')
    (path ++ ":\n" ++ listing options files steps)
      :: inner.flatMap fun name => listingBelow options files fuel (below path name) (steps ++ [name])

/-- Lists directories. -/
def ls : Tool :=
  withOptions 2 "ls" { switches := "1aAdlprRFtSCx", long := [("all", 'a')] } fun options => do
    let files := (← get).files
    let paths := if options.operands.isEmpty then ["."] else options.operands.mergeSort
    let found ← paths.filterMapM fun path => do
      match files.find path with
      | .ok (steps, entry) => return some (path, steps, entry)
      | .error fault =>
        complain 2 ("ls: cannot access " ++ quote path ++ ": " ++ fault.words)
        return none
    let isListed := fun (place : String × List String × Entry) => place.2.2 != .directory || options.has 'd'
    let (single, directories) := found.partition isListed
    let single := if options.has 'r' then single.reverse else single
    let directories := if options.has 'r' then directories.reverse else directories
    let first := String.join (single.map fun (path, steps, _) => listed options files steps path ++ "\n")
    let headed := 1 < options.operands.length
    let rest := directories.flatMap fun (path, steps, _) =>
      if options.has 'R' then listingBelow options files 1000 path steps
      else if headed then [path ++ ":\n" ++ listing options files steps]
      else [listing options files steps]
    print ("\n".intercalate ((if single.isEmpty then [] else [first]) ++ rest))

/-- Makes files that are not there. -/
def touch : Tool :=
  withOptions 1 "touch" { switches := "acm", valued := "dtr" } fun options => do
    if options.operands.isEmpty then misuse 1 "touch" "missing file operand"
    for path in options.operands do
      let files := (← get).files
      match files.locate false path with
      | .ok ⟨_, some _⟩ => pure ()
      | .ok ⟨steps, none⟩ => unless options.has 'c' do setFiles (files.create steps "").2
      | .error fault =>
        unless options.has 'c' && fault == .missing do
          complain 1 ((if path.toList.getLast? == some '/' then "touch: setting times of " else "touch: cannot touch ")
            ++ quote path ++ ": " ++ fault.words)

/-- Takes files away. -/
def rm : Tool :=
  withOptions 1 "rm" { switches := "rRfdvi", long := [("recursive", 'r'), ("force", 'f')] } fun options => do
    let deep := options.has 'r' || options.has 'R'
    if options.operands.isEmpty && !options.has 'f' then misuse 1 "rm" "missing operand"
    for path in options.operands do
      let files := (← get).files
      let refuse (fault : PathFault) : Work Unit :=
        complain 1 ("rm: cannot remove " ++ quote path ++ ": " ++ fault.words)
      let told (text : String) : Work Unit := if options.has 'v' then print (text ++ "\n") else pure ()
      match files.locate true path with
      | .ok ⟨steps, some .directory⟩ =>
        if ["", ".", ".."].contains (nameOf path) && deep then
          complain 1 ("rm: refusing to remove '.' or '..' directory: skipping " ++ quote path)
        else if deep then
          setFiles (files.erase steps)
          told ("removed directory " ++ quote path)
        else if options.has 'd' && (files.names steps).isEmpty then setFiles (files.erase steps)
        else refuse .isDirectory
      | .ok ⟨steps, some _⟩ =>
        setFiles (files.erase steps)
        told ("removed " ++ quote path)
      | .ok ⟨_, none⟩ => unless options.has 'f' do refuse .missing
      | .error fault => unless options.has 'f' && (fault == .missing || fault == .notDirectory) do refuse fault

/-- Makes a directory, and with `deep` those on the way to it. -/
def makeDirectory (deep : Bool) (path : String) : Work Unit := do
  let trimmed := withoutSlashes path
  let refuse (named : String) (fault : PathFault) : Work Unit :=
    complain 1 ("mkdir: cannot create directory " ++ quote named ++ ": " ++ fault.words)
  if deep then
    let pieces := trimmed.splitOn "/"
    let _ ← (List.range pieces.length).foldlM (fun (failed : Bool) n => do
      if failed then return true
      let reached := "/".intercalate (pieces.take (n + 1))
      if reached.isEmpty then return false
      match (← get).files.locate false reached with
      | .ok ⟨_, some .directory⟩ => return false
      | .ok ⟨steps, none⟩ =>
        setFiles ((← get).files.put steps .directory)
        return false
      | .ok ⟨_, some _⟩ =>
        refuse reached (if n + 1 == pieces.length then .taken else .notDirectory)
        return true
      | .error fault =>
        refuse reached fault
        return true) false
  else
    match (← get).files.locate false trimmed with
    | .ok ⟨_, some _⟩ => refuse path .taken
    | .ok ⟨steps, none⟩ => setFiles ((← get).files.put steps .directory)
    | .error fault => refuse path fault

/-- Makes directories. -/
def mkdir : Tool :=
  withOptions 1 "mkdir" { switches := "pv", valued := "m", long := [("parents", 'p')] } fun options => do
    if options.operands.isEmpty then misuse 1 "mkdir" "missing operand"
    for path in options.operands do makeDirectory (options.has 'p') path

/-- Takes empty directories away. -/
def rmdir : Tool :=
  withOptions 1 "rmdir" { switches := "pv" } fun options => do
    if options.operands.isEmpty then misuse 1 "rmdir" "missing operand"
    for path in options.operands do
      let files := (← get).files
      let refuse (fault : PathFault) : Work Unit :=
        complain 1 ("rmdir: failed to remove " ++ quote path ++ ": " ++ fault.words)
      match files.locate true (withoutSlashes path) with
      | .ok ⟨steps, some .directory⟩ =>
        if (files.names steps).isEmpty then setFiles (files.erase steps) else refuse .notEmpty
      | .ok ⟨_, some _⟩ => refuse .notDirectory
      | .ok ⟨_, none⟩ => refuse .missing
      | .error fault => refuse fault

/-- Copies what is at the end of some steps, and all below it. -/
def copyTree (files : Files) (source target : List String) : Files :=
  let found := files.entries.filter fun (steps, _) => source.isPrefixOf steps
  found.foldr (fun (steps, entry) files =>
    let place := target ++ steps.drop source.length
    match entry with
    | .file node executable =>
      match files.get? place with
      | some (.file old _) => files.modify old fun _ => files.contents node
      | _ =>
        let (copy, files) := files.store (files.contents node)
        files.put place (.file copy executable)
    | entry => files.put place entry) files

/-- Moves or copies each of some paths to a place: into it, if it is a directory.
    `act` does it, and tells what is wrong. -/
def toTarget (name : String) (paths : List String) (act : (path target : String) → Work Unit) : Work Unit := do
  match paths.reverse with
  | [] => misuse 1 name "missing file operand"
  | [path] => misuse 1 name ("missing destination file operand after " ++ quote path)
  | target :: reversed =>
    let sources := reversed.reverse
    match (← get).files.find target with
    | .ok (_, .directory) =>
      for path in sources do act path (below target (nameOf path))
    | .ok _ =>
      match sources with
      | [path] => act path target
      | _ => complain 1 (name ++ ": target " ++ quote target ++ ": Not a directory")
    | .error fault =>
      match sources with
      | [path] => act path target
      | _ => complain 1 (name ++ ": target " ++ quote target ++ ": " ++ fault.words)

/-- Moves files. -/
def mv : Tool :=
  withOptions 1 "mv" { switches := "fnvi" } fun options =>
    toTarget "mv" options.operands fun path target => do
      let files := (← get).files
      match files.locate true (withoutSlashes path), files.locate true (withoutSlashes target) with
      | .error fault, _ => complain 1 ("mv: cannot stat " ++ quote path ++ ": " ++ fault.words)
      | .ok ⟨_, none⟩, _ => complain 1 ("mv: cannot stat " ++ quote path ++ ": " ++ PathFault.missing.words)
      | .ok ⟨source, some entry⟩, .ok ⟨steps, old⟩ =>
        if source == steps then complain 1 ("mv: " ++ quote path ++ " and " ++ quote target ++ " are the same file")
        else if source.isPrefixOf steps then
          complain 1 ("mv: cannot move " ++ quote path ++ " to a subdirectory of itself, " ++ quote target)
        else if old == some .directory && entry != .directory then
          complain 1 ("mv: cannot overwrite directory " ++ quote target ++ " with non-directory")
        else if entry == .directory && old.isSome && old != some .directory then
          complain 1 ("mv: cannot overwrite non-directory " ++ quote target ++ " with directory " ++ quote path)
        else unless options.has 'n' && old.isSome do setFiles (files.move source steps)
      | .ok _, .error fault =>
        complain 1 ("mv: cannot move " ++ quote path ++ " to " ++ quote target ++ ": " ++ fault.words)

/-- Copies files. -/
def cp : Tool :=
  withOptions 1 "cp" { switches := "rRafpnvi", long := [("recursive", 'r')] } fun options =>
    toTarget "cp" options.operands fun path target => do
      let files := (← get).files
      let deep := options.has 'r' || options.has 'R' || options.has 'a'
      match files.locate false path, files.locate false (withoutSlashes target) with
      | .error fault, _ => complain 1 ("cp: cannot stat " ++ quote path ++ ": " ++ fault.words)
      | .ok ⟨_, none⟩, _ => complain 1 ("cp: cannot stat " ++ quote path ++ ": " ++ PathFault.missing.words)
      | .ok ⟨source, some entry⟩, .ok ⟨steps, old⟩ =>
        if entry == .directory && !deep then
          complain 1 ("cp: -r not specified; omitting directory " ++ quote path)
        else if source == steps then
          complain 1 ("cp: " ++ quote path ++ " and " ++ quote target ++ " are the same file")
        else if entry == .directory && source.isPrefixOf steps then
          complain 1 ("cp: cannot copy a directory, " ++ quote path ++ ", into itself, " ++ quote target)
        else if old == some .directory && entry != .directory then
          complain 1 ("cp: cannot overwrite directory " ++ quote target ++ " with non-directory " ++ quote path)
        else if entry == .sink then setFiles (files.create steps "").2
        else unless options.has 'n' && old.isSome do setFiles (copyTree files source steps)
      | .ok _, .error fault =>
        complain 1 ("cp: cannot create regular file " ++ quote target ++ ": " ++ fault.words)

/-- Gives a file another name, or makes a link to a path. -/
def ln : Tool :=
  withOptions 1 "ln" { switches := "sfnv" } fun options => do
    let kind := if options.has 's' then "symbolic link " else "hard link "
    let operands := match options.operands with
      | [path] => [path, nameOf path]
      | operands => operands
    toTarget "ln" operands fun path target => do
      let files := (← get).files
      match files.locate true target with
      | .error fault => complain 1 ("ln: failed to create " ++ kind ++ quote target ++ ": " ++ fault.words)
      | .ok ⟨steps, old⟩ =>
        if old.isSome && !options.has 'f' then
          complain 1 ("ln: failed to create " ++ kind ++ quote target ++ ": File exists")
        else if options.has 's' then setFiles (files.put steps (.link path))
        else
          match files.find path with
          | .ok (_, .directory) => complain 1 ("ln: " ++ path ++ ": hard link not allowed for directory")
          | .ok (_, entry) => setFiles (files.put steps entry)
          | .error fault => complain 1 ("ln: failed to access " ++ quote path ++ ": " ++ fault.words)

/-- Tells where links lead. -/
def readlink : Tool :=
  withOptions 1 "readlink" { switches := "fnemqs" } fun options => do
    if options.operands.isEmpty then misuse 1 "readlink" "missing operand"
    for path in options.operands do
      let finish := if options.has 'n' then "" else "\n"
      match (← get).files.locate (!options.has 'f') path with
      | .ok ⟨_, some (.link target)⟩ => print (target ++ finish)
      | .ok ⟨steps, _⟩ => if options.has 'f' then print (Files.pathOf steps ++ finish) else setStatus 1
      | .error _ => setStatus 1

/-- Whether a mode makes a file executable, if it says anything about that. -/
def executableBy? (mode : String) : Option Bool :=
  if !mode.isEmpty && mode.toList.all fun c => '0' ≤ c && c ≤ '7' then
    some ((mode.toList.reverse.take 3).any fun c => (c.toNat - '0'.toNat) % 2 == 1)
  else if mode.toList.contains 'x' then some (!mode.toList.contains '-')
  else none

/-- Sets whether files can be run. -/
def chmod : Tool := fun arguments => do
  match arguments.filter fun argument => argument != "-R" with
  | [] => misuse 1 "chmod" "missing operand"
  | [mode] => misuse 1 "chmod" ("missing operand after " ++ quote mode)
  | mode :: paths =>
    for path in paths do
      let files := (← get).files
      match files.find path, executableBy? mode with
      | .error fault, _ => complain 1 ("chmod: cannot access " ++ quote path ++ ": " ++ fault.words)
      | .ok (steps, .file node _), some executable => setFiles (files.put steps (.file node executable))
      | .ok _, _ => pure ()

/-- What a directive of `stat` stands for. -/
def statField (files : Files) (path : String) (entry : Entry) : Char → String
  | 'n' => path
  | 's' =>
    match entry with
    | .file node _ => toString (files.contents node).length
    | .directory => "4096"
    | _ => "0"
  | 'F' =>
    match entry with
    | .file node _ => if (files.contents node).isEmpty then "regular empty file" else "regular file"
    | .directory => "directory"
    | .link _ => "symbolic link"
    | _ => "character special file"
  | 'a' =>
    match entry with
    | .file _ executable => if executable then "755" else "644"
    | .directory => "755"
    | .link _ => "777"
    | _ => "666"
  | 'U' | 'G' => "root"
  | 'u' | 'g' => "0"
  | '%' => "%"
  | _ => "?"

/-- Fills in the directives of a format. -/
def fillFormat (field : Char → String) : List Char → List Char
  | '%' :: c :: rest => (field c).toList ++ fillFormat field rest
  | c :: rest => c :: fillFormat field rest
  | [] => []

/-- Tells about files. -/
def stat : Tool :=
  withOptions 1 "stat" { switches := "L", valued := "c", long := [("format", 'c')] } fun options => do
    if options.operands.isEmpty then misuse 1 "stat" "missing operand"
    for path in options.operands do
      let files := (← get).files
      match files.locate true path with
      | .ok ⟨_, some entry⟩ =>
        print (String.ofList (fillFormat (statField files path entry) ((options.value? 'c').getD "%n").toList)
          ++ "\n")
      | .ok ⟨_, none⟩ => complain 1 ("stat: cannot statx " ++ quote path ++ ": " ++ PathFault.missing.words)
      | .error fault => complain 1 ("stat: cannot statx " ++ quote path ++ ": " ++ fault.words)

end Rewind.Shell.Tool
