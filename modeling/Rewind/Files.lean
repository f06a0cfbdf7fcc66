namespace Rewind

/-- Why nothing can be done with a path. -/
inductive PathFault where
  | missing
  | noDevice
  | taken
  | notDirectory
  | isDirectory
  | nameTooLong
  | notEmpty
  | tooManyLinks
deriving DecidableEq

namespace PathFault

/-- The words of a diagnostic. -/
def words : PathFault → String
  | missing => "No such file or directory"
  | noDevice => "No such device or address"
  | taken => "File exists"
  | notDirectory => "Not a directory"
  | isDirectory => "Is a directory"
  | nameTooLong => "File name too long"
  | notEmpty => "Directory not empty"
  | tooManyLinks => "Too many levels of symbolic links"

/-- The number that the system knows the fault by. -/
def number : PathFault → Nat
  | missing => 2
  | noDevice => 6
  | taken => 17
  | notDirectory => 20
  | isDirectory => 21
  | nameTooLong => 36
  | notEmpty => 39
  | tooManyLinks => 40

end PathFault

/-- What stands at a path. -/
inductive Entry where
  | directory
  /-- A file, by the number of its contents. Several paths may lead to the same
      contents. -/
  | file (node : Nat) (executable : Bool)
  /-- A file that is always empty and drops what is written to it. -/
  | sink
  /-- A file that nobody can open. -/
  | locked
  /-- What is already open under a number. -/
  | descriptor (n : Nat)
  /-- Another path that is to be followed instead. -/
  | link (target : String)
deriving DecidableEq

/-- Where a path leads: the steps from the root, and what is there, if anything
    is. -/
structure Place where
  steps : List String
  entry : Option Entry

/-- A tree of files. Text holds one character below 256 for each byte. -/
structure Files where
  /-- What is in each file. -/
  nodes : Array String := #[]
  /-- What stands at the end of which steps from the root. The root itself is not
      listed. -/
  entries : List (List String × Entry) := []
  /-- The steps from the root to the current directory. -/
  current : List String := []

namespace Files

/-- The longest name of a file. -/
def longestName : Nat := 255

/-- The first length that a path cannot have. -/
def pathBound : Nat := 4096

/-- How many links may be followed on the way. -/
def linkBound : Nat := 40

/-- What stands at the end of steps from the root. -/
def get? (files : Files) (steps : List String) : Option Entry :=
  if steps.isEmpty then some .directory else files.entries.lookup steps

/-- Whether a path begins at the root. -/
def isAbsolute (path : String) : Bool := path.toList.head? == some '/'

/-- Goes on from a directory by the steps of a path. Only the last step may lead to
    where nothing is. A link is followed, except at the end if `kept`. -/
def follow (files : Files) (kept : Bool) (links : Nat) (here : List String) (steps : List String) :
    Except PathFault Place :=
  match steps with
  | [] => .ok ⟨here, files.get? here⟩
  | step :: rest =>
    if files.get? here != some .directory then .error .notDirectory
    else if step.isEmpty || step == "." then follow files kept links here rest
    else if step == ".." then follow files kept links here.dropLast rest
    else if longestName < step.length then .error .nameTooLong
    else
      let next := here ++ [step]
      match files.get? next with
      | none => if rest.isEmpty then .ok ⟨next, none⟩ else .error .missing
      | some (.link target) =>
        if kept && rest.isEmpty then .ok ⟨next, some (.link target)⟩
        else
          match links with
          | 0 => .error .tooManyLinks
          | links + 1 =>
            follow files kept links (if isAbsolute target then [] else here) (target.splitOn "/" ++ rest)
      | some _ => follow files kept links next rest
termination_by (links, steps.length)

/-- Where a path leads. With `kept`, a link at its end is not followed. -/
def locate (files : Files) (kept : Bool) (path : String) : Except PathFault Place :=
  if path.isEmpty then .error .missing
  else if pathBound ≤ path.length then .error .nameTooLong
  else files.follow kept linkBound (if isAbsolute path then [] else files.current) (path.splitOn "/")

/-- What is there at the end of a path, links followed. -/
def find (files : Files) (path : String) : Except PathFault (List String × Entry) := do
  match ← files.locate false path with
  | ⟨steps, some entry⟩ => .ok (steps, entry)
  | ⟨_, none⟩ => .error .missing

/-- The contents with a number. -/
def contents (files : Files) (node : Nat) : String := files.nodes[node]?.getD ""

/-- What can be read at a path. `opened?` tells what is open under a number. -/
def read (files : Files) (opened? : Nat → Option String) (path : String) : Except PathFault String := do
  match (← files.find path).2 with
  | .directory => .error .isDirectory
  | .file node _ => .ok (files.contents node)
  | .sink => .ok ""
  | .locked => .error .noDevice
  | .link _ => .error .tooManyLinks
  | .descriptor n =>
    match opened? n with
    | some text => .ok text
    | none => .error .missing

/-- Makes contents that no path leads to. -/
def store (files : Files) (text : String) : Nat × Files :=
  (files.nodes.size, { files with nodes := files.nodes.push text })

@[simp]
theorem contents_store (files : Files) (text : String) :
    (files.store text).2.contents (files.store text).1 = text := by
  simp [store, contents]

/-- Changes contents. -/
def modify (files : Files) (node : Nat) (change : String → String) : Files :=
  { files with nodes := files.nodes.modify node change }

/-- Puts something at the end of steps, in place of what was there. -/
def put (files : Files) (steps : List String) (entry : Entry) : Files :=
  { files with entries := (steps, entry) :: files.entries.filter (·.1 != steps) }

@[simp]
theorem get?_put_self (files : Files) {steps : List String} (entry : Entry) (hsteps : steps ≠ []) :
    (files.put steps entry).get? steps = some entry := by
  simp [get?, put, hsteps]

/-- What stands elsewhere stays as it is. -/
theorem get?_put_of_ne (files : Files) {steps other : List String} (entry : Entry) (hother : other ≠ steps) :
    (files.put steps entry).get? other = files.get? other := by
  have hdiffers : (other == steps) = false := by simpa using hother
  have hkept : (files.entries.filter (·.1 != steps)).lookup other = files.entries.lookup other := by
    induction files.entries with
    | nil => rfl
    | cons head rest ih =>
      obtain ⟨place, found⟩ := head
      by_cases hplace : place = steps
      · simp [hplace, ih, List.lookup_cons, hdiffers]
      · simp [hplace, ih, List.lookup_cons]
  simp only [get?, put, List.lookup_cons, hdiffers, hkept]

/-- Takes away what is at the end of steps, and all below it. -/
def erase (files : Files) (steps : List String) : Files :=
  { files with entries := files.entries.filter fun entry => !steps.isPrefixOf entry.1 }

/-- Moves what is at the end of steps, and all below it. -/
def move (files : Files) (source target : List String) : Files :=
  let moved := files.entries.filterMap fun (steps, entry) =>
    if source.isPrefixOf steps then some (target ++ steps.drop source.length, entry) else none
  let left := (files.erase source).erase target
  { left with entries := moved ++ left.entries }

/-- Makes a file. -/
def create (files : Files) (steps : List String) (text : String) : Nat × Files :=
  let (node, files) := files.store text
  (node, files.put steps (.file node false))

/-- The names in a directory, in order. -/
def names (files : Files) (steps : List String) : List String :=
  let found := files.entries.filterMap fun (below, _) =>
    match below.getLast? with
    | some name => if below.dropLast == steps then some name else none
    | none => none
  found.mergeSort

/-- A path from the root, by its steps. -/
def pathOf (steps : List String) : String := "/" ++ "/".intercalate steps

end Files

end Rewind
