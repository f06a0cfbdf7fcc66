import Rewind.Shell.Expand
import Rewind.Shell.Test

namespace Rewind.Shell.Sh

/-- What a path leads to. -/
def kindOf (files : Files) (path : String) : Test.FileKind :=
  match files.find path with
  | .ok (_, .directory) => .directory
  | .ok (_, .file node executable) => .plain (files.contents node).isEmpty executable
  | .ok _ => .device
  | .error _ => .missing

/-- What a test can see. -/
def viewOf (files : Files) : Test.View where
  kind := kindOf files
  isLink path := match files.locate true path with
    | .ok ⟨_, some (.link _)⟩ => true
    | _ => false

/-- The words for a fault, where a shell has its own for what is not there. -/
def faultWords (missing : String) (fault : PathFault) : String :=
  if fault == .missing || fault == .notDirectory then missing else fault.words

/-- Opens what stands at a path. `problem` words what is wrong. -/
def openEntry (problem : PathFault → String) : Entry → Sh (Except String Nat)
  | .file node _ => do return .ok (← openNode (some node))
  | .directory | .sink => do return .ok (← openNode none)
  | .locked => return .error (problem .noDevice)
  | .link _ => return .error (problem .tooManyLinks)
  | .descriptor n => do
    match ← handle? n with
    | some handle => return .ok handle
    | none => return .error (problem .missing)

/-- Opens a file to read it. -/
def openInput (path : String) : Sh (Except String Nat) := do
  let problem (fault : PathFault) : String :=
    "cannot open " ++ path ++ ": " ++ faultWords "No such file" fault
  match (← get).files.find path with
  | .ok (_, entry) => openEntry problem entry
  | .error fault => return .error (problem fault)

/-- Opens a file to write it, and makes it if it is not there. -/
def openOutput (path : String) (keep : Bool) : Sh (Except String Nat) := do
  let problem (fault : PathFault) : String :=
    "cannot create " ++ path ++ ": " ++ faultWords "Directory nonexistent" fault
  let files := (← get).files
  match files.locate false path with
  | .error fault => return .error (problem fault)
  | .ok ⟨_, some .directory⟩ => return .error (problem .isDirectory)
  | .ok ⟨_, some entry⟩ =>
    match entry, keep with
    | .file node _, false => modify fun state => { state with files := files.modify node fun _ => "" }
    | _, _ => pure ()
    openEntry problem entry
  | .ok ⟨steps, none⟩ =>
    let (node, files) := files.create steps ""
    modify fun state => { state with files }
    return .ok (← openNode (some node))

/-- Carries out a redirection. -/
def redirect (run : Command → Sh Unit) : Redirect → Sh (Except String Unit)
  | .mk descriptor direction target => do
    let text ← expandText run target
    let attach (handle : Except String Nat) : Sh (Except String Unit) := do
      match handle with
      | .ok handle =>
        connect descriptor handle
        return .ok ()
      | .error problem => return .error problem
    match direction with
    | .input => attach (← openInput text)
    | .output => attach (← openOutput text false)
    | .append => attach (← openOutput text true)
    | .both => attach (← openOutput text true)
    | .here => attach (.ok (← openNode (some (← newNode text))))
    | .copy =>
      if text == "-" then
        disconnect descriptor
        return .ok ()
      match text.toNat? with
      | none => return .error "Syntax error: Bad fd number"
      | some source =>
        match ← handle? source with
        | some handle => attach (.ok handle)
        | none => return .error (toString source ++ ": Bad file descriptor")

/-- Carries out redirections in order, up to one that fails. -/
def redirectAll (run : Command → Sh Unit) : List Redirect → Sh (Except String Unit)
  | [] => return .ok ()
  | first :: rest => do
    match ← redirect run first with
    | .ok () => redirectAll run rest
    | .error problem => return .error problem

/-- Runs `body` with redirections, which end with it. -/
def withRedirects (run : Command → Sh Unit) (redirects : List Redirect) (body : Sh Unit) : Sh Unit := do
  let before := (← get).descriptors
  match ← redirectAll run redirects with
  | .error problem =>
    modify fun state => { state with descriptors := before }
    complain problem
    setStatus 2
  | .ok () =>
    let stop ← catching body
    modify fun state => { state with descriptors := before }
    match stop with
    | some stop => throw stop
    | none => pure ()

end Rewind.Shell.Sh
