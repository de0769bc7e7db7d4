import ProxySync.Shell.Expansion
import ProxySync.Shell.Unwind

/-!
# Redirections

A redirection opens a file, joins a descriptor to another one, or closes it.
The descriptors that it moves away are kept, so that they can be put back.
-/

namespace ProxySync.Shell

open Files

/-- What the shell says of a file that cannot be opened. -/
def openingFault (creating : Bool) (path : String) (e : IoFault) : String :=
  let reason := match e with
    | .notFound | .notADirectory => if creating then "Directory nonexistent" else "No such file"
    | e => e.reason
  (if creating then "cannot create " else "cannot open ") ++ path ++ ": " ++ reason

/-- The descriptor that a path stands for. -/
def descriptorOf? (path : String) : Option Nat :=
  match path with
  | "/dev/stdin" => some 0
  | "/dev/stdout" => some 1
  | "/dev/stderr" => some 2
  | _ =>
    let number? (lead : String) : Option Nat :=
      if path.startsWith lead then
        (Text.readNumeral 1000 (path.toList.drop lead.length)).toOption
      else none
    (number? "/dev/fd/").orElse fun () => number? "/proc/self/fd/"

namespace Act

/-- Opens a file as a kind of redirection asks for. -/
def openFile (kind : RedirectKind) (path : String) : Act (Except IoFault Nat) := do
  let p ← self
  let d ← disk
  match descriptorOf? path with
  | some n =>
    match p.files.lookup n with
    | some id => return .ok id
    | none => return .error .notFound
  | none => pure ()
  if path == "/dev/tty" then return .error .noDevice
  let name := Text.ofOctets path
  let creates := kind != .read
  let exclusive := kind == .write && p.session.hasOption 'C'
  match d.locate name true p.place with
  | .error e => return .error e
  | .ok spot =>
    let o : Opening := {
      channel := .unseen
      reads := kind == .read || kind == .readWrite
      writes := creates
      appends := kind == .append }
    match spot.node with
    | none =>
      if !creates then return .error .notFound
      else if endsInSlash name then return .error .isADirectory
      else
        let mode := Nat.land 0o666 (Nat.xor 0o777 p.mask)
        match d.write name (.text "") mode p.place with
        | .error e => return .error e
        | .ok d => do
          setDisk d
          match d.node? spot.place with
          | some (.file n) => return .ok (← newOpening { o with channel := .file n })
          | _ => return .error .notFound
    | some (.folder _) =>
      if creates then return .error .isADirectory
      else return .ok (← newOpening { o with channel := .folder spot.place })
    | some (.device device) => return .ok (← newOpening { o with channel := .device device })
    | some (.link _) => return .error .tooManyLinks
    | some (.file n) => do
      if exclusive then return .error .alreadyExists
      if kind == .write || kind == .overwrite then
        match d.write name (.text "") 0 p.place with
        | .ok d => setDisk d
        | .error _ => pure ()
      return .ok (← newOpening { o with channel := .file n })

/-- An opening from which a text can be read. -/
def openText (text : String) : Act Nat := do
  let m ← machine
  let n := m.nextPipe
  let chunks := if text.isEmpty then [] else [text]
  changeMachine fun m => { m with pipes := (n, ⟨chunks, text.length⟩) :: m.pipes, nextPipe := n + 1 }
  newOpening { channel := .pipe n, reads := true }

/-- What a descriptor is to lead to after a redirection. -/
inductive Redirection where
  | to (opening : Option Nat)
  | fails (message : String)
  /-- The script itself is at fault. -/
  | malformed (message : String)

def redirection (kind : RedirectKind) (target : String) : Act Redirection := do
  match kind with
  | .document _ => return .to (some (← openText target))
  | .join =>
    if target == "-" then return .to none
    else
      match target.toList with
      | [c] =>
        if c.isDigit then
          let n := c.toNat - '0'.toNat
          match (← self).files.lookup n with
          | some id => return .to (some id)
          | none => return .fails (target ++ ": " ++ IoFault.badDescriptor.reason)
        else return .malformed "Syntax error: Bad fd number"
      | _ => return .malformed "Syntax error: Bad fd number"
  | kind =>
    match ← openFile kind target with
    | .ok id => return .to (some id)
    | .error e => return .fails (openingFault (kind != .read) target e)

/-- Moves a descriptor away, unless that has been done already. -/
def keepDescriptor (descriptor : Nat) (saved : List (Nat × Option Nat)) :
    Act (List (Nat × Option Nat)) := do
  if (saved.lookup descriptor).isSome then pure saved
  else
    match (← self).files.lookup descriptor with
    | none => pure ((descriptor, none) :: saved)
    | some id => do
      let kept ← freeDescriptor
      setDescriptor kept (some id)
      pure ((descriptor, some kept) :: saved)

/-- How redirections went: with what has to be put back, whether or not one of
them failed. -/
structure RedirectionsDone where
  saved : List (Nat × Option Nat)
  fault : Option (Bool × String) := none

/-- Performs redirections one after the other, up to the first that fails. -/
def redirectAll : List (Nat × RedirectKind × String) → List (Nat × Option Nat) →
    Act RedirectionsDone
  | [], saved => pure ⟨saved, none⟩
  | (descriptor, kind, target) :: rest, saved => do
    match ← redirection kind target with
    | .malformed message => pure ⟨saved, some (true, message)⟩
    | .fails message => pure ⟨saved, some (false, message)⟩
    | .to opening => do
      let saved ← keepDescriptor descriptor saved
      setDescriptor descriptor opening
      redirectAll rest saved

/-- Forgets what descriptors were moved away. -/
def forgetDescriptors (saved : List (Nat × Option Nat)) : Act Unit :=
  saved.forM fun (_, kept?) => match kept? with
    | some kept => close kept
    | none => pure ()

end Act

end ProxySync.Shell
