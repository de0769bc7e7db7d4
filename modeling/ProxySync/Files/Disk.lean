import ProxySync.Files.Fault
import ProxySync.Files.Path
import ProxySync.Text.Octets

/-!
# The disk

A tree of folders, files, links and devices. A file is kept under a number,
and the places in the tree name that number: so a file that was opened stays
what it is when its place is given to another one. Each operation either does
its work or fails with the fault that the system names, and a failed operation
leaves the disk as it was.
-/

namespace ProxySync.Files

/-! ## Contents -/

inductive Content where
  | text (s : String)
  /-- Bytes that are not UTF-8. -/
  | bytes (b : List UInt8)
  /-- The database of an entity store. -/
  | database
deriving DecidableEq

namespace Content

/-- The content of a file of these bytes. -/
def ofBytes (b : List UInt8) : Content :=
  match Text.ofUtf8? b with
  | some s => .text s
  | none => .bytes b

/-- The first bytes of every database. -/
def databaseMark : List UInt8 := [0x72, 0x65, 0x64, 0x62, 0x1A, 0x0A, 0xA9, 0x0D, 0x0A]

/-- The bytes of a content; of a database only its mark is told. -/
def toBytes : Content → List UInt8
  | text s => Text.utf8Bytes s
  | bytes b => b
  | database => databaseMark

def octets : Content → String
  | text s => Text.toOctets s
  | c => Text.octetsOfBytes c.toBytes

def ofOctets (s : String) : Content :=
  match Text.ofOctets? s with
  | some t => .text t
  | none => .bytes (Text.bytesOfOctets s)

end Content

structure File where
  content : Content
  /-- Who may read, write and execute. -/
  mode : Nat := 0o644
deriving DecidableEq

/-! ## The tree -/

inductive Device where
  | null
  | zero
  | full
deriving DecidableEq, Repr

inductive Node where
  | file (number : Nat)
  | folder (mode : Nat)
  | link (target : String)
  | device (d : Device)
deriving DecidableEq, Repr

/-- A place on the disk: the steps from the root, none of them dots. -/
abbrev Place := List String

/-- All places in use and all files. The root is a folder without being
listed. -/
structure Disk where
  nodes : List (Place × Node) := []
  files : List (Nat × File) := []
  nextNumber : Nat := 0
deriving Inhabited

/-- What a path leads to. Nothing may stand there, but the folder around it
does. -/
structure Spot where
  place : Place
  node : Option Node

namespace Disk

def folderMode : Nat := 0o755

def node? (d : Disk) (p : Place) : Option Node :=
  if p.isEmpty then some (.folder folderMode) else d.nodes.lookup p

def put (d : Disk) (p : Place) (n : Node) : Disk :=
  { d with nodes := (p, n) :: d.nodes.filter (·.1 != p) }

def drop (d : Disk) (p : Place) : Disk := { d with nodes := d.nodes.filter (·.1 != p) }

def file? (d : Disk) (number : Nat) : Option File := d.files.lookup number

def setFile (d : Disk) (number : Nat) (f : File) : Disk :=
  { d with files := (number, f) :: d.files.filter (·.1 != number) }

/-- Puts a new file at a place. -/
def create (d : Disk) (p : Place) (f : File) : Disk :=
  { d.put p (.file d.nextNumber) with
    files := (d.nextNumber, f) :: d.files, nextNumber := d.nextNumber + 1 }

/-- The names in a folder. -/
def names (d : Disk) (p : Place) : List String :=
  d.nodes.filterMap fun (q, _) => if q.dropLast == p then q.getLast? else none

/-! ## Following paths -/

/-- Longest name of a step, in bytes. -/
def nameLimit : Nat := 255

/-- Longest path, in bytes. -/
def pathLimit : Nat := 4095

/-- How many links one path may follow. -/
def linkLimit : Nat := 40

def isFolderNode : Node → Bool
  | .folder _ => true
  | _ => false

/-- Where steps lead from the folder `base`. A link at the end is followed
where `follow` says so; `onLink` goes on from a folder with the steps of a
link that is followed and those behind it. -/
def walkFrom (d : Disk) (follow : Bool) (onLink : Place → List String → Except IoFault Spot)
    (base : Place) : (steps : List String) → Except IoFault Spot
  | [] => .ok ⟨base, d.node? base⟩
  | s :: rest =>
    if nameLimit < s.utf8ByteSize then .error .nameTooLong
    else if s == "." then d.walkFrom follow onLink base rest
    else if s == ".." then d.walkFrom follow onLink base.dropLast rest
    else
      let place := base ++ [s]
      match d.node? place with
      | none => if rest.isEmpty then .ok ⟨place, none⟩ else .error .notFound
      | some (.folder _) => d.walkFrom follow onLink place rest
      | some (.link target) =>
        if rest.isEmpty && !follow then .ok ⟨place, some (.link target)⟩
        else onLink (if isAbsolute target then [] else base) (Files.steps target ++ rest)
      | some n => if rest.isEmpty then .ok ⟨place, some n⟩ else .error .notADirectory

/-- Where steps lead when at most `links` links are followed. -/
def walk (d : Disk) (follow : Bool) :
    (links : Nat) → (base : Place) → (steps : List String) → Except IoFault Spot
  | 0 => d.walkFrom follow fun _ _ => .error .tooManyLinks
  | links + 1 => d.walkFrom follow (d.walk follow links)

def checkPath (path : String) : Except IoFault Unit :=
  if path.toList.contains '\x00' then .error .nulInPath
  else if path.isEmpty then .error .notFound
  else if pathLimit < path.utf8ByteSize then .error .nameTooLong
  else .ok ()

/-- The folder in which the steps of a path begin. -/
def startOf (base : Place) (path : String) : Place := if isAbsolute path then [] else base

/-- What a path leads to, from the folder `base`. A path that ends in a slash
leads to no file. -/
def locate (d : Disk) (path : String) (follow : Bool := true) (base : Place := []) :
    Except IoFault Spot := do
  checkPath path
  let asksFolder := endsInSlash path
  let spot ← d.walk (follow || asksFolder) linkLimit (startOf base path) (steps path)
  match spot.node with
  | some (.folder _) | none => pure spot
  | some _ => if asksFolder then .error .notADirectory else pure spot

/-- What stands at a path. -/
def lookup (d : Disk) (path : String) (follow : Bool := true) (base : Place := []) :
    Except IoFault (Place × Node) := do
  let spot ← d.locate path follow base
  match spot.node with
  | some n => pure (spot.place, n)
  | none => .error .notFound

/-- The folder that holds the last step of a path, and that step. -/
def lookupParent (d : Disk) (path : String) (base : Place := []) :
    Except IoFault (Place × String) := do
  checkPath path
  let parts := steps path
  match parts.getLast? with
  | none => .error .isADirectory
  | some last =>
    let spot ← d.walk true linkLimit (startOf base path) parts.dropLast
    match spot.node with
    | some (.folder _) =>
      if nameLimit < last.utf8ByteSize then .error .nameTooLong else pure (spot.place, last)
    | some _ => .error .notADirectory
    | none => .error .notFound

def isDot (step : String) : Bool := step == "." || step == ".."

/-! ## Files -/

/-- The content of the file at a path. A device holds nothing. -/
def readContent (d : Disk) (path : String) (base : Place := []) : Except IoFault Content := do
  match ← d.lookup path true base with
  | (_, .folder _) => .error .isADirectory
  | (_, .file n) => pure ((d.file? n).elim (.text "") (·.content))
  | _ => pure (.text "")

def readText (d : Disk) (path : String) : Except IoFault String := do
  match ← d.readContent path with
  | .text s => pure s
  | _ => .error .notText

/-- Creates or overwrites a file. A file that is there keeps its mode. -/
def write (d : Disk) (path : String) (c : Content) (mode : Nat := 0o644) (base : Place := []) :
    Except IoFault Disk := do
  let spot ← d.locate path true base
  match spot.node with
  | none => if endsInSlash path then .error .isADirectory else pure (d.create spot.place ⟨c, mode⟩)
  | some (.folder _) => .error .isADirectory
  | some (.file n) => pure (d.setFile n { (d.file? n).getD ⟨c, mode⟩ with content := c })
  | some (.device .full) => .error .noSpace
  | some _ => pure d

/-- Puts a new file in the place of one that is there. It has the mode of the
old one. -/
def replaceFile (d : Disk) (path : String) (c : Content) (base : Place := []) :
    Except IoFault Disk := do
  let (p, _) ← d.lookup path false base
  let mode := match d.lookup path true base with
    | .ok (_, .file n) => ((d.file? n).map (·.mode)).getD 0o644
    | _ => 0o644
  pure ((d.drop p).create p ⟨c, mode⟩)

/-- Gives a file or a folder another mode. -/
def setMode (d : Disk) (path : String) (mode : Nat) (base : Place := []) : Except IoFault Disk := do
  match ← d.lookup path true base with
  | (_, .file n) => pure (d.setFile n { (d.file? n).getD ⟨.text "", mode⟩ with mode := mode })
  | (p, .folder _) => pure (if p.isEmpty then d else d.put p (.folder mode))
  | _ => pure d

def isFile (d : Disk) (path : String) : Bool :=
  match d.lookup path with
  | .ok (_, .file _) => true
  | _ => false

def isFolder (d : Disk) (path : String) (base : Place := []) : Bool :=
  match d.lookup path true base with
  | .ok (_, .folder _) => true
  | _ => false

def isPresent (d : Disk) (path : String) : Bool := (d.lookup path).isOk

/-! ## Moving and removing -/

/-- Moves everything at and below a place to another one. -/
def moveTree (d : Disk) (source target : Place) : Disk :=
  let isBelow (p : Place) : Bool := source.isPrefixOf p
  let moved := (d.nodes.filter fun (p, _) => isBelow p).map fun (p, n) =>
    (target ++ p.drop source.length, n)
  { d with nodes := moved ++ d.nodes.filter fun (p, _) => !isBelow p && p != target }

/-- Moves a file or a folder to a path, over a file or an empty folder that
may be there. -/
def rename (d : Disk) (source target : String) (base : Place := []) : Except IoFault Disk := do
  let (p, n) ← d.lookup source false base
  let (folder, last) ← d.lookupParent target base
  let q := folder ++ [last]
  if isDot last || (steps source).getLast?.all isDot then .error .busy
  else if isFolderNode n then
    if p.isPrefixOf q && p != q then .error .invalidArgument
    else
      match d.node? q with
      | none => pure (d.moveTree p q)
      | some (.folder _) =>
        if p == q then pure d
        else if (d.names q).isEmpty then pure (d.moveTree p q)
        else .error .notEmpty
      | some _ => .error .notADirectory
  else if endsInSlash target then .error .notADirectory
  else
    match d.node? q with
    | some (.folder _) => .error .isADirectory
    | other => if other == some n then pure d else pure ((d.drop p).put q n)

/-- Removes a place that is no folder. -/
def unlink (d : Disk) (path : String) (base : Place := []) : Except IoFault Disk := do
  match ← d.lookup path false base with
  | (_, .folder _) => .error .isADirectory
  | (p, _) => pure (d.drop p)

/-- Removes a file or a link; anything else stays. -/
def remove (d : Disk) (path : String) : Disk :=
  match d.unlink path with
  | .ok d => d
  | .error _ => d

/-- Removes an empty folder. -/
def removeFolder (d : Disk) (path : String) (base : Place := []) : Except IoFault Disk := do
  match ← d.lookup path false base with
  | (p, .folder _) =>
    if (steps path).getLast? == some "." then .error .invalidArgument
    else if p.isEmpty then .error .busy
    else if (d.names p).isEmpty then pure (d.drop p)
    else .error .notEmpty
  | _ => .error .notADirectory

/-! ## Folders and links -/

/-- Puts a node where nothing stands yet. -/
def putNew (d : Disk) (path : String) (n : Node) (base : Place := []) : Except IoFault Disk := do
  let (folder, last) ← d.lookupParent path base
  if isDot last then .error .alreadyExists
  else
    match d.node? (folder ++ [last]) with
    | some _ => .error .alreadyExists
    | none => pure (d.put (folder ++ [last]) n)

def makeFolder (d : Disk) (path : String) (mode : Nat := folderMode) (base : Place := []) :
    Except IoFault Disk :=
  d.putNew path (.folder mode) base

def makeLink (d : Disk) (path target : String) (base : Place := []) : Except IoFault Disk :=
  if target.isEmpty then .error .notFound
  else if endsInSlash path then .error .notFound
  else d.putNew path (.link target) base

/-- Gives a file a second place. -/
def makeAlias (d : Disk) (path target : String) (base : Place := []) : Except IoFault Disk := do
  match ← d.lookup target false base with
  | (_, .folder _) => .error .permissionDenied
  | (_, n) => d.putNew path n base

/-- Creates a folder and the folders above it that are missing; the steps
come innermost first. -/
def makeFoldersUp (d : Disk) (absolute : Bool) : (parts : List String) → Except IoFault Disk
  | [] => .ok d
  | last :: up =>
    let path := joined absolute (last :: up).reverse
    match d.makeFolder path with
    | .ok d => .ok d
    | .error .notFound => do
      let d ← d.makeFoldersUp absolute up
      match d.makeFolder path with
      | .ok d => .ok d
      | .error e => if d.isFolder path then .ok d else .error e
    | .error e => if d.isFolder path then .ok d else .error e

def makeFolders (d : Disk) (path : String) : Except IoFault Disk :=
  d.makeFoldersUp (isAbsolute path) (components path).reverse

/-- Writes a file with the folders above it, as far as that is possible. -/
def plant (d : Disk) (path : String) (c : Content) : Disk :=
  let d := match d.makeFolders ((parent? path).getD "") with
    | .ok d => d
    | .error _ => d
  match d.write path c with
  | .ok d => d
  | .error _ => d

/-- Makes a folder with the folders above it, as far as that is possible. -/
def plantFolder (d : Disk) (path : String) : Disk :=
  match d.makeFolders path with
  | .ok d => d
  | .error _ => d

end Disk

end ProxySync.Files
