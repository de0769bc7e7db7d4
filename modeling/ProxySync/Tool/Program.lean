import ProxySync.Tool.Basic

/-!
# Programs on the disk

A program is found along a search path or by its own path. What its file holds
decides what runs: a tool of the system, an interpreter that the file names, or
the shell.
-/

namespace ProxySync.Tool

open Files


/-- The shells, which are no tools but run as such. -/
def shellNames : List String := ["sh", "dash", "bash"]

/-- What the first line of a script says about its interpreter. -/
def interpreter? (content : String) : Option (String × Option String) :=
  if content.startsWith "#!" then
    let isBlank (c : Char) : Bool := c == ' ' || c == '\t'
    let line := ((content.toList.drop 2).takeWhile (· != '\n')).dropWhile isBlank
    let path := line.takeWhile (!isBlank ·)
    let rest := (line.drop path.length).dropWhile isBlank
    let rest := (rest.reverse.dropWhile isBlank).reverse
    if path.isEmpty then none
    else some (String.ofList path, if rest.isEmpty then none else some (String.ofList rest))
  else none

/-- How a file runs. -/
inductive Executable where
  | tool (name : String)
  | interpreted (path : String) (argument : Option String)
  /-- Commands for the shell. -/
  | commands

/-- What the file at a path is to the system, if it may be run. -/
def executable (d : Disk) (place : Place) (path : String) : Except IoFault Executable :=
  match d.lookup (Text.ofOctets path) true place with
  | .error e => .error e
  | .ok (_, .file n) =>
    match d.file? n with
    | none => .error .notFound
    | some f =>
      if Nat.land f.mode 0o111 == 0 then .error .permissionDenied
      else
        let content := f.content.octets
        match toolName? content, interpreter? content with
        | some name, _ => .ok (.tool name)
        | _, some (path, argument) => .ok (.interpreted path argument)
        | _, _ => .ok .commands
  | .ok _ => .error .permissionDenied

/-- The paths that a name may stand for. -/
def candidatePaths (searchPath name : String) : List String :=
  if name.toList.contains '/' then [name]
  else
    (searchPath.toList.splitOn ':').map fun folder =>
      if folder.isEmpty then name else child (String.ofList folder) name

def isRegular (d : Disk) (place : Place) (path : String) : Bool :=
  match d.lookup (Text.ofOctets path) true place with
  | .ok (_, .file _) => true
  | _ => false

/-- The first file of a name along the search path. -/
def findProgram? (d : Disk) (place : Place) (searchPath name : String) : Option String :=
  (candidatePaths searchPath name).find? (isRegular d place)

/-- The folders in which programs are found. -/
def searchPathOf (environment : List (String × String)) : String :=
  (environment.lookup "PATH").getD "/bin:/usr/bin"

/-- The path of the program that a name stands for, or what keeps it from
running. -/
def programPath (d : Disk) (place : Place) (searchPath name : String) :
    Except IoFault String :=
  let judged := (candidatePaths searchPath name).map fun path => (path, executable d place path)
  match judged.find? fun (_, r) => r.isOk with
  | some (path, _) => .ok path
  | none =>
    let isMissing (e : IoFault) : Bool := e == .notFound || e == .notADirectory
    let faults := judged.filterMap fun (_, r) => match r with
      | .error e => some e
      | .ok _ => none
    .error (((faults.find? (!isMissing ·)).orElse fun () => faults.head?).getD .notFound)

end ProxySync.Tool
