import ProxySync.Text.Blank

/-!
# Paths

A path is kept as its text. Its steps are what stands between the slashes;
the system follows them one by one. A file name is the last step that is not
a dot, and two dots are no file name.
-/

namespace ProxySync.Files

/-- The steps between slashes, empty ones left out. -/
def steps (path : String) : List String :=
  ((path.toList.splitOn '/').filter (!·.isEmpty)).map String.ofList

def isAbsolute (path : String) : Bool := path.toList.head? == some '/'

/-- The path asks for a folder: it ends in a slash. -/
def endsInSlash (path : String) : Bool := path.toList.getLast? == some '/'

/-- The steps without dots that change nothing. A dot counts only where it
starts a relative path. -/
def components (path : String) : List String :=
  match steps path with
  | [] => []
  | first :: rest =>
    let rest := rest.filter (· != ".")
    if first == "." && isAbsolute path then rest else first :: rest

def fileName? (path : String) : Option String :=
  match (components path).getLast? with
  | some name => if name == ".." || name == "." then none else some name
  | none => none

def joined (absolute : Bool) (parts : List String) : String :=
  (if absolute then "/" else "") ++ "/".intercalate parts

/-- The path with its file name replaced. -/
def withFileName (path name : String) : String :=
  joined (isAbsolute path) ((components path).dropLast ++ [name])

/-- The path of a file inside a folder. -/
def child (folder name : String) : String :=
  if folder.isEmpty then name
  else if endsInSlash folder then folder ++ name
  else folder ++ "/" ++ name

/-- The path of the containing folder; none for the root and the empty path. -/
def parent? (path : String) : Option String :=
  match components path with
  | [] => none
  | parts => some (joined (isAbsolute path) parts.dropLast)

end ProxySync.Files
