import ProxySync.Shell.Script

/-!
# What a shell remembers

The parameters, functions, options and traps of a shell, and how its last
command ended.
-/

namespace ProxySync.Shell

structure Variable where
  value : Option String
  exported : Bool := false
  fixed : Bool := false
deriving DecidableEq, Repr, Inhabited

structure Session where
  /-- The name that the shell was called by. -/
  name : String
  bindings : List (String × Variable) := []
  functions : List (String × Script) := []
  arguments : List String := []
  /-- The letters of the options that are set. -/
  options : List Char := []
  status : Nat := 0
  /-- The status of the last output that was put into a word. -/
  outputStatus : Nat := 0
  /-- The last command in the background. -/
  lastJob : Option Nat := none
  /-- The process that the shell started as. -/
  root : Nat := 0
  /-- What signals do. An empty action ignores the signal. -/
  traps : List (Nat × String) := []
  documents : List (Nat × Word) := []
  nextDocument : Nat := 0
  aliases : List (String × String) := []
  /-- The line of the command that runs. -/
  line : Nat := 1
  /-- What complaints began with in the shell that this one was forked from. -/
  context : String := ""
  /-- How many loops and functions are being run. -/
  loops : Nat := 0
  calls : Nat := 0
  /-- The place inside an argument that options are being read from. -/
  optionPlace : Nat := 0

namespace Session

def slot? (s : Session) (name : String) : Option Variable := s.bindings.lookup name

def value? (s : Session) (name : String) : Option String := (s.slot? name).bind (·.value)

def put (s : Session) (name : String) (v : Variable) : Session :=
  { s with bindings := (name, v) :: s.bindings.filter (·.1 != name) }

def isFixed (s : Session) (name : String) : Bool := (s.slot? name).any (·.fixed)

def hasOption (s : Session) (letter : Char) : Bool := s.options.contains letter

/-- Gives a variable a value; it stays exported if it is. -/
def assign (s : Session) (name value : String) : Session :=
  let old := (s.slot? name).getD ⟨none, false, false⟩
  let s := if name == "OPTIND" then { s with optionPlace := 0 } else s
  s.put name { old with value := some value, exported := old.exported || s.hasOption 'a' }

def unset (s : Session) (name : String) : Session :=
  { s with bindings := s.bindings.filter (·.1 != name) }

/-- Exports a variable with a value. -/
def assignExported (s : Session) (name value : String) : Session :=
  let s := s.assign name value
  s.put name { (s.slot? name).getD ⟨none, false, false⟩ with value := some value, exported := true }

/-- The drawer that a variable is kept in. -/
def drawerOf (name : String) : Nat :=
  let codes := name.toList.map Char.toNat
  (16 * codes.headD 0 + codes.foldl (· + ·) 0) % 39

/-- What other programs see of the variables, drawer by drawer. -/
def environment (s : Session) : List (String × String) :=
  let seen := s.bindings.filterMap fun (name, v) =>
    match v.value with
    | some value => if v.exported then some (name, value) else none
    | none => none
  seen.mergeSort fun a b => drawerOf a.1 ≤ drawerOf b.1

/-- The characters that words are split at. -/
def separators (s : Session) : List Char := ((s.value? "IFS").getD " \t\n").toList

def setOption (s : Session) (letter : Char) (on : Bool) : Session :=
  let others := s.options.filter (· != letter)
  { s with options := if on then letter :: others else others }

/-- The letters of the options, in the order in which they are shown. -/
def optionLetters : List Char := "efIimnsxvVECabup".toList

def shownOptions (s : Session) : String := String.ofList (optionLetters.filter s.hasOption)

end Session

/-- A shell that begins with the variables of an environment. -/
def Session.start (name : String) (arguments : List String)
    (environment : List (String × String)) : Session where
  name := name
  arguments := arguments
  bindings :=
    let given := environment.filter fun (n, _) => isName n
    let own := [("IFS", " \t\n"), ("OPTIND", "1"), ("PS1", "# "), ("PS2", "> "), ("PS4", "+ ")]
    let own := own.filter fun (n, _) => n == "IFS" || (given.lookup n).isNone
    own.map (fun (n, v) => (n, { value := some v })) ++
      (given.filter fun (n, _) => n != "IFS").map fun (n, v) =>
        (n, { value := some v, exported := true })

end ProxySync.Shell
