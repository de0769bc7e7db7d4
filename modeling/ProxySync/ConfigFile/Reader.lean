import ProxySync.ConfigFile.Section

/-!
# Reading a configuration file back

A header line opens a section, and the lines after it up to the next blank
one are its body. Of the body only the directives that sections are written
with are looked at; everything else in the file is passed over. So only
files of simple structure read back exactly.
-/

namespace ProxySync.ConfigFile

open ProxySync.Text

/-! ## Lines -/

/-- The value on a line that starts with a word and a space, blanks around
it removed; none when nothing is left. -/
def valueAfter? (word : String) (line : List Char) : Option (List Char) :=
  ((dropLead? (word.toList ++ [' ']) line).map trim).filter (!·.isEmpty)

/-- The section that a line opens. -/
def header? (line : List Char) : Option (Kind × List Char) :=
  match valueAfter? Kind.frontend.noun line with
  | some name => some (.frontend, name)
  | none => (valueAfter? Kind.backend.noun line).map (.backend, ·)

/-! ## Faults -/

/-- Why a server line is no member. -/
inductive ServerFault where
  | fieldCount (found : Nat)
  | noPort (address : String)
  | badPort (port : String) (reason : NumeralFault)
deriving DecidableEq, Repr

def ServerFault.message : ServerFault → String
  | .fieldCount found => "expected 5 fields in server line, found " ++ toString found
  | .noPort address => "'" ++ address ++ "' is not host:port"
  | .badPort port reason => "bad port '" ++ port ++ "': " ++ reason.message

/-- A backend section that cannot be read. -/
structure FormatFault where
  backend : String
  reason : ServerFault
deriving DecidableEq, Repr

def FormatFault.message (f : FormatFault) : String :=
  "haproxy config file is invalid - could not read members for backend " ++ f.backend ++ ": " ++
    f.reason.message

/-! ## Sections -/

/-- The member of a server line's value: a name, an address with a port
after its last colon, and three fields of health check. -/
def readServer (value : List Char) : Except ServerFault Member :=
  match fields value with
  | [name, address, _, _, _] =>
    match cutLast? ':' address with
    | none => .error (.noPort (String.ofList address))
    | some (host, port) =>
      match readNumeral 65535 port with
      | .ok n => .ok { name := String.ofList name, host := String.ofList host, port := n.toUInt16 }
      | .error e => .error (.badPort (String.ofList port) e)
  | fs => .error (.fieldCount fs.length)

def readListenerLine (l : Listener) (line : List Char) : Listener :=
  if let some v := valueAfter? "bind" line then { l with bind := String.ofList v }
  else if let some v := valueAfter? "mode" line then { l with mode := String.ofList v }
  else if let some v := valueAfter? "default_backend" line then
    { l with defaultBackend := String.ofList v }
  else if let some v := valueAfter? "option" line then { l with option := String.ofList v }
  else l

def readPoolLine (p : Pool) (line : List Char) : Except ServerFault Pool :=
  if let some v := valueAfter? "balance" line then .ok { p with balance := String.ofList v }
  else if let some v := valueAfter? "mode" line then .ok { p with mode := String.ofList v }
  else if let some v := valueAfter? "server" line then do
    let m ← readServer v
    .ok { p with members := p.members ++ [m] }
  else .ok p

inductive Section where
  | listener (l : Listener)
  | pool (p : Pool)

def readSection (k : Kind) (name : List Char) (body : List (List Char)) :
    Except FormatFault Section :=
  match k with
  | .frontend => .ok (.listener (body.foldl readListenerLine { name := String.ofList name }))
  | .backend =>
    match body.foldlM readPoolLine { name := String.ofList name } with
    | .ok p => .ok (.pool p)
    | .error reason => .error ⟨String.ofList name, reason⟩

/-! ## Whole files -/

/-- The sections of trimmed lines, in file order. -/
def readSections : List (List Char) → Except FormatFault (List Section)
  | [] => .ok []
  | line :: rest =>
    match header? line with
    | none => readSections rest
    | some (k, name) => do
      let s ← readSection k name (rest.takeWhile (!·.isEmpty))
      let sections ← readSections (rest.dropWhile (!·.isEmpty))
      pure (s :: sections)
termination_by lines => lines.length
decreasing_by
  · simp
  · have := (List.dropWhile_sublist (fun l : List Char => !l.isEmpty) (l := rest)).length_le
    simp
    omega

def listenersOf (sections : List Section) : List Listener :=
  sections.filterMap fun
    | .listener l => some l
    | .pool _ => none

def poolsOf (sections : List Section) : List Pool :=
  sections.filterMap fun
    | .listener _ => none
    | .pool p => some p

/-- The listeners and the pools of a configuration text, in file order. -/
def read (text : String) : Except FormatFault (List Listener × List Pool) := do
  let sections ← readSections ((lines text.toList).map trim)
  pure (listenersOf sections, poolsOf sections)

end ProxySync.ConfigFile
