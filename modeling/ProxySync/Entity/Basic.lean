import ProxySync.Calendar.Instant
import ProxySync.Json.Decode
import ProxySync.Json.Printer

/-!
# Listeners, pools and their members

A listener is a front door of the proxy and becomes a frontend section; a
pool is a group of members and becomes a backend section. Names are the
only identity. Fields that the configuration file does not show are kept
for the operators' own use.
-/

namespace ProxySync

/-! ## Kinds -/

inductive Kind where
  | frontend
  | backend
deriving DecidableEq, Repr

namespace Kind

/-- The word for an entity of this kind in messages. -/
def noun : Kind → String
  | .frontend => "frontend"
  | .backend => "backend"

/-- The word for the kind in encoded texts. -/
def tag : Kind → String
  | .frontend => "listener"
  | .backend => "pool"

/-- What the store keys of the kind start with. -/
def keyLead (k : Kind) : String := k.tag ++ "/"

def key (k : Kind) (name : String) : String := k.keyLead ++ name

end Kind

/-! ## Entities -/

structure Listener where
  name : String := ""
  bind : String := ""
  defaultBackend : String := ""
  mode : String := ""
  keepAlive : String := ""
  option : String := ""
  /-- Lines written as they are after the known directives. -/
  rules : List String := []
  metadata : Dict String := ∅
deriving DecidableEq, Inhabited

structure Member where
  name : String := ""
  version : String := ""
  host : String := ""
  port : UInt16 := 0
  lastKnown : Option Calendar.Instant := none
  metadata : Dict String := ∅
deriving DecidableEq, Inhabited

structure Pool where
  name : String := ""
  /-- The release of the application behind the pool, for operators only. -/
  version : String := ""
  balance : String := ""
  host : String := ""
  mode : String := ""
  members : List Member := []
  metadata : Dict String := ∅
deriving DecidableEq, Inhabited

/-- The name and the version of a member. -/
def Member.label (m : Member) : String := m.name ++ "-" ++ m.version

/-! ## Single lines

Every text that becomes part of one line of the configuration file must not
break that line. -/

/-- A field and its text. -/
abbrev LineField := String × String

def hasLineBreak (s : String) : Bool := s.toList.any fun c => c == '\n' || c == '\r'

def Listener.lineFields (l : Listener) : List LineField :=
  [("name", l.name), ("bind", l.bind), ("mode", l.mode),
    ("defaultBackend", l.defaultBackend), ("option", l.option)] ++
  l.rules.mapIdx fun i rule => ("rules[" ++ toString i ++ "]", rule)

def Pool.lineFields (p : Pool) : List LineField :=
  [("name", p.name), ("mode", p.mode), ("balance", p.balance)] ++
  (p.members.mapIdx fun i m =>
    [("members[" ++ toString i ++ "].name", m.name),
      ("members[" ++ toString i ++ "].host", m.host)]).flatten

/-- The first field with a line break. -/
def brokenField? (fields : List LineField) : Option String :=
  (fields.find? (hasLineBreak ·.2)).map (·.1)

def brokenFieldMessage (field : String) : String := field ++ " must not contain line breaks"

/-! ## What the store and the service need of an entity -/

/-- A kind of thing that is stored under its name. -/
class Record (α : Type) where
  kind : Kind
  name : α → String
  rename : String → α → α
  lineFields : α → List LineField
  encode : α → Json
  decode : Json.Origin → Json.Draft → Except Json.Fault α

namespace Record

variable {α : Type} [Record α]

/-- The store key of an entity. -/
def key (a : α) : String := (kind α).key (name a)

def brokenField? (a : α) : Option String := ProxySync.brokenField? (lineFields a)

/-- The compact text of an entity. -/
def text (a : α) : String := (encode a).text

/-- Reads an entity off a text of its own. -/
def ofText (s : String) : Except Json.Fault α :=
  Json.decodeText (decode .text) (.ofString s)

end Record

end ProxySync
