import ProxySync.Entity.Codec
import ProxySync.Files.Disk

/-!
# The entity store

One ordered table holds the encoded entities of both kinds. The key of a
record is the lead of its kind followed by the name, so the records of a
kind stand next to each other and in the order of their names.
-/

namespace ProxySync

/-! ## Faults -/

inductive StoreFault where
  | engine (reason : String)
  /-- The record under `key` does not decode. -/
  | undecodable (key : String) (fault : Json.Fault)
  | io (cause : Files.IoFault)
deriving DecidableEq, Repr

/-- Records are JSON texts, so one can be malformed only where an array holds
more items than the record it stands for. -/
def recordFaultMessage : Json.Fault → String
  | .malformed => "trailing characters"
  | .mismatch _ cause => cause.message

def StoreFault.message : StoreFault → String
  | .engine reason => "storage engine error: " ++ reason
  | .undecodable key fault =>
    "failed to encode entity '" ++ key ++ "': " ++ recordFaultMessage fault
  | .io cause => "IO error: " ++ cause.message

/-- Decodes the record under `key`. -/
def decodeRecordText {α : Type} [Record α] (key text : String) : Except StoreFault α :=
  (Record.ofText text).mapError (.undecodable key)

/-! ## Stores -/

/-- The records are texts, as the program writes them; a `Table` has any bytes
for values. -/
structure Store where
  records : Dict String
deriving DecidableEq, Inhabited

namespace Store

def empty : Store := ⟨∅⟩

/-- The text of the record of this kind and name. -/
def text? (s : Store) (k : Kind) (name : String) : Option String := s.records.get? (k.key name)

def put (s : Store) (k : Kind) (name text : String) : Store := ⟨s.records.insert (k.key name) text⟩

def remove (s : Store) (k : Kind) (name : String) : Store := ⟨s.records.erase (k.key name)⟩

def startsWith (lead key : String) : Bool := lead.toList.isPrefixOf key.toList

/-- The entries from `lead` upwards, up to the first whose key does not start
with it. -/
def entriesFrom {β : Type} (lead : String) (l : List (String × β)) : List (String × β) :=
  (l.dropWhile fun e => decide (e.1 < lead)).takeWhile fun e => startsWith lead e.1

def scanFrom (s : Store) (lead : String) : List (String × String) :=
  entriesFrom lead s.records.entries

/-- The records of a kind under their keys, in key order. -/
def scan (s : Store) (k : Kind) : List (String × String) := s.scanFrom k.keyLead

/-! ## Entities -/

variable {α : Type} [Record α]

def get? (s : Store) (name : String) : Except StoreFault (Option α) :=
  match s.text? (Record.kind α) name with
  | some text => (decodeRecordText ((Record.kind α).key name) text).map some
  | none => .ok none

/-- All entities of a kind; the fault is that of the first record that does
not decode. -/
def all (s : Store) : Except StoreFault (List α) :=
  (s.scan (Record.kind α)).mapM fun e => decodeRecordText e.1 e.2

/-- Stores an entity under its own name. -/
def save (s : Store) (a : α) : Store :=
  s.put (Record.kind α) (Record.name a) (Record.text a)

def delete (α : Type) [Record α] (s : Store) (name : String) : Store :=
  s.remove (Record.kind α) name

end Store

end ProxySync
