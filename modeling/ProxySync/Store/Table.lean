import ProxySync.Store.Basic
import ProxySync.Text.Utf8

/-!
# Records as bytes

What the database holds under a key are bytes, whoever wrote them. The
program writes texts only, so a store is a table of the bytes of its texts
(`Store.table`).
-/

namespace ProxySync

structure Table where
  records : Dict (List UInt8)

/-- Decodes the values of all entries; the fault is that of the first one
that does not decode, under its key. -/
def decodeAll {α β : Type} (decode : β → Except Json.Fault α) (l : List (String × β)) :
    Except StoreFault (List α) :=
  l.mapM fun e => (decode e.2).mapError (.undecodable e.1)

/-- Reads an entity off the bytes of a record. -/
def Record.ofBytes {α : Type} [Record α] (bytes : List UInt8) : Except Json.Fault α :=
  Json.decodeText (decode .text) (Text.readUtf8 bytes)

/-- All entities of a kind. -/
def Table.all {α : Type} [Record α] (t : Table) : Except StoreFault (List α) :=
  decodeAll Record.ofBytes (Store.entriesFrom (Record.kind α).keyLead t.records.entries)

def Store.table (s : Store) : Table := ⟨s.records.map Text.utf8Bytes⟩

end ProxySync
