import ProxySync.Entity.Name
import ProxySync.Sync.Patch
import ProxySync.Sync.Ports

/-!
# The synchronization service

The service is the only writer of the store. A change is applied to the
store, the configuration file is rendered from the whole store, and the
proxy is made to read it. When that breaks off, the change is taken back; if
taking it back fails too, store and file disagree and the call says so.
-/

namespace ProxySync

open ConfigFile

structure Service (σ : Type) where
  ports : Ports σ
  template : Template

structure Saved (α : Type) where
  entity : α
  /-- No entity of that name was there before. -/
  created : Bool

structure ImportSummary where
  listeners : Nat := 0
  pools : Nat := 0
  skipped : Nat := 0
deriving DecidableEq, Repr

namespace Service

open Act

variable {σ : Type} (v : Service σ)

/-! ## Reading -/

/-- The entity of exactly this name. -/
def lookup (α : Type) [Record α] (name : String) : Act σ StoreFault (Option α) := do
  match ← ask (v.ports.lookup (Record.kind α) name) with
  | none => pure none
  | some text => return some (← Act.lift (decodeRecordText ((Record.kind α).key name) text))

/-- All entities of a kind in the order of their names. -/
def listAll (α : Type) [Record α] : Act σ StoreFault (List α) := do
  let found ← ask (v.ports.scan (Record.kind α))
  Act.lift (found.mapM fun e => decodeRecordText e.1 e.2)

def get (α : Type) [Record α] (name : String) : Act σ ServiceFault (Option α) :=
  blaming .storage (v.lookup α name)

def list (α : Type) [Record α] : Act σ ServiceFault (List α) := blaming .storage (v.listAll α)

def members (pool : String) : Act σ ServiceFault (List Member) := do
  match ← v.get Pool pool with
  | some p => pure p.members
  | none => throw (.noEntity .backend pool)

def readConfig : Act σ ServiceFault String := blaming .noConfig (ask v.ports.readConfig)

/-! ## Writing to the store -/

def store {α : Type} [Record α] (a : α) : Act σ StoreFault Unit :=
  ask (v.ports.put (Record.kind α) (Record.name a) (Record.text a))

def discard (α : Type) [Record α] (name : String) : Act σ StoreFault Unit :=
  ask (v.ports.remove (Record.kind α) name)

/-! ## Synchronization -/

/-- Writes the configuration file from the whole store. -/
def renderCurrent : Act σ SyncFailure Unit := do
  let listeners ← blaming .read (v.listAll Listener)
  let pools ← blaming .read (v.listAll Pool)
  blaming .render (ask (v.ports.writeConfig (v.template.render listeners pools)))

def reload : Act σ SyncFailure Unit := do
  match ← attempt (ask v.ports.reload) with
  | .ok () => count (.reload true)
  | .error fault =>
    count (.reload false)
    throw (.reload fault)

def renderAndReload : Act σ SyncFailure Unit := do
  count .sync
  v.renderCurrent
  v.reload

/-- Brings file and proxy in line with the store, or takes the change back
with `undo`. After a failed reload the file is rendered once more. -/
def synchronize (undo : Act σ StoreFault Unit) : Act σ ServiceFault Unit := do
  match ← attempt v.renderAndReload with
  | .ok () => pure ()
  | .error failure =>
    match ← attempt undo with
    | .error rollback => throw (.outOfSync failure rollback)
    | .ok () =>
      if failure.isFileWritten then
        let _ ← attempt v.renderCurrent
      throw (.sync failure)

/-! ## Changes -/

/-- Counts a call by its outcome. -/
def counted {α : Type} (k : Kind) (op : Operation) (act : Act σ ServiceFault α) :
    Act σ ServiceFault α := do
  match ← attempt act with
  | .ok a =>
    count (.mutation k op none)
    pure a
  | .error fault =>
    count (.mutation k op (some fault.kind))
    throw fault

def normalize (name : String) : Act σ ServiceFault String :=
  match normalName? name with
  | some name => pure name
  | none => throw .emptyName

/-- Stores an entity under the name it has. -/
def saveAs {α : Type} [Record α] (a : α) : Act σ ServiceFault (Saved α) := do
  match Record.brokenField? a with
  | some field => throw (.lineBreak (Record.kind α) field)
  | none =>
    let previous ← v.get α (Record.name a)
    blaming .storage (v.store a)
    match previous with
    | some old => v.synchronize (v.store old)
    | none => v.synchronize (v.discard α (Record.name a))
    pure ⟨a, previous.isNone⟩

/-- Creates or replaces an entity. -/
def save {α : Type} [Record α] (a : α) : Act σ ServiceFault (Saved α) :=
  counted (Record.kind α) .save do
    let name ← normalize (Record.name a)
    v.saveAs (Record.rename name a)

/-- Replaces the fields of an entity that a patch names. -/
def merge (α : Type) [Record α] (name : String) (patch : Json) : Act σ ServiceFault α :=
  counted (Record.kind α) .merge do
    match ← v.get α name with
    | none => throw (.noEntity (Record.kind α) name)
    | some current =>
      match patched current patch with
      | .error fault => throw fault
      | .ok merged => return (← v.saveAs merged).entity

def delete (α : Type) [Record α] (name : String) : Act σ ServiceFault Unit :=
  counted (Record.kind α) .delete do
    let name ← normalize name
    match ← v.get α name with
    | none => throw (.nothingToDelete (Record.kind α))
    | some previous =>
      blaming .storage (v.discard α name)
      v.synchronize (v.store previous)

/-- Makes the proxy read the file as it is. -/
def reloadProxy : Act σ ServiceFault Unit := blaming .sync v.reload

/-! ## Import -/

/-- Stores an entity unless one of its name is there; tells whether it did. -/
def importOne {α : Type} [Record α] (a : α) : Act σ ServiceFault Bool := do
  let name ← normalize (Record.name a)
  match ← v.get α name with
  | some _ => pure false
  | none =>
    blaming .storage (v.store (Record.rename name a))
    pure true

/-- Stores the entities whose names are free and counts them; the second
count is of those passed over. -/
def importAll {α : Type} [Record α] : List α → Act σ ServiceFault (Nat × Nat)
  | [] => pure (0, 0)
  | a :: rest => do
    let stored ← v.importOne a
    let (n, skipped) ← importAll rest
    pure (if stored then (n + 1, skipped) else (n, skipped + 1))

/-- Seeds the store from the configuration file. Neither renders nor
reloads. -/
def importConfig : Act σ ServiceFault ImportSummary := do
  let text ← blaming .noImport (ask v.ports.readConfig)
  match ConfigFile.read text with
  | .error fault => throw (.noImport (.format fault))
  | .ok (listeners, pools) =>
    let (n, skipped) ← v.importAll listeners
    let (m, skipped') ← v.importAll pools
    pure ⟨n, m, skipped + skipped'⟩

end Service

end ProxySync
