import ProxySync.Sync.Service

/-!
# Calls and runs

A call to the service as a value, with its reply. A run is a list of calls
made one after the other.
-/

namespace ProxySync

inductive Entity where
  | listener (l : Listener)
  | pool (p : Pool)
deriving DecidableEq, Inhabited

namespace Entity

def kind : Entity → Kind
  | .listener _ => .frontend
  | .pool _ => .backend

def name : Entity → String
  | .listener l => l.name
  | .pool p => p.name

def encode : Entity → Json
  | .listener l => l.encode
  | .pool p => p.encode

/-- Reads an entity of a kind off a text of its own. -/
def ofText (k : Kind) (s : String) : Except Json.Fault Entity :=
  match k with
  | .frontend => (Record.ofText s).map .listener
  | .backend => (Record.ofText s).map .pool

end Entity

inductive Call where
  | save (e : Entity)
  | merge (k : Kind) (name : String) (patch : Json)
  | delete (k : Kind) (name : String)
  | get (k : Kind) (name : String)
  | list (k : Kind)
  | members (pool : String)
  | readConfig
  | reload
  | importConfig

inductive Reply where
  | saved (e : Entity) (created : Bool)
  | entity (e : Entity)
  | found (e : Option Entity)
  | entities (es : List Entity)
  | members (ms : List Member)
  | text (s : String)
  | imported (summary : ImportSummary)
  | done

namespace Service

variable {σ : Type} (v : Service σ)

/-- Makes one call. -/
def answer : Call → Act σ ServiceFault Reply
  | .save (.listener l) => do
    let r ← v.save l
    pure (.saved (.listener r.entity) r.created)
  | .save (.pool p) => do
    let r ← v.save p
    pure (.saved (.pool r.entity) r.created)
  | .merge .frontend name patch => return .entity (.listener (← v.merge Listener name patch))
  | .merge .backend name patch => return .entity (.pool (← v.merge Pool name patch))
  | .delete .frontend name => do
    v.delete Listener name
    pure .done
  | .delete .backend name => do
    v.delete Pool name
    pure .done
  | .get .frontend name => return .found ((← v.get Listener name).map .listener)
  | .get .backend name => return .found ((← v.get Pool name).map .pool)
  | .list .frontend => return .entities ((← v.list Listener).map .listener)
  | .list .backend => return .entities ((← v.list Pool).map .pool)
  | .members pool => return .members (← v.members pool)
  | .readConfig => return .text (← v.readConfig)
  | .reload => do
    v.reloadProxy
    pure .done
  | .importConfig => return .imported (← v.importConfig)

/-- Makes the calls of a run in order. -/
def answerAll : List Call → Scene σ → List (Except ServiceFault Reply) × Scene σ
  | [], s => ([], s)
  | c :: calls, s =>
    let (r, s) := (v.answer c).perform s
    let (rs, s) := answerAll calls s
    (r :: rs, s)

end Service

end ProxySync
