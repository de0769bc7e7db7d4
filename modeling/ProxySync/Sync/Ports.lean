import ProxySync.Sync.Fault

/-!
# Ports and tallies

The service reaches the store, the configuration file and the proxy only
through its ports, each of which may refuse. `Act` is a step of the service:
it acts on the world behind the ports and keeps a tally of what happened.
-/

namespace ProxySync

open Files

/-! ## Ports -/

/-- A call to the world `σ`. -/
abbrev PortCall (σ ε α : Type) := σ → Except ε α × σ

structure Ports (σ : Type) where
  /-- The record of this kind and name. -/
  lookup : Kind → String → PortCall σ StoreFault (Option String)
  /-- All records of a kind under their keys, in key order. -/
  scan : Kind → PortCall σ StoreFault (List (String × String))
  put : Kind → String → (text : String) → PortCall σ StoreFault Unit
  remove : Kind → String → PortCall σ StoreFault Unit
  /-- Replaces the configuration file. -/
  writeConfig : (text : String) → PortCall σ ConfigFault Unit
  readConfig : PortCall σ ConfigFault String
  /-- Makes the proxy read its configuration again. -/
  reload : PortCall σ ReloadFault Unit

/-! ## Tallies -/

inductive Operation where
  | save
  | merge
  | delete
deriving DecidableEq, Repr

def Operation.name : Operation → String
  | .save => "save"
  | .merge => "merge"
  | .delete => "delete"

/-- What is counted. -/
inductive Event where
  /-- A call that changes an entity, with the kind of its fault if it failed. -/
  | mutation (k : Kind) (op : Operation) (fault : Option FaultKind)
  /-- A rendering followed by a reload, also one that broke off. -/
  | sync
  | reload (succeeded : Bool)
deriving DecidableEq, Repr

/-- The world and the events so far, the latest first. -/
structure Scene (σ : Type) where
  world : σ
  events : List Event := []

/-! ## Steps -/

abbrev Act (σ ε : Type) := ExceptT ε (StateM (Scene σ))

namespace Act

variable {σ ε ε' α : Type}

/-- Asks a port. -/
def ask (call : PortCall σ ε α) : Act σ ε α := fun s =>
  let (r, world) := call s.world
  (r, { s with world := world })

def lift (r : Except ε α) : Act σ ε α := fun s => (r, s)

def count (e : Event) : Act σ ε Unit := fun s => (.ok (), { s with events := e :: s.events })

/-- Runs a step and hands over its outcome instead of failing. -/
def attempt (act : Act σ ε α) : Act σ ε' (Except ε α) := fun s =>
  let (r, s) := act s
  (.ok r, s)

/-- Gives the fault of a step its place. -/
def blaming (place : ε → ε') (act : Act σ ε α) : Act σ ε' α := fun s =>
  let (r, s) := act s
  (r.mapError place, s)

def perform (act : Act σ ε α) (s : Scene σ) : Except ε α × Scene σ := act s

end Act

end ProxySync
