import ProxySync.Sync.Service

/-!
# Trials

A world for runs of the service in which any port call may be refused. A
trial has a tape that tells of the calls to come which are refused; when the
tape is used up, every call goes through. A refused call changes nothing.
All calls are logged, the latest first, so the order in which the service
uses its ports can be read off a trial.
-/

namespace ProxySync

/-- A call to a port. -/
inductive PortUse where
  | lookup (k : Kind) (name : String)
  | scan (k : Kind)
  | put (k : Kind) (name text : String)
  | remove (k : Kind) (name : String)
  | writeConfig (text : String)
  | readConfig
  | reload
deriving DecidableEq, Repr

structure Trial where
  store : Store := .empty
  /-- The text of the configuration file, if there is one. -/
  file : Option String := none
  /-- Whether each of the calls to come is refused. -/
  refusals : List Bool := []
  /-- The calls so far, each with whether it went through. -/
  log : List (PortUse × Bool) := []

namespace Trial

variable {ε α : Type}

/-- Makes a call unless the tape refuses it, and logs it. -/
def call (use : PortUse) (refusal : ε) (act : PortCall Trial ε α) : PortCall Trial ε α := fun t =>
  let (r, t) :=
    if t.refusals.headD false then (.error refusal, { t with refusals := t.refusals.tail })
    else act { t with refusals := t.refusals.tail }
  (r, { t with log := (use, r.isOk) :: t.log })

def ports : Ports Trial where
  lookup k name := call (.lookup k name) (.engine "read refused") fun t =>
    (.ok (t.store.text? k name), t)
  scan k := call (.scan k) (.engine "read refused") fun t => (.ok (t.store.scan k), t)
  put k name text := call (.put k name text) (.engine "write refused") fun t =>
    (.ok (), { t with store := t.store.put k name text })
  remove k name := call (.remove k name) (.engine "write refused") fun t =>
    (.ok (), { t with store := t.store.remove k name })
  writeConfig text := call (.writeConfig text) (.io .diskFull) fun t =>
    (.ok (), { t with file := some text })
  readConfig := call .readConfig (.io .notFound) fun t =>
    match t.file with
    | some text => (.ok text, t)
    | none => (.error (.io .notFound), t)
  reload := call .reload (.failed "" "refused") fun t => (.ok (), t)

def service (template : ConfigFile.Template) : Service Trial := ⟨ports, template⟩

end Trial

end ProxySync
