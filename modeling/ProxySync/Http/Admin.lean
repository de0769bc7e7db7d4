import ProxySync.Http.Route
import ProxySync.Shutdown.Basic
import ProxySync.Sync.Service

/-!
# The admin interface

Answers requests on behalf of the synchronization service. Entities are
listed, read, replaced, patched and removed; the configuration file can be
read and reloaded, and a restart can be asked for.
-/

namespace ProxySync.Http

/-- What the interface serves. -/
structure Admin (σ : Type) where
  service : Service σ
  configPath : String
  reloadCommand : String
  /-- The path of the store's database. -/
  storePath : String
  showsMetrics : Bool

structure Admin.State (σ : Type) where
  scene : Scene σ
  shutdown : Shutdown

/-! ## Bodies -/

/-- The longest body, in bytes. -/
def bodyLimit : Nat := 2097152

inductive BodyFault where
  | mediaType
  | tooLong
  | malformed
  | mismatch (path : List Json.Step) (cause : Json.Mismatch)
deriving DecidableEq, Repr

def BodyFault.message : BodyFault → String
  | .mediaType => "Expected request with \x60Content-Type: application/json\x60"
  | .tooLong => "Failed to buffer the request body: length limit exceeded"
  | .malformed => "Failed to parse the request body as JSON"
  | .mismatch path cause =>
    let place := Json.pathText path
    "Failed to deserialize the JSON body into the target type: " ++
      (if place.isEmpty then "" else place ++ ": ") ++ cause.message

/-- Decodes the body of a request. -/
def readBody {α : Type} (r : Request) (decode : Json.Draft → Except Json.Fault α) :
    Except BodyFault α :=
  if !r.contentType.any isJsonType then .error .mediaType
  else if bodyLimit < r.body.length then .error .tooLong
  else
    match Json.decodeText decode (Text.readUtf8 r.body) with
    | .ok a => .ok a
    | .error .malformed => .error .malformed
    | .error (.mismatch path cause) => .error (.mismatch path cause)

/-- Takes any value. -/
def decodeValue (d : Json.Draft) : Except Json.Fault Json :=
  match Json.ofDraft? Json.depthLimit d with
  | some v => .ok v
  | none => .error .malformed

/-! ## Refusals -/

def refusal (status : Nat) (kind : FaultKind) (message : String) : Response :=
  .json status (.object [("code", .string kind.name), ("message", .string message)])

def statusOf : FaultKind → Nat
  | .badData => 400
  | .notFound => 404
  | _ => 500

def faultResponse (fault : ServiceFault) : Response :=
  refusal (statusOf fault.kind) fault.kind fault.message

def bodyFaultResponse (k : Kind) (fault : BodyFault) : Response :=
  refusal 400 .badData (ServiceFault.invalidData k ++ ": " ++ fault.message)

namespace Admin

variable {σ : Type} (a : Admin σ)

/-- Makes a call to the service and shows its outcome. -/
def call {α : Type} (s : State σ) (act : Act σ ServiceFault α) (response : α → Response) :
    Response × State σ :=
  match act.perform s.scene with
  | (.ok r, scene) => (response r, { s with scene := scene })
  | (.error fault, scene) => (faultResponse fault, { s with scene := scene })

def shown (v : Json) : Response := .json 200 v

/-! ## Entities -/

section Entity

variable (α : Type) [Record α]

def list (s : State σ) : Response × State σ :=
  call s (a.service.list α) fun all => shown (.array (all.map Record.encode))

def get (name : String) (s : State σ) : Response × State σ :=
  call s (a.service.get α name) fun
    | some e => shown (Record.encode e)
    | none => faultResponse (.noEntity (Record.kind α) name)

/-- Stores the entity in the body, under `name` if one is given. -/
def put (r : Request) (name : Option String) (s : State σ) : Response × State σ :=
  match readBody r (Record.decode (α := α) .text) with
  | .error fault => (bodyFaultResponse (Record.kind α) fault, s)
  | .ok e =>
    let e := name.elim e fun name => Record.rename name e
    call s (a.service.save e) fun saved =>
      .json (if saved.created then 201 else 200) (Record.encode saved.entity)

def patch (r : Request) (name : String) (s : State σ) : Response × State σ :=
  match readBody r decodeValue with
  | .error fault => (bodyFaultResponse (Record.kind α) fault, s)
  | .ok fields => call s (a.service.merge α name fields) fun e => shown (Record.encode e)

def delete (name : String) (s : State σ) : Response × State σ :=
  call s (a.service.delete α name) fun _ => { status := 204 }

/-- The methods of a collection and of an entity in it. -/
def onCollection (r : Request) (s : State σ) : Response × State σ :=
  match r.method with
  | .put => a.put α r none s
  | _ => a.list α s

def onEntity (r : Request) (name : String) (s : State σ) : Response × State σ :=
  match r.method with
  | .put => a.put α r (some name) s
  | .post => a.patch α r name s
  | .delete => a.delete α name s
  | _ => a.get α name s

end Entity

/-! ## The rest of the interface -/

def status (s : State σ) : Response :=
  shown (.object [
    ("status", .string "ok"),
    ("version", .string "0.1.0"),
    ("haconfig", .string a.configPath),
    ("hareload", .string a.reloadCommand),
    ("shutting_down", .bool s.shutdown.initiated),
    ("store", .string a.storePath)])

def metrics (s : State σ) : Response :=
  if a.showsMetrics then
    { status := 200
      contentType := some metricsType
      body := .metrics s.scene.events }
  else refusal 404 .notFound "metrics are not enabled"

def statusWord (word : String) : Json := .object [("status", .string word)]

def restart (s : State σ) : Response × State σ :=
  let (accepted, shutdown) := s.shutdown.trigger .restart
  (.json 202 (statusWord (if accepted then "restarting" else "shutdown already in progress")),
    { s with shutdown := shutdown })

/-- Goes on with the name in a path, if it spells one. -/
def named (raw : String) (s : State σ) (go : String → Response × State σ) : Response × State σ :=
  match decodeName? raw with
  | some name => go name
  | none => (.text 400 "Invalid URL: Invalid UTF-8 in \x60name\x60", s)

/-- Answers a request whose route has its method. -/
def onRoute (r : Request) (s : State σ) : Route → Response × State σ
  | .status => (a.status s, s)
  | .metrics => (a.metrics s, s)
  | .restart => restart s
  | .config => call s a.service.readConfig fun text => .text 200 text
  | .reload => call s a.service.reloadProxy fun _ => shown (statusWord "reloaded")
  | .collection .frontend => a.onCollection Listener r s
  | .collection .backend => a.onCollection Pool r s
  | .entity .frontend raw => named raw s fun name => a.onEntity Listener r name s
  | .entity .backend raw => named raw s fun name => a.onEntity Pool r name s
  | .members raw => named raw s fun name =>
      call s (a.service.members name) fun ms => shown (.array (ms.map Member.encode))

/-- Answers a request. A head request is answered like a get request, without
the body. -/
def handle (r : Request) (s : State σ) : Response × State σ :=
  match Route.ofPath? r.path with
  | none => ({ status := 404 }, s)
  | some route =>
    if route.methods.contains r.method then
      let (response, s) := a.onRoute r s route
      (if r.method = .head then response.bare else response, s)
    else ({ status := 405, allow := route.methods }, s)

end Admin

end ProxySync.Http
