import ProxySync.Http.MediaType
import ProxySync.Http.Target
import ProxySync.Json.Printer
import ProxySync.Sync.Ports
import ProxySync.Text.Utf8

/-!
# Requests and responses
-/

namespace ProxySync.Http

inductive Method where
  | get
  | head
  | put
  | post
  | delete
  | other (name : String)
deriving DecidableEq, Repr

namespace Method

def name : Method → String
  | .get => "GET"
  | .head => "HEAD"
  | .put => "PUT"
  | .post => "POST"
  | .delete => "DELETE"
  | .other name => name

/-- A method by its name, in which case matters. -/
def ofName? (name : String) : Option Method :=
  match [Method.get, .head, .put, .post, .delete].find? (·.name == name) with
  | some m => some m
  | none => if !name.isEmpty && name.toList.all isTokenChar then some (.other name) else none

end Method

structure Request where
  method : Method
  path : String
  contentType : Option String
  body : List UInt8

/-- A character of a header's value. -/
def isHeaderChar (c : Char) : Bool := c == '\t' || isQuotedChar c

/-- A request, if its line and its header can be sent. -/
def Request.make? (method target : String) (contentType : Option String) (body : List UInt8) :
    Option Request := do
  let m ← Method.ofName? method
  let path ← targetPath? target
  if contentType.all (·.toList.all isHeaderChar) then some ⟨m, path, contentType, body⟩ else none

inductive Body where
  | empty
  | json (v : Json)
  | text (s : String)
  /-- The samples of these events. -/
  | metrics (events : List Event)

structure Response where
  status : Nat
  contentType : Option String := none
  /-- The methods that would have been accepted. -/
  allow : List Method := []
  body : Body := .empty

/-- The media type of samples. -/
def metricsType : String := "text/plain; version=0.0.4"

namespace Response

def json (status : Nat) (v : Json) : Response where
  status := status
  contentType := some "application/json"
  body := .json v

def text (status : Nat) (s : String) : Response where
  status := status
  contentType := some "text/plain; charset=utf-8"
  body := .text s

/-- The response without its body, all else unchanged. -/
def bare (r : Response) : Response := { r with body := .empty }

end Response

end ProxySync.Http
