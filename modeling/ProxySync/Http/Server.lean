import ProxySync.Host.Network
import ProxySync.Http.Admin

/-!
# The server

The admin interface behind a port. A request can be held: it has been begun,
but the rest of its body is still to come. Once a stop is asked for, no new
connection is taken; the requests that are held are completed in the order
in which they were begun, and then the server ends. The reason is that of
the first stop that was asked for.
-/

namespace ProxySync.Http

structure Server (σ : Type) where
  admin : Admin σ
  network : Network
  state : Admin.State σ
  held : List Request := []

namespace Server

variable {σ : Type} (s : Server σ)

/-- Why the server is to end, once it is. -/
def stopReason? : Option Shutdown.Reason := s.state.shutdown.sent.head?

def takesConnections : Bool := s.network.connects && s.stopReason?.isNone

def trigger (r : Shutdown.Reason) : Bool × Server σ :=
  let (accepted, shutdown) := s.state.shutdown.trigger r
  (accepted, { s with state := { s.state with shutdown := shutdown } })

/-- Answers a request, whether or not a stop has been asked for. -/
def complete (r : Request) : Response × Server σ :=
  let (response, state) := s.admin.handle r s.state
  (response, { s with state := state })

/-- Answers a request on a connection of its own, unless that is refused. -/
def request (r : Request) : Option Response × Server σ :=
  if s.takesConnections then
    let (response, s) := s.complete r
    (some response, s)
  else (none, s)

/-- Begins a request and holds it; tells whether the connection was taken. -/
def hold (r : Request) : Bool × Server σ :=
  if s.takesConnections then (true, { s with held := s.held ++ [r] }) else (false, s)

def completeAll (s : Server σ) : List Request → List Response × Server σ
  | [] => ([], s)
  | r :: rest =>
    let (response, s) := s.complete r
    let (responses, s) := completeAll s rest
    (response :: responses, s)

/-- Completes the requests that are held. -/
def drain : List Response × Server σ := completeAll { s with held := [] } s.held

end Server

end ProxySync.Http
