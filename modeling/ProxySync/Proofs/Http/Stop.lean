import ProxySync.Http.Server

/-!
# Requests and the stop

A request for a restart asks for a stop. Whatever else a request does, it
leaves the stop alone (`Admin.handle_shutdown`, `Server.shutdown_request`).
-/

namespace ProxySync.Http

/-- The request asks for a restart. -/
def Request.asksRestart (r : Request) : Bool :=
  match Route.ofPath? r.path with
  | some .restart => Route.restart.methods.contains r.method
  | _ => false

theorem Request.asksRestart_eq {r : Request} {route : Route}
    (h : Route.ofPath? r.path = some route) :
    r.asksRestart = (decide (route = .restart) && Route.restart.methods.contains r.method) := by
  rw [asksRestart, h]
  cases route <;> rfl

namespace Admin

variable {σ : Type} (a : Admin σ) (r : Request) (s : State σ)

theorem call_shutdown {α : Type} (act : Act σ ServiceFault α) (response : α → Response) :
    (call s act response).2.shutdown = s.shutdown := by
  unfold call
  split <;> rfl

theorem named_shutdown {raw : String} {go : String → Response × State σ}
    (h : ∀ name, (go name).2.shutdown = s.shutdown) : (named raw s go).2.shutdown = s.shutdown := by
  unfold named
  split
  · exact h _
  · rfl

theorem onCollection_shutdown (α : Type) [Record α] :
    (a.onCollection α r s).2.shutdown = s.shutdown := by
  unfold onCollection put list
  split
  · split
    · rfl
    · exact call_shutdown ..
  · exact call_shutdown ..

theorem onEntity_shutdown (α : Type) [Record α] (name : String) :
    (a.onEntity α r name s).2.shutdown = s.shutdown := by
  unfold onEntity put patch delete get
  split
  · split
    · rfl
    · exact call_shutdown ..
  · split
    · rfl
    · exact call_shutdown ..
  · exact call_shutdown ..
  · exact call_shutdown ..

/-- Requests on any route but one leave the stop alone. -/
theorem onRoute_shutdown {route : Route} (h : route ≠ .restart) :
    (a.onRoute r s route).2.shutdown = s.shutdown := by
  cases route with
  | status | metrics => rfl
  | restart => exact absurd rfl h
  | config | reload => exact call_shutdown ..
  | collection k =>
      cases k with
      | frontend | backend => exact a.onCollection_shutdown ..
  | entity k raw =>
      cases k with
      | frontend | backend => exact named_shutdown s fun name => a.onEntity_shutdown ..
  | members raw => exact named_shutdown s fun name => call_shutdown ..

theorem handle_shutdown :
    (a.handle r s).2.shutdown =
      if r.asksRestart then (s.shutdown.trigger .restart).2 else s.shutdown := by
  unfold handle
  cases hroute : Route.ofPath? r.path with
  | none =>
      rw [Request.asksRestart, hroute]
      rfl
  | some route =>
      rw [Request.asksRestart_eq hroute]
      dsimp only
      by_cases hrestart : route = .restart
      · subst hrestart
        rw [decide_eq_true rfl, Bool.true_and]
        split <;> rfl
      · rw [decide_eq_false hrestart, Bool.false_and]
        split
        · exact a.onRoute_shutdown r s hrestart
        · rfl

end Admin

namespace Server

variable {σ : Type} (s : Server σ) (r : Request)

theorem shutdown_request :
    (s.request r).2.state.shutdown =
      if s.takesConnections && r.asksRestart then (s.state.shutdown.trigger .restart).2
      else s.state.shutdown := by
  unfold request
  split
  · next htakes =>
    rw [htakes, Bool.true_and]
    exact s.admin.handle_shutdown r s.state
  · next hrefuses =>
    rw [Bool.eq_false_iff.mpr hrefuses]
    rfl

theorem held_request : (s.request r).2.held = s.held := by
  unfold request
  split <;> rfl

end Server

end ProxySync.Http
