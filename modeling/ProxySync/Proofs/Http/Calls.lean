import ProxySync.Http.Admin
import ProxySync.Proofs.Sync.Act
import ProxySync.Proofs.Sync.CallRecord

/-!
# Requests as calls to the service

A request makes one call to the service or none (`Request.call?`), and its
response shows the outcome of that call (`Shows`). What is asked for besides,
like a restart, does not reach the service (`handle_served`).
-/

namespace ProxySync.Http

open Act

/-! ## The call of a request -/

/-- The entity in a body. -/
def readEntity (r : Request) : Kind → Except BodyFault Entity
  | .frontend => (readBody r (Listener.decode .text)).map .listener
  | .backend => (readBody r (Pool.decode .text)).map .pool

namespace Request

variable (r : Request)

def collectionCall? (k : Kind) : Option Call :=
  match r.method with
  | .put => (readEntity r k).toOption.map .save
  | _ => some (.list k)

def entityCall? (k : Kind) (name : String) : Option Call :=
  match r.method with
  | .put => (readEntity r k).toOption.map fun e => .save (e.rename name)
  | .post => (readBody r decodeValue).toOption.map (.merge k name)
  | .delete => some (.delete k name)
  | _ => some (.get k name)

/-- The call of a request on a route that has its method. -/
def callOn? : Route → Option Call
  | .status | .metrics | .restart => none
  | .config => some .readConfig
  | .reload => some .reload
  | .collection k => r.collectionCall? k
  | .entity k raw => (decodeName? raw).bind (r.entityCall? k)
  | .members raw => (decodeName? raw).bind fun pool => some (.members pool)

/-- The call that a request makes to the service. -/
def call? : Option Call :=
  (Route.ofPath? r.path).bind fun route =>
    if route.methods.contains r.method then r.callOn? route else none

end Request

/-! ## Responses to calls -/

open Admin (shown statusWord)

/-- The response shows how a call has ended. -/
inductive Shows : Call → Except ServiceFault Reply → Response → Prop where
  | fault (c : Call) (fault : ServiceFault) : Shows c (.error fault) (faultResponse fault)
  | saved (given e : Entity) (created : Bool) :
      Shows (.save given) (.ok (.saved e created)) (.json (if created then 201 else 200) e.encode)
  | merged (k : Kind) (name : String) (patch : Json) (e : Entity) :
      Shows (.merge k name patch) (.ok (.entity e)) (shown e.encode)
  | deleted (k : Kind) (name : String) :
      Shows (.delete k name) (.ok .done) { status := 204 }
  | found (k : Kind) (name : String) (e : Entity) :
      Shows (.get k name) (.ok (.found (some e))) (shown e.encode)
  | missing (k : Kind) (name : String) :
      Shows (.get k name) (.ok (.found none)) (faultResponse (.noEntity k name))
  | listed (k : Kind) (es : List Entity) :
      Shows (.list k) (.ok (.entities es)) (shown (.array (es.map Entity.encode)))
  | members (pool : String) (ms : List Member) :
      Shows (.members pool) (.ok (.members ms)) (shown (.array (ms.map Member.encode)))
  | config (text : String) : Shows .readConfig (.ok (.text text)) (.text 200 text)
  | reloaded : Shows .reload (.ok .done) (shown (statusWord "reloaded"))

namespace Admin

variable {σ : Type} (a : Admin σ)

/-- What comes of a request that makes this call, or none. -/
inductive Served (s : State σ) : Option Call → Response × State σ → Prop where
  | call {c : Call} {x : Except ServiceFault Reply} {scene : Scene σ} {response : Response}
      (h : perform (a.service.answer c) s.scene = (x, scene)) (hshows : Shows c x response) :
      Served s (some c) (response, { s with scene := scene })
  | apart {out : Response × State σ} (h : out.2.scene = s.scene) : Served s none out

variable {a} {s : State σ} {r : Request}

theorem served_call {α : Type} {act : Act σ ServiceFault α} {reply : α → Reply}
    {response : α → Response} {c : Call}
    (hc : a.service.answer c = act >>= fun x => pure (reply x))
    (hshows : ∀ x, Shows c (.ok (reply x)) (response x)) :
    Served a s (some c) (Admin.call s act response) := by
  rcases hperform : perform (a.service.answer c) s.scene with ⟨x, scene⟩
  have hcall := hperform
  rw [hc] at hcall
  obtain ⟨y, hact, rfl⟩ := perform_bind_pure hcall
  unfold Admin.call
  rw [hact]
  cases y with
  | ok y => exact .call hperform (hshows y)
  | error fault => exact .call hperform (.fault c fault)

section Records

variable {α : Type} [Record α] [EntityRecord α] [CallRecord α]

theorem served_list : Served a s (some (.list (Record.kind α))) (a.list α s) := by
  refine served_call (CallRecord.answer_list a.service) fun all => ?_
  have hencode : (all.map EntityRecord.entity).map Entity.encode = all.map Record.encode := by
    rw [List.map_map]
    exact List.map_congr_left fun e _ => CallRecord.encode_entity e
  rw [← hencode]
  exact .listed ..

theorem served_get (name : String) :
    Served a s (some (.get (Record.kind α) name)) (a.get α name s) := by
  refine served_call (CallRecord.answer_get a.service name) fun found => ?_
  cases found with
  | none => exact .missing ..
  | some e =>
      have hfound := Shows.found (Record.kind α) name (EntityRecord.entity e)
      rwa [CallRecord.encode_entity] at hfound

theorem served_delete (name : String) :
    Served a s (some (.delete (Record.kind α) name)) (a.delete α name s) :=
  served_call (CallRecord.answer_delete a.service name) fun _ => .deleted ..

theorem served_patch (name : String) :
    Served a s ((readBody r decodeValue).toOption.map (.merge (Record.kind α) name))
      (a.patch α r name s) := by
  unfold patch
  split
  · next fault hbody =>
    rw [hbody]
    exact .apart rfl
  · next fields hbody =>
    rw [hbody]
    refine served_call (CallRecord.answer_merge a.service name fields) fun e => ?_
    rw [← CallRecord.encode_entity]
    exact .merged ..

variable (hread : readEntity r (Record.kind α) =
  (readBody r (Record.decode .text)).map (EntityRecord.entity (α := α)))

include hread

theorem served_put (name : Option String) :
    Served a s ((readEntity r (Record.kind α)).toOption.map fun e =>
        .save (name.elim e fun name => e.rename name))
      (a.put α r name s) := by
  unfold put
  rw [hread]
  split
  · next fault hbody =>
    rw [hbody]
    exact .apart rfl
  · next e hbody =>
    rw [hbody]
    have hgiven :
        (name.elim (EntityRecord.entity e) fun name => (EntityRecord.entity e).rename name) =
          EntityRecord.entity (name.elim e fun name => Record.rename name e) := by
      cases name with
      | none => rfl
      | some name => exact CallRecord.rename_entity name e
    change Served a s (some (.save _)) _
    rw [hgiven]
    refine served_call (CallRecord.answer_save a.service _) fun saved => ?_
    rw [← CallRecord.encode_entity]
    exact .saved ..

theorem served_onCollection :
    Served a s (r.collectionCall? (Record.kind α)) (a.onCollection α r s) := by
  unfold Request.collectionCall? onCollection
  cases r.method with
  | put => exact served_put hread none
  | _ => exact served_list (α := α)

theorem served_onEntity (name : String) :
    Served a s (r.entityCall? (Record.kind α) name) (a.onEntity α r name s) := by
  unfold Request.entityCall? onEntity
  cases r.method with
  | put => exact served_put hread (some name)
  | post => exact served_patch (α := α) name
  | delete => exact served_delete (α := α) name
  | _ => exact served_get (α := α) name

end Records

theorem served_named {raw : String} {go : String → Response × State σ}
    {call? : String → Option Call} (h : ∀ name, Served a s (call? name) (go name)) :
    Served a s ((decodeName? raw).bind call?) (named raw s go) := by
  unfold named
  split
  · next name hname =>
    rw [hname]
    exact h name
  · next hname =>
    rw [hname]
    exact .apart rfl

theorem served_onRoute (route : Route) : Served a s (r.callOn? route) (a.onRoute r s route) := by
  cases route with
  | status | metrics | restart => exact .apart rfl
  | config => exact served_call rfl fun text => .config text
  | reload => exact served_call rfl fun _ => .reloaded
  | collection k =>
      cases k with
      | frontend => exact served_onCollection (α := Listener) rfl
      | backend => exact served_onCollection (α := Pool) rfl
  | entity k raw =>
      cases k with
      | frontend => exact served_named fun name => served_onEntity (α := Listener) rfl name
      | backend => exact served_named fun name => served_onEntity (α := Pool) rfl name
  | members raw =>
      exact served_named fun name => served_call rfl fun ms => .members name ms

/-- **Every request makes its call to the service and shows how it ends**, or
leaves the service alone. -/
theorem handle_served (a : Admin σ) (r : Request) (s : State σ) :
    ∃ response, (a.handle r s).1 = (if r.method = .head then response.bare else response) ∧
      Served a s r.call? (response, (a.handle r s).2) := by
  unfold handle Request.call?
  split
  · next hroute =>
    refine ⟨{ status := 404 }, ?_, ?_⟩
    · split <;> rfl
    · rw [hroute]
      exact .apart rfl
  · next route hroute =>
    rw [hroute, Option.bind_some]
    split
    · exact ⟨_, rfl, served_onRoute route⟩
    · refine ⟨{ status := 405, allow := route.methods }, ?_, .apart rfl⟩
      split <;> rfl

/-- A request that is not for the head alone shows how its call ends. -/
theorem handle_call {c : Call} (hcall : r.call? = some c) (hmethod : r.method ≠ .head)
    {response : Response} {s' : State σ} (h : a.handle r s = (response, s')) :
    ∃ x, perform (a.service.answer c) s.scene = (x, s'.scene) ∧ Shows c x response := by
  obtain ⟨shown, hresponse, hserved⟩ := a.handle_served r s
  rw [h] at hresponse hserved
  rw [if_neg hmethod] at hresponse
  subst hresponse
  rw [hcall] at hserved
  cases hserved with
  | call hperform hshows => exact ⟨_, hperform, hshows⟩

end Admin

end ProxySync.Http
