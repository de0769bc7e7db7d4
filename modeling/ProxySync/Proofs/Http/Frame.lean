import ProxySync.Proofs.Http.Calls
import ProxySync.Proofs.Sync.InSync

/-!
# What a request can change

Store and file change in requests that ask for a change of an entity
(`Request.Edits`) and nowhere else, and then the response tells of it: it is a
success, or it says that store and file are out of sync, or, where only the
file has changed, that the change has been taken back (`handle_frame`).
-/

namespace ProxySync.Http

open ConfigFile Act Trial

/-! ## Requests for a change -/

/-- The request asks for this change, and its route, method, name and body are
in order. -/
inductive Request.Edits (r : Request) : Call → Prop where
  | put {k : Kind} {e : Entity} (hroute : Route.ofPath? r.path = some (.collection k))
      (hmethod : r.method = .put) (hbody : readEntity r k = .ok e) : r.Edits (.save e)
  | putNamed {k : Kind} {raw name : String} {e : Entity}
      (hroute : Route.ofPath? r.path = some (.entity k raw)) (hname : decodeName? raw = some name)
      (hmethod : r.method = .put) (hbody : readEntity r k = .ok e) : r.Edits (.save (e.rename name))
  | patch {k : Kind} {raw name : String} {fields : Json}
      (hroute : Route.ofPath? r.path = some (.entity k raw)) (hname : decodeName? raw = some name)
      (hmethod : r.method = .post) (hbody : readBody r decodeValue = .ok fields) :
      r.Edits (.merge k name fields)
  | delete {k : Kind} {raw name : String} (hroute : Route.ofPath? r.path = some (.entity k raw))
      (hname : decodeName? raw = some name) (hmethod : r.method = .delete) :
      r.Edits (.delete k name)

variable {r : Request} {c : Call}

theorem Request.Edits.isChange (h : r.Edits c) : c.isChange = true := by
  cases h <;> rfl

theorem Request.Edits.method_ne_head (h : r.Edits c) : r.method ≠ .head := by
  cases h with
  | put hroute hmethod hbody | putNamed hroute hname hmethod hbody
  | patch hroute hname hmethod hbody | delete hroute hname hmethod =>
    rw [hmethod]
    nofun

theorem Request.Edits.call?_eq (h : r.Edits c) : r.call? = some c := by
  unfold Request.call?
  cases h with
  | put hroute hmethod hbody =>
      rw [hroute]
      simp [Route.methods, Request.callOn?, Request.collectionCall?, hmethod, hbody,
        Except.toOption]
  | putNamed hroute hname hmethod hbody =>
      rw [hroute]
      simp [Route.methods, Request.callOn?, Request.entityCall?, hmethod, hname, hbody,
        Except.toOption]
  | patch hroute hname hmethod hbody =>
      rw [hroute]
      simp [Route.methods, Request.callOn?, Request.entityCall?, hmethod, hname, hbody,
        Except.toOption]
  | delete hroute hname hmethod =>
      rw [hroute]
      simp [Route.methods, Request.callOn?, Request.entityCall?, hmethod, hname]

/-- A call that a request makes is a change it asks for, or only reads. -/
theorem Request.edits_of_call? (h : r.call? = some c) :
    r.Edits c ∨ (c.isChange = false ∧ c ≠ .importConfig) := by
  unfold Request.call? at h
  obtain ⟨route, hroute, h⟩ := Option.bind_eq_some_iff.mp h
  split at h
  · unfold Request.callOn? at h
    cases route with
    | status | metrics | restart => cases h
    | config | reload =>
        obtain rfl := Option.some.inj h
        exact Or.inr ⟨rfl, nofun⟩
    | collection k =>
        unfold Request.collectionCall? at h
        dsimp only at h
        split at h
        · next hmethod =>
          obtain ⟨e, hbody, rfl⟩ := Option.map_eq_some_iff.mp h
          exact Or.inl (.put hroute hmethod (ok_of_toOption hbody))
        · obtain rfl := Option.some.inj h
          exact Or.inr ⟨rfl, nofun⟩
    | entity k raw =>
        obtain ⟨name, hname, h⟩ := Option.bind_eq_some_iff.mp h
        unfold Request.entityCall? at h
        split at h
        · next hmethod =>
          obtain ⟨e, hbody, rfl⟩ := Option.map_eq_some_iff.mp h
          exact Or.inl (.putNamed hroute hname hmethod (ok_of_toOption hbody))
        · next hmethod =>
          obtain ⟨fields, hbody, rfl⟩ := Option.map_eq_some_iff.mp h
          exact Or.inl (.patch hroute hname hmethod (ok_of_toOption hbody))
        · next hmethod =>
          obtain rfl := Option.some.inj h
          exact Or.inl (.delete hroute hname hmethod)
        · obtain rfl := Option.some.inj h
          exact Or.inr ⟨rfl, nofun⟩
    | members raw =>
        obtain ⟨pool, -, h⟩ := Option.bind_eq_some_iff.mp h
        obtain rfl := Option.some.inj h
        exact Or.inr ⟨rfl, nofun⟩
  · cases h

/-! ## What responses tell -/

/-- The status is one of success. -/
def Response.IsSuccess (response : Response) : Prop := 200 ≤ response.status ∧ response.status < 300

/-- The response is an error of the server with this code. -/
def Response.Reports (response : Response) (kind : FaultKind) : Prop :=
  response.status = 500 ∧ ∃ message, response.body =
    .json (.object [("code", .string kind.name), ("message", .string message)])

theorem Shows.isSuccess {reply : Reply} {response : Response}
    (h : Shows c (.ok reply) response) (hc : c.isChange = true) : response.IsSuccess := by
  cases h with
  | saved given e created =>
      cases created <;> simp [Response.IsSuccess, Response.json]
  | merged | deleted => simp [Response.IsSuccess, Response.json, Admin.shown]
  | found | missing | listed | members | config | reloaded => cases hc

theorem Shows.reports {fault : ServiceFault} {response : Response}
    (h : Shows c (.error fault) response) (hstatus : statusOf fault.kind = 500) :
    response.Reports fault.kind := by
  cases h
  exact ⟨hstatus, fault.message, rfl⟩

/-! ## What is left as it was -/

/-- What a change has done to store and file is told by its outcome. -/
theorem frame_of_settled {template : Template} {target? : Option (Kind × String)}
    {changed? : Option Store} {t t' : Trial} {uses : List Use} {x : Except ServiceFault Reply}
    (h : Settled template target? changed? t t' uses (x.map Reply.record?)) :
    (t'.store ≠ t.store →
        (∃ reply, x = .ok reply) ∨ ∃ cause rollback, x = .error (.outOfSync cause rollback)) ∧
      (t'.file ≠ t.file →
        (∃ reply, x = .ok reply) ∨ (∃ cause rollback, x = .error (.outOfSync cause rollback)) ∨
          ∃ cause, x = .error (.sync cause)) := by
  cases x with
  | ok reply => exact ⟨fun _ => Or.inl ⟨reply, rfl⟩, fun _ => Or.inl ⟨reply, rfl⟩⟩
  | error fault =>
      cases fault with
      | sync cause =>
          refine ⟨fun hstore => ?_, fun _ => Or.inr (Or.inr ⟨cause, rfl⟩)⟩
          cases cause <;> exact absurd h.1 hstore
      | outOfSync cause rollback =>
          exact ⟨fun _ => Or.inr ⟨cause, rollback, rfl⟩,
            fun _ => Or.inr (Or.inl ⟨cause, rollback, rfl⟩)⟩
      | _ => exact ⟨fun hstore => absurd h.1 hstore, fun hfile => absurd h.2.1 hfile⟩

/-- **A request changes store and file only as it says.** In any scene where
all records are in order, with any port calls refused, any method, path, type
and body: the store changes only where a change of an entity is asked for and
the response is a success or reports `out_of_sync`, and the file only there
and where the response reports `sync`. All other requests, like those on no
route, with another method, or with a name or a body that does not decode, and
all other responses leave both as they were. -/
theorem handle_frame (template : Template) {a : Admin Trial} (ha : a.service = service template)
    (r : Request) {s s' : Admin.State Trial} {response : Response}
    (hs : s.scene.world.store.Canonical) (h : a.handle r s = (response, s')) :
    (s'.scene.world.store ≠ s.scene.world.store →
        (∃ c, r.Edits c) ∧ (response.IsSuccess ∨ response.Reports .outOfSync)) ∧
      (s'.scene.world.file ≠ s.scene.world.file →
        (∃ c, r.Edits c) ∧
          (response.IsSuccess ∨ response.Reports .outOfSync ∨ response.Reports .sync)) := by
  obtain ⟨shown, hresponse, hserved⟩ := a.handle_served r s
  rw [h] at hresponse hserved
  dsimp only at hresponse hserved
  generalize hcall : r.call? = call? at hserved
  cases hserved with
  | apart hscene =>
      change s'.scene = s.scene at hscene
      rw [hscene]
      exact ⟨fun hstore => absurd rfl hstore, fun hfile => absurd rfl hfile⟩
  | @call c x scene _ hperform hshows =>
      rw [ha] at hperform
      rcases Request.edits_of_call? hcall with hedits | ⟨hreads, himport⟩
      · obtain ⟨uses, events, rfl, hchanging⟩ :=
          answer_changes hedits.isChange (fun k name _ => hs k name) hperform
        have hframe := frame_of_settled (hchanging.settled fun k name _ => hs k name)
        rw [if_neg hedits.method_ne_head] at hresponse
        subst hresponse
        have hok : (∃ reply, x = .ok reply) → response.IsSuccess := by
          rintro ⟨reply, rfl⟩
          exact hshows.isSuccess hedits.isChange
        have hstuck : (∃ cause rollback, x = .error (.outOfSync cause rollback)) →
            response.Reports .outOfSync := by
          rintro ⟨cause, rollback, rfl⟩
          exact hshows.reports rfl
        have hundone : (∃ cause, x = .error (.sync cause)) → response.Reports .sync := by
          rintro ⟨cause, rfl⟩
          exact hshows.reports rfl
        exact ⟨fun hstore => ⟨⟨c, hedits⟩, (hframe.1 hstore).imp hok hstuck⟩,
          fun hfile => ⟨⟨c, hedits⟩, (hframe.2 hfile).imp hok (Or.imp hstuck hundone)⟩⟩
      · obtain ⟨-, rfl | huntouched⟩ := seeded_of_not_change hreads hperform
        · exact absurd rfl himport
        · exact ⟨fun hstore => absurd huntouched.1 hstore,
            fun hfile => absurd huntouched.2 hfile⟩

/-- Nothing is stored. Of a save the rendering will be refused, and then the
write that is to take it back. -/
def jammed : Admin.State Trial where
  scene := ⟨{ refusals := [false, false, true, true] }, []⟩
  shutdown := {}

def trialAdmin : Admin Trial where
  service := service .default
  configPath := "haproxy.cfg"
  reloadCommand := "reload"
  storePath := "conduit.redb"
  showsMetrics := false

def putListener : Request where
  method := .put
  path := "/frontends"
  contentType := some "application/json"
  body := Text.utf8Bytes "\x7b\"name\": \"web 1\"\x7d"

theorem handle_frame_jammed :
    jammed.scene.world.store.Canonical ∧
      ∃ response s', trialAdmin.handle putListener jammed = (response, s') ∧
        s'.scene.world.store ≠ jammed.scene.world.store ∧ (∃ c, putListener.Edits c) ∧
        response.status = 500 ∧ (response.IsSuccess ∨ response.Reports .outOfSync) := by
  have hcanonical : jammed.scene.world.store.Canonical := Store.canonical_empty
  have hends : (trialAdmin.handle putListener jammed).2.scene.world.store ≠
        jammed.scene.world.store ∧ (trialAdmin.handle putListener jammed).1.status = 500 := by
    decide +kernel
  obtain ⟨hedits, htells⟩ :=
    (handle_frame .default (a := trialAdmin) rfl putListener hcanonical Prod.mk.eta.symm).1 hends.1
  exact ⟨hcanonical, _, _, Prod.mk.eta.symm, hends.1, hedits, hends.2, htells⟩

end ProxySync.Http
