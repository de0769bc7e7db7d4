import ProxySync.Proofs.Http.Frame
import ProxySync.Proofs.Http.Path
import ProxySync.Proofs.Sync.History
import ProxySync.Proofs.Sync.Replies

/-!
# Putting an entity and reading it

A put that succeeds has stored the entity under its normal name and rendered
the store (`stored_of_put`). What its response says, what reads and listings
show from then on, and what putting it again does are told by that alone
(`replaced_of_put`).
-/

namespace ProxySync.Http

open ConfigFile Act Trial

/-! ## Requests about an entity -/

namespace Request

/-- The request reads the entity of this kind and name. -/
structure Gets (r : Request) (k : Kind) (name : String) : Prop where
  method_eq : r.method = .get
  path : ∃ raw, Route.ofPath? r.path = some (.entity k raw) ∧ decodeName? raw = some name

/-- The request lists the entities of this kind. -/
structure Lists (r : Request) (k : Kind) : Prop where
  method_eq : r.method = .get
  path : Route.ofPath? r.path = some (.collection k)

/-- The request puts the entity in its body under the name in its path, or
without one there under its own. -/
inductive Puts (r : Request) (k : Kind) (given : Entity) : String → Prop where
  | own (hroute : Route.ofPath? r.path = some (.collection k)) (hmethod : r.method = .put)
      (hbody : readEntity r k = .ok given) : r.Puts k given given.name
  | named {raw name : String} (hroute : Route.ofPath? r.path = some (.entity k raw))
      (hname : decodeName? raw = some name) (hmethod : r.method = .put)
      (hbody : readEntity r k = .ok given) : r.Puts k given name

/-- A request to read at a path. -/
def reading (path : String) : Request where
  method := .get
  path := path
  contentType := none
  body := []

variable {r : Request} {k : Kind} {name : String} {given : Entity}

theorem gets_reading (h : name ≠ "") : (reading (entityPath k name)).Gets k name :=
  ⟨rfl, percentEncode name, ofPath?_entityPath h, decodeName?_percentEncode name⟩

theorem lists_reading (k : Kind) : (reading (collectionPath k)).Lists k :=
  ⟨rfl, ofPath?_collectionPath k⟩

theorem Gets.call?_eq (h : r.Gets k name) : r.call? = some (.get k name) := by
  obtain ⟨hmethod, raw, hroute, hname⟩ := h
  unfold call?
  rw [hroute]
  simp [Route.methods, callOn?, entityCall?, hmethod, hname]

theorem Lists.call?_eq (h : r.Lists k) : r.call? = some (.list k) := by
  unfold call?
  rw [h.path]
  simp [Route.methods, callOn?, collectionCall?, h.method_eq]

theorem puts_entityPath (hpath : r.path = entityPath k name) (h : name ≠ "")
    (hmethod : r.method = .put) (hbody : readEntity r k = .ok given) : r.Puts k given name :=
  .named (hpath ▸ ofPath?_entityPath h) (decodeName?_percentEncode name) hmethod hbody

theorem kind_of_readEntity (h : readEntity r k = .ok given) : given.kind = k := by
  cases k with
  | frontend =>
      obtain ⟨l, -, rfl⟩ := eq_ok_of_map h
      rfl
  | backend =>
      obtain ⟨p, -, rfl⟩ := eq_ok_of_map h
      rfl

theorem Puts.kind_eq (h : r.Puts k given name) : given.kind = k := by
  cases h with
  | own hroute hmethod hbody => exact kind_of_readEntity hbody
  | named hroute hname hmethod hbody => exact kind_of_readEntity hbody

theorem Puts.edits (h : r.Puts k given name) : r.Edits (.save (given.rename name)) := by
  cases h with
  | own hroute hmethod hbody =>
      rw [given.rename_self]
      exact .put hroute hmethod hbody
  | named hroute hname hmethod hbody => exact .putNamed hroute hname hmethod hbody

end Request

variable {template : Template} {a : Admin Trial} {s s' t t' : Admin.State Trial} {r g : Request}
  {response : Response} {k : Kind} {name : String} {e given : Entity}

/-! ## Reads -/

/-- A read whose reply is known shows it. -/
theorem shows_of_answer (ha : a.service = service template) {c : Call} (hcall : g.call? = some c)
    (hmethod : g.method = .get) {x : Except ServiceFault Reply}
    (hanswer : ∀ {r scene}, perform ((service template).answer c) s.scene = (r, scene) → r = x) :
    Shows c x (a.handle g s).1 := by
  have hhead : g.method ≠ .head := by
    rw [hmethod]
    nofun
  obtain ⟨x, hperform, hshows⟩ := Admin.handle_call hcall hhead Prod.mk.eta.symm
  rw [ha] at hperform
  exact hanswer hperform ▸ hshows

theorem handle_get (ha : a.service = service template) (hg : g.Gets k name)
    (hopen : s.scene.world.Open) {found : Option Entity}
    (hfound : s.scene.world.store.entity? k name = .ok found) :
    (a.handle g s).1 =
      found.elim (faultResponse (.noEntity k name)) fun e => Admin.shown e.encode := by
  have hshows := shows_of_answer ha hg.call?_eq hg.method_eq (answer_get hopen hfound)
  generalize (a.handle g s).1 = response at hshows
  cases hshows with
  | found => rfl
  | missing => rfl

theorem handle_list (ha : a.service = service template) (hg : g.Lists k)
    (hopen : s.scene.world.Open) {es : List Entity}
    (hes : s.scene.world.store.entities k = .ok es) :
    (a.handle g s).1 = Admin.shown (.array (es.map Entity.encode)) := by
  have hshows := shows_of_answer ha hg.call?_eq hg.method_eq (answer_list hopen hes)
  generalize (a.handle g s).1 = response at hshows
  cases hshows
  rfl

/-! ## Puts that succeed -/

theorem le_statusOf (kind : FaultKind) : 400 ≤ statusOf kind := by
  cases kind <;> decide

theorem Shows.not_isSuccess {c : Call} {fault : ServiceFault}
    (h : Shows c (.error fault) response) : ¬ response.IsSuccess := by
  cases h
  rintro ⟨-, hlt⟩
  have hstatus : (faultResponse fault).status = statusOf fault.kind := rfl
  have hle := le_statusOf fault.kind
  omega

/-- Where nothing is refused, a put fails only for its name or its texts. -/
theorem isSuccess_of_calm (ha : a.service = service template)
    (hs : s.scene.world.store.Canonical) (htape : s.scene.world.refusals = [])
    (hput : r.Puts k given name) {normal : String} (hname : normalName? name = some normal)
    (hwhole : (given.rename normal).brokenField? = none)
    (h : a.handle r s = (response, s')) : response.IsSuccess := by
  have hedits := hput.edits
  obtain ⟨x, hperform, hshows⟩ := Admin.handle_call hedits.call?_eq hedits.method_ne_head h
  rw [ha] at hperform
  have hends := decides_answer hs (c := .save (given.rename name)) rfl ⟨rfl, htape⟩ hperform
  cases x with
  | ok reply => exact hshows.isSuccess hedits.isChange
  | error fault =>
      have hnone := hends.1
      rw [Call.effect?_save, Entity.name_rename, hname, Option.bind_some, Entity.rename_rename,
        if_pos hwhole] at hnone
      cases hnone

/-- What a put that succeeds with `response` has done: in place of what had
its key, the entity `e` is stored. -/
structure Stored (template : Template) (s s' : Admin.State Trial) (response : Response)
    (e : Entity) : Prop where
  canonical : s.scene.world.store.Canonical
  isOpen : s.scene.world.Open
  response_eq : response =
    .json (if (s.scene.world.store.text? e.kind e.name).isNone then 201 else 200) e.encode
  store_eq : s'.scene.world.store = s.scene.world.store.saveEntity e
  rendered : Rendered template s'.scene.world.store s'.scene.world.file

theorem stored_of_put (ha : a.service = service template)
    (hs : s.scene.world.store.Canonical) (hput : r.Puts k given name)
    (h : a.handle r s = (response, s')) (hsuccess : response.IsSuccess) :
    ∃ normal, normalName? name = some normal ∧
      Stored template s s' response (given.rename normal) := by
  have hedits := hput.edits
  obtain ⟨x, hperform, hshows⟩ :=
    Admin.handle_call hedits.call?_eq hedits.method_ne_head h
  rw [ha] at hperform
  cases x with
  | error fault => exact absurd hsuccess hshows.not_isSuccess
  | ok reply =>
      have hrendered := rendered_of_change hedits.isChange hs hperform
      obtain ⟨hopen, normal, hnormal, rfl, hstore⟩ := answer_save hs hperform
      rw [Entity.name_rename] at hnormal
      rw [Entity.rename_rename] at hstore
      refine ⟨normal, hnormal, hs, hopen, ?_, hstore, hrendered⟩
      rw [Entity.rename_rename, Entity.kind_rename] at hshows
      rw [Entity.name_rename, Entity.kind_rename]
      generalize Option.isNone _ = created at hshows ⊢
      cases hshows
      rfl

namespace Stored

variable (hput : Stored template s s' response e)

include hput

theorem text?_eq : s'.scene.world.store.text? e.kind e.name = some e.text := by
  rw [hput.store_eq, Store.text?_saveEntity, if_pos ⟨rfl, rfl⟩]

theorem canonical_after : s'.scene.world.store.Canonical := by
  rw [hput.store_eq]
  exact hput.canonical.saveEntity e

/-- The status tells whether a read before would have found the entity. -/
theorem status_eq (ha : a.service = service template) (hg : g.Gets e.kind e.name) :
    response.status = if (a.handle g s).1.status = 404 then 201 else 200 := by
  rw [hput.response_eq]
  cases htext : s.scene.world.store.text? e.kind e.name with
  | none =>
      have hread := handle_get ha hg hput.isOpen (Store.entity?_of_none htext)
      rw [hread]
      rfl
  | some text =>
      obtain ⟨old, hkind, hname, rfl⟩ := hput.canonical _ _ _ htext
      rw [← hkind, ← hname] at htext hg
      have hread := handle_get ha hg hput.isOpen (Store.entity?_of_text? htext)
      rw [hread]
      rfl

theorem read_eq (ha : a.service = service template) (hg : g.Gets e.kind e.name)
    (ht : t.scene.world.store = s'.scene.world.store) (hopen : t.scene.world.Open) :
    (a.handle g t).1 = .json 200 e.encode := by
  have hfound := Store.entity?_of_text? hput.text?_eq
  rw [← ht] at hfound
  exact handle_get ha hg hopen hfound

/-- What the listings of a kind show before and after. -/
theorem listings (ha : a.service = service template) (hg : g.Lists k)
    (ht : t.scene.world.store = s'.scene.world.store) (hopen : t.scene.world.Open) :
    ∃ es es', (a.handle g s).1 = .json 200 (.array (es.map Entity.encode)) ∧
      (a.handle g t).1 = .json 200 (.array (es'.map Entity.encode)) ∧
      s.scene.world.store.Listing k es ∧ (s.scene.world.store.saveEntity e).Listing k es' := by
  obtain ⟨es, hes, hlisting⟩ := Store.exists_entities hput.canonical k
  obtain ⟨es', hes', hlisting'⟩ := Store.exists_entities (hput.canonical.saveEntity e) k
  rw [← hput.store_eq, ← ht] at hes'
  exact ⟨es, es', handle_list ha hg hput.isOpen hes, handle_list ha hg hopen hes', hlisting,
    hlisting'⟩

end Stored

/-- What the admin interface shows of a put that has stored `e` of the kind
`k`, from the state `s` before it to the state `s'` after it. -/
structure Replaced (a : Admin Trial) (r : Request) (k : Kind) (s s' : Admin.State Trial)
    (response : Response) (e : Entity) : Prop where
  /-- The response has the entity. -/
  response_eq : response = .json response.status e.encode
  /-- Its status tells whether a read just before would have found none. -/
  status_eq : ∀ g : Request, g.Gets k e.name →
    response.status = if (a.handle g s).1.status = 404 then 201 else 200
  /-- Reads show what the response has shown. -/
  read_eq : ∀ (g : Request) (t : Admin.State Trial), g.Gets k e.name →
    t.scene.world.store = s'.scene.world.store → t.scene.world.Open →
      (a.handle g t).1 = .json 200 e.encode
  /-- The listing of the kind has the entity once, and the others as before. -/
  listed : ∀ (g : Request) (t : Admin.State Trial), g.Lists k →
    t.scene.world.store = s'.scene.world.store → t.scene.world.Open →
      ∃ es es', (a.handle g s).1 = .json 200 (.array (es.map Entity.encode)) ∧
        (a.handle g t).1 = .json 200 (.array (es'.map Entity.encode)) ∧ Store.Replaces e es es'
  /-- The listing of the other kind is as before. -/
  others : ∀ (g : Request) (t : Admin.State Trial) (k' : Kind), k' ≠ k → g.Lists k' →
    t.scene.world.store = s'.scene.world.store → t.scene.world.Open →
      (a.handle g t).1 = (a.handle g s).1
  /-- The same request again replaces the entity by itself. -/
  repeated : ∀ (t t' : Admin.State Trial) (response' : Response),
    t.scene.world.store = s'.scene.world.store → a.handle r t = (response', t') →
      response'.IsSuccess → response' = .json 200 e.encode ∧
        t'.scene.world.store = s'.scene.world.store ∧ t'.scene.world.file = s'.scene.world.file

/-- Putting what is stored changes nothing. -/
theorem Stored.repeated (hput : Stored template s s' response e) {response' : Response}
    (ht : t.scene.world.store = s'.scene.world.store) (hput' : Stored template t t' response' e) :
    response' = .json 200 e.encode ∧ t'.scene.world.store = s'.scene.world.store ∧
      t'.scene.world.file = s'.scene.world.file := by
  have htext : t.scene.world.store.text? e.kind e.name = some e.text := by
    rw [ht]
    exact hput.text?_eq
  have hstore : t'.scene.world.store = s'.scene.world.store := by
    rw [hput'.store_eq, Store.saveEntity_of_text? htext, ht]
  have hrendered := hput'.rendered
  rw [hstore] at hrendered
  refine ⟨?_, hstore, hrendered.file_unique hput.rendered⟩
  rw [hput'.response_eq, htext]
  rfl

theorem Stored.replaced (ha : a.service = service template) (hput : Stored template s s' response e)
    (hk : e.kind = k)
    (hagain : ∀ (t t' : Admin.State Trial) (response' : Response),
      t.scene.world.store = s'.scene.world.store → a.handle r t = (response', t') →
        response'.IsSuccess → Stored template t t' response' e) :
    Replaced a r k s s' response e := by
  subst hk
  constructor
  case response_eq =>
    rw [hput.response_eq]
    rfl
  case status_eq => exact fun g hg => hput.status_eq ha hg
  case read_eq => exact fun g t hg ht hopen => hput.read_eq ha hg ht hopen
  case listed =>
    intro g t hg ht hopen
    obtain ⟨es, es', hbefore, hafter, hlisting, hlisting'⟩ := hput.listings ha hg ht hopen
    exact ⟨es, es', hbefore, hafter, hlisting.replaces hlisting'⟩
  case others =>
    intro g t k' hk hg ht hopen
    obtain ⟨es, es', hbefore, hafter, hlisting, hlisting'⟩ := hput.listings ha hg ht hopen
    rw [hbefore, hafter, hlisting.eq_of_kind_ne hlisting' hk]
  case repeated =>
    intro t t' response' ht h hsuccess
    exact hput.repeated ht (hagain t t' response' ht h hsuccess)

/-- **What was put is what is read.** In any course of a run from an empty
store, with any port calls refused and any files imported, a put of either
kind that succeeds: whatever name it asks for, in its body or by any path, the
entity stands under the normal form of that name. The name has a path to read
it by. The response tells whether there was an entity of that name, and all
reads that are not refused show what the response shows; the listings have the
entity once and are the same otherwise. When the put is repeated and succeeds,
store and file stay as they are. -/
theorem replaced_of_put (template : Template) {a : Admin Trial} (ha : a.service = service template)
    {imported : String → Prop} {s s' : Admin.State Trial} (hs : Reachable imported s.scene)
    {r : Request} {k : Kind} {given : Entity} {name : String} (hput : r.Puts k given name)
    {response : Response} (h : a.handle r s = (response, s')) (hsuccess : response.IsSuccess) :
    ∃ normal, normalName? name = some normal ∧
      (Request.reading (entityPath k normal)).Gets k normal ∧
      Replaced a r k s s' response (given.rename normal) := by
  have hcanonical := (consists_of_run hs).canonical
  obtain ⟨normal, hnormal, hstored⟩ := stored_of_put ha hcanonical hput h hsuccess
  have hkind : (given.rename normal).kind = k := (given.kind_rename normal).trans hput.kind_eq
  refine ⟨normal, hnormal, Request.gets_reading (isStoredName_of_normalName? hnormal).1, ?_⟩
  refine hstored.replaced ha hkind fun t t' response' ht h' hsuccess' => ?_
  have ht' : t.scene.world.store.Canonical := by
    rw [ht]
    exact hstored.canonical_after
  obtain ⟨normal', hnormal', hstored'⟩ := stored_of_put ha ht' hput h' hsuccess'
  obtain rfl := Option.some.inj (hnormal.symm.trans hnormal')
  exact hstored'

/-- A pool under a name with a space, which is in the path; the one in the body
is not used. -/
def putPool : Request where
  method := .put
  path := entityPath .backend "app one"
  contentType := some "application/json"
  body := Text.utf8Bytes "\x7b\"name\": \"ignored\", \"balance\": \"roundrobin\"\x7d"

def blank : Admin.State Trial where
  scene := ⟨{}, []⟩
  shutdown := {}

theorem replaced_of_put_spaced :
    ∃ given response s', Reachable (fun _ => True) blank.scene ∧
      putPool.Puts .backend given "app one" ∧
      trialAdmin.handle putPool blank = (response, s') ∧ response.IsSuccess ∧
      response.status = 201 ∧
      Replaced trialAdmin putPool .backend blank s' response (given.rename "app_one") ∧
      (trialAdmin.handle (.reading "/backends/app_one") s').1 =
        .json 200 (given.rename "app_one").encode ∧
      ∃ es es', Store.Replaces (given.rename "app_one") es es' ∧
        (trialAdmin.handle (.reading "/backends") s').1 =
          .json 200 (.array (es'.map Entity.encode)) := by
  have hreachable : Reachable (fun _ => True) blank.scene := .start rfl
  have hbody : readEntity putPool .backend =
      .ok (.pool { name := "ignored", balance := "roundrobin" }) := by
    decide +kernel
  have hput : putPool.Puts .backend (.pool { name := "ignored", balance := "roundrobin" })
      "app one" :=
    Request.puts_entityPath rfl (by decide) rfl hbody
  obtain ⟨put, hends⟩ : ∃ p, p = trialAdmin.handle putPool blank := ⟨_, rfl⟩
  have hstatus : put.1.status = 201 ∧ put.2.scene.world.refusals = [] := by
    rw [hends]
    decide +kernel
  have hname : normalName? "app one" = some "app_one" := by decide
  have hsuccess : put.1.IsSuccess :=
    isSuccess_of_calm (a := trialAdmin) rfl Store.canonical_empty rfl hput hname
      (by decide +kernel) hends.symm
  obtain ⟨normal, hnormal, hgets, hreplaced⟩ :=
    replaced_of_put .default (a := trialAdmin) rfl hreachable hput hends.symm hsuccess
  obtain rfl := Option.some.inj (hname.symm.trans hnormal)
  have hopen : put.2.scene.world.Open := by
    rw [Trial.Open, hstatus.2]
    rfl
  have hplain : (Request.reading "/backends/app_one").Gets .backend "app_one" :=
    ⟨rfl, "app_one", by decide +kernel, by decide +kernel⟩
  obtain ⟨es, es', -, hlisting, hreplaces⟩ :=
    hreplaced.listed _ put.2 (Request.lists_reading .backend) rfl hopen
  exact ⟨_, put.1, put.2, hreachable, hput, hends.symm, hsuccess, hstatus.1, hreplaced,
    hreplaced.read_eq _ _ (by rwa [Entity.name_rename]) rfl hopen, es, es', hreplaces, hlisting⟩

end ProxySync.Http
