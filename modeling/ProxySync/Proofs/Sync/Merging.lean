import ProxySync.Proofs.Entity.Overlay
import ProxySync.Proofs.Sync.Blame
import ProxySync.Proofs.Sync.History
import ProxySync.Proofs.Sync.ReadSaved

/-!
# Merging field by field

A merge lays a patch over the stored entity and saves what comes of it. Where
no port call is refused it succeeds just when the patch admits the entity's
fields and the overlaid entity is in order, and then that entity is stored,
shown and returned (`merge_of_stored`). What is stored is read back exactly,
so two merges in a row are one merge of both patches (`merge_of_merges`).
-/

namespace ProxySync

open ConfigFile Act

theorem Kind.exists_patchRecord (k : Kind) :
    ∃ (α : Type) (_ : Record α) (_ : EntityRecord α) (_ : CallRecord α) (_ : PatchRecord α),
      Record.kind α = k := by
  cases k with
  | frontend => exact ⟨Listener, inferInstance, inferInstance, inferInstance, inferInstance, rfl⟩
  | backend => exact ⟨Pool, inferInstance, inferInstance, inferInstance, inferInstance, rfl⟩

theorem Store.save_save {α : Type} [Record α] (s : Store) {a b : α}
    (h : Record.name a = Record.name b) : (s.save a).save b = s.save b := by
  refine Store.ext_get? fun key => ?_
  simp only [Store.save, Store.put, Dict.get?_insert, h]
  split
  · rfl
  · rfl

namespace Trial

variable {template : Template} {store : Store}

/-! ## Merging records -/

/-- A record with a broken text is turned down at once. -/
theorem ensures_saveAs_of_broken {α : Type} [Record α] {a : α} {field : String}
    {pre : Scene Trial → Prop} {post : Saved α → Scene Trial → Prop}
    {fail : ServiceFault → Scene Trial → Prop} (ha : Record.brokenField? a = some field)
    (hfail : ∀ s, pre s → fail (.lineBreak (Record.kind α) field) s) :
    Ensures pre ((service template).saveAs a) post fail := by
  unfold Service.saveAs
  rw [ha]
  exact ensures_throw hfail

section Records

variable {α : Type} [Record α] [EntityRecord α] {a m : α} {name : String} {patch : Json}

theorem achieves_saveAs (hstore : store.Canonical) (ha : Record.brokenField? a = none) :
    Achieves (Calm store) ((service template).saveAs a)
      fun saved s => saved.entity = a ∧ Settles template (store.save a) s := by
  intro s r s' hcalm hact
  have hdecides := decides_saveAs hstore hcalm hact
  have hyields := yields_saveAs a trivial hact
  rw [if_pos ha] at hdecides
  cases r with
  | error fault => cases hdecides.1
  | ok saved =>
      obtain ⟨changed, hchanged, hsettles⟩ := hdecides
      obtain rfl := Option.some.inj hchanged
      exact ⟨hyields.1, hsettles⟩

/-- **Where nothing is refused, a merge saves the patched record**, if there is
one and it is in order; else the data is bad. -/
theorem ensures_merge (hstore : store.Canonical) (hget : store.get? name = .ok (some a)) :
    Ensures (Calm store) ((service template).merge α name patch)
      (fun m s => patched a patch = .ok m ∧ Record.brokenField? m = none ∧
        Settles template (store.save m) s)
      fun fault _ => fault.kind = .badData ∧
        ∀ m, patched a patch = .ok m → Record.brokenField? m ≠ none := by
  unfold Service.merge
  refine Ensures.counted ?_ (fun m s e => ?_) fun fault s e h => h
  · refine achieves_bind (achieves_get hget) fun found => ensures_of_and fun hfound => ?_
    subst hfound
    cases hpatched : patched a patch with
    | error fault =>
        simp only [hpatched]
        exact ensures_throw fun _ _ => ⟨kind_of_patched hpatched, nofun⟩
    | ok merged =>
        simp only [hpatched]
        cases hbroken : Record.brokenField? merged with
        | some field =>
            have honly : ∀ m, (Except.ok merged : Except ServiceFault α) = .ok m →
                Record.brokenField? m ≠ none := by
              intro m hm
              obtain rfl := Except.ok.inj hm
              rw [hbroken]
              exact Option.some_ne_none field
            have hbreaks : Ensures (Calm store) ((service template).saveAs merged)
                (fun _ _ => False) fun fault _ => fault.kind = .badData ∧
                  ∀ m, (Except.ok merged : Except ServiceFault α) = .ok m →
                    Record.brokenField? m ≠ none :=
              ensures_saveAs_of_broken hbroken fun _ _ => ⟨rfl, honly⟩
            exact hbreaks.bind fun _ => ensures_pure fun _ hfalse => hfalse.elim
        | none =>
            refine achieves_bind (achieves_saveAs hstore hbroken) fun saved => ?_
            refine ensures_pure fun s hsaved => ?_
            obtain ⟨rfl, hsettles⟩ := hsaved
            exact ⟨rfl, hbroken, hsettles⟩
  · rintro ⟨hpatched, hwhole, hcalm, hrendered⟩
    exact ⟨hpatched, hwhole, hcalm.count e, hrendered⟩

/-- Where nothing is refused, a patch that applies to the stored record is merged. -/
theorem achieves_merge (template : Template) (hstore : store.Canonical)
    (hget : store.get? name = .ok (some a)) (hpatched : patched a patch = .ok m)
    (hwhole : Record.brokenField? m = none) :
    Achieves (Calm store) ((service template).merge α name patch)
      fun m' s => m' = m ∧ Settles template (store.save m) s := by
  intro s r s' hcalm hact
  have hends := ensures_merge hstore hget hcalm hact
  cases r with
  | error fault => exact hends.2 m hpatched hwhole
  | ok m' =>
      obtain ⟨hpatched', -, hsettles⟩ := hends
      obtain rfl := Except.ok.inj (hpatched.symm.trans hpatched')
      exact ⟨rfl, hsettles⟩

end Records

/-! ## Merging entities -/

/-- How a merge of `patch` into the stored entity `e` ends. -/
structure Merging (template : Template) (patch : Json) (e : Entity) (s s' : Scene Trial)
    (r : Except ServiceFault Reply) : Prop where
  ok_iff : (∃ reply, r = .ok reply) ↔ ∃ merged, e.Patched patch merged ∧ merged.brokenField? = none
  ok : ∀ reply, r = .ok reply → ∃ merged, e.Patched patch merged ∧ reply = .entity merged ∧
    s'.world.store = s.world.store.saveEntity merged ∧
    s'.world.store.entity? e.kind e.name = .ok (some merged) ∧
    Rendered template s'.world.store s'.world.file
  error : ∀ fault, r = .error fault → fault.kind = .badData ∧
    s'.world.store = s.world.store ∧ s'.world.file = s.world.file

/-- Bad data leaves no trace. -/
theorem unchanged_of_badData {c : Call} (hc : c.isChange = true) {s s' : Scene Trial}
    {fault : ServiceFault} (hs : s.world.store.Canonical)
    (h : perform ((service template).answer c) s = (.error fault, s'))
    (hfault : fault.kind = .badData) :
    s'.world.store = s.world.store ∧ s'.world.file = s.world.file := by
  obtain ⟨uses, -, hsettled⟩ := answer_settled template hc (fun k name _ => hs k name) h
  cases fault <;> first | exact ⟨hsettled.1, hsettled.2.1⟩ | cases hfault

theorem exists_get_of_entity? {α : Type} [Record α] [EntityRecord α] [CallRecord α] {name : String}
    {e : Entity} (h : store.entity? (Record.kind α) name = .ok (some e)) :
    ∃ a : α, store.get? name = .ok (some a) ∧ EntityRecord.entity a = e := by
  rw [CallRecord.entity?_eq] at h
  cases hget : (store.get? name : Except StoreFault (Option α)) with
  | error fault =>
      rw [hget] at h
      cases h
  | ok found =>
      rw [hget] at h
      obtain ⟨a, rfl, hentity⟩ := Option.map_eq_some_iff.mp (Except.ok.inj h)
      exact ⟨a, rfl, hentity⟩

/-- **A merge replaces just the fields that the patch names.** Where no port call
is refused, it succeeds just when the patch is an object, each of its values under
the name of a field decodes, and the overlaid entity is in order. Other keys
do not matter. What is stored and returned then is the overlaid entity, under
the same name; else the data is bad and nothing changes. -/
theorem merge_of_stored (template : Template) {s s' : Scene Trial} {k : Kind} {name : String}
    {patch : Json} {e : Entity} {r : Except ServiceFault Reply}
    (hs : Reachable (fun _ => True) s) (htape : s.world.refusals = [])
    (hstored : s.world.store.entity? k name = .ok (some e))
    (h : perform ((service template).answer (.merge k name patch)) s = (r, s')) :
    e.kind = k ∧ e.name = name ∧
      (∀ fields, k.Admits fields → ∃! merged, Entity.Overlaid fields e merged) ∧
      Merging template patch e s s' r := by
  have hconsists := consists_of_run hs
  have hcanonical := hconsists.canonical
  obtain ⟨α, _, _, _, _, rfl⟩ := k.exists_patchRecord
  obtain ⟨a, hget, rfl⟩ := exists_get_of_entity? hstored
  have hname : (EntityRecord.entity a).name = name :=
    (EntityRecord.name_entity a).trans (hconsists.of_get? hget).1
  have hkind := EntityRecord.kind_entity a
  have hmerge := h
  rw [CallRecord.answer_merge] at hmerge
  obtain ⟨x, hx, rfl⟩ := perform_bind_pure hmerge
  have hends := ensures_merge hcanonical hget ⟨rfl, htape⟩ hx
  refine ⟨hkind, hname, fun fields hadmits => ?_, ?_⟩
  · rw [← hkind] at hadmits
    exact (EntityRecord.entity a).existsUnique_overlaid hadmits
  cases x with
  | error fault =>
      obtain ⟨hbad, hnone⟩ := hends
      refine ⟨⟨nofun, ?_⟩, nofun, fun fault' hfault => ?_⟩
      · rintro ⟨merged, hpatched, hwhole⟩
        obtain ⟨m, rfl, hm⟩ := PatchRecord.patched_iff.mp hpatched
        rw [CallRecord.brokenField?_entity] at hwhole
        exact absurd hwhole (hnone m hm)
      · obtain rfl := Except.error.inj hfault
        exact ⟨hbad, unchanged_of_badData rfl hcanonical h hbad⟩
  | ok m =>
      obtain ⟨hm, hwhole, hcalm, hrendered⟩ := hends
      have hpatched := PatchRecord.patched_iff.mpr ⟨m, rfl, hm⟩
      have hstore : s'.world.store = s.world.store.saveEntity (EntityRecord.entity m) := by
        rw [hcalm.store_eq, CallRecord.saveEntity_eq]
      obtain ⟨fields, -, -, hoverlaid⟩ := id hpatched
      constructor
      · refine iff_of_true ⟨.entity (EntityRecord.entity m), rfl⟩ ⟨_, hpatched, ?_⟩
        rw [CallRecord.brokenField?_entity, hwhole]
      · intro reply hreply
        refine ⟨_, hpatched, (Except.ok.inj hreply).symm, hstore, ?_, ?_⟩
        · rw [← hoverlaid.kind_eq, ← hoverlaid.name_eq]
          refine Store.entity?_of_text? ?_
          rw [hstore, Store.text?_saveEntity, if_pos ⟨rfl, rfl⟩]
        · rw [hcalm.store_eq]
          exact hrendered
      · intro fault hfault
        cases hfault

/-- A merge of a patch that applies can be made. -/
theorem exists_merge {α : Type} [Record α] [EntityRecord α] [CallRecord α] {a m : α}
    {s : Scene Trial} {name : String} {patch : Json} (hs : Reachable (fun _ => True) s)
    (hcalm : Calm store s) (hget : store.get? name = .ok (some a))
    (hpatched : patched a patch = .ok m) (hwhole : Record.brokenField? m = none) :
    ∃ s', perform ((service template).answer (.merge (Record.kind α) name patch)) s =
        (.ok (.entity (EntityRecord.entity m)), s') ∧
      Reachable (fun _ => True) s' ∧ Calm (store.save m) s' := by
  obtain ⟨r, s', h⟩ : ∃ r s', perform ((service template).answer
      (.merge (Record.kind α) name patch)) s = (r, s') := ⟨_, _, rfl⟩
  have hs' : Reachable (fun _ => True) s' := by
    have hcall := hs.call template (.merge (Record.kind α) name patch) fun _ _ _ => trivial
    rwa [h] at hcall
  have hstore : store.Canonical := hcalm.store_eq ▸ (consists_of_run hs).canonical
  have hmerge := h
  rw [CallRecord.answer_merge] at hmerge
  obtain ⟨x, hx, rfl⟩ := perform_bind_pure hmerge
  have hends := achieves_merge template hstore hget hpatched hwhole hcalm hx
  cases x with
  | error fault => exact hends.elim
  | ok m' =>
      obtain ⟨rfl, hcalm', -⟩ := hends
      exact ⟨s', h, hs', hcalm'⟩

def patchable : Pool := { name := "api", balance := "roundrobin" }

/-- Members that are an array and an object with missing fields, another name, and
a key that is no field. -/
def memberPatch : Json := .object [
  ("zone", .null), ("name", .string "web"), ("host", .string "h"),
  ("members", .array [.array [.string "m1", .string "2"],
    .object [("port", .number (.natural 8080))]])]

def patchableScene : Scene Trial :=
  (perform ((service .default).answer (.save (.pool patchable))) ⟨{}, []⟩).2

theorem reachable_patchableScene : Reachable (fun _ => True) patchableScene := by
  rw [patchableScene]
  exact (Reachable.start rfl).call .default (.save (.pool patchable)) fun _ _ _ => trivial

theorem calm_patchableScene : Calm patchableScene.world.store patchableScene :=
  ⟨rfl, by decide +kernel⟩

theorem get?_patchableScene : patchableScene.world.store.get? "api" = .ok (some patchable) := by
  decide +kernel

theorem merge_of_stored_members :
    ∃ s', perform ((service .default).answer (.merge .backend "api" memberPatch)) patchableScene =
        (.ok (.entity (.pool { patchable with
          host := "h", members := [{ name := "m1", version := "2" }, { port := 8080 }] })), s') ∧
      patchableScene.world.refusals = [] ∧
      patchableScene.world.store.entity? .backend "api" = .ok (some (.pool patchable)) ∧
      ∃ merged, Entity.Patched memberPatch (.pool patchable) merged ∧
        s'.world.store.entity? .backend "api" = .ok (some merged) := by
  have hpatched : patched patchable memberPatch = .ok { patchable with
      host := "h", members := [{ name := "m1", version := "2" }, { port := 8080 }] } := by
    decide +kernel
  obtain ⟨s', hmerge, -⟩ := exists_merge reachable_patchableScene calm_patchableScene
    get?_patchableScene hpatched (by decide +kernel)
  have hstored : patchableScene.world.store.entity? .backend "api" = .ok (some (.pool patchable)) :=
    congrArg (Except.map (Option.map Entity.pool)) get?_patchableScene
  obtain ⟨-, -, -, hmerging⟩ := merge_of_stored .default reachable_patchableScene
    calm_patchableScene.refusals_eq hstored hmerge
  obtain ⟨merged, hpatched, -, -, hfound, -⟩ := hmerging.ok _ rfl
  exact ⟨s', hmerge, calm_patchableScene.refusals_eq, hstored, merged, hpatched, hfound⟩

/-! ## Merges in a row -/

theorem yields_saveAs_whole {α : Type} [Record α] (a : α) :
    Yields (fun _ => True) ((service template).saveAs a) fun saved _ =>
      saved.entity = a ∧ Record.brokenField? a = none := by
  intro s r s' hs hact
  cases hbroken : Record.brokenField? a with
  | some field =>
      have hbreaks : Yields (fun _ => True) ((service template).saveAs a) fun _ _ => False :=
        ensures_saveAs_of_broken hbroken fun _ _ => trivial
      have hends := hbreaks hs hact
      cases r with
      | ok saved => exact hends.elim
      | error fault => exact trivial
  | none =>
      have hends := yields_saveAs a hs hact
      cases r with
      | ok saved => exact ⟨hends.1, rfl⟩
      | error fault => exact trivial

section Row

variable {α : Type} [Record α] [EntityRecord α] {m : α} {name : String} {patch : Json}
  {s s' : Scene Trial}

omit [EntityRecord α] in
/-- What a merge that succeeds has saved is the patched record. -/
theorem yields_merge :
    Yields (fun s => s.world.store = store) ((service template).merge α name patch) fun m _ =>
      ∃ a : α, store.get? name = .ok (some a) ∧ patched a patch = .ok m ∧
        Record.brokenField? m = none := by
  have hlook : Yields (fun s => s.world.store = store) ((service template).get α name)
      fun found _ => True ∧ store.get? name = .ok found := by
    rintro s r s' rfl hget
    cases r with
    | error fault => exact trivial
    | ok found => exact ⟨trivial, (get_untouched hget).2 found rfl⟩
  unfold Service.merge
  refine Ensures.counted ?_ (fun _ _ _ h => h) fun _ _ _ h => h
  refine hlook.bind fun found => ensures_of_and fun hfound => ?_
  cases found with
  | none => exact ensures_throw fun _ _ => trivial
  | some a =>
      cases hpatched : patched a patch with
      | error fault =>
          simp only [hpatched]
          exact ensures_throw fun _ _ => trivial
      | ok merged =>
          simp only [hpatched]
          refine (yields_saveAs_whole merged).bind fun saved => ensures_pure fun s hsaved => ?_
          obtain ⟨rfl, hwhole⟩ := hsaved
          exact ⟨a, hfound, hpatched, hwhole⟩

/-- A merge that has succeeded turned the stored record `a` into `m`. -/
structure Merges (template : Template) (name : String) (patch : Json) (s s' : Scene Trial)
    (a m : α) : Prop where
  get?_eq : s.world.store.get? name = .ok (some a)
  patched_eq : patched a patch = .ok m
  whole : Record.brokenField? m = none
  store_eq : s'.world.store = s.world.store.save m
  rendered : Rendered template s'.world.store s'.world.file

theorem exists_merges (hs : s.world.store.Canonical)
    (h : perform ((service template).merge α name patch) s = (.ok m, s')) :
    ∃ a, Merges template name patch s s' a m := by
  obtain ⟨a, hget, hpatched, hwhole⟩ := yields_merge rfl h
  obtain ⟨uses, events, rfl, hchanging⟩ := merge_changes (hs _ _) h
  obtain ⟨hchanged, -, hrendered, -⟩ := hchanging.settled fun k name _ => hs k name
  have hmerged : s.world.store.merged? α name patch = some (s.world.store.save m) := by
    rw [Store.merged?, hget]
    dsimp only
    rw [hpatched]
  exact ⟨a, hget, hpatched, hwhole, Option.some.inj (hchanged.symm.trans hmerged), hrendered⟩

/-- What is merged is found under the same name. -/
theorem Merges.get?_after {a : α} (h : Merges template name patch s s' a m)
    (ha : Record.name a = name) : s'.world.store.get? name = .ok (some m) := by
  have hname : Record.name m = name := (name_of_patched h.patched_eq).trans ha
  rw [h.store_eq]
  refine Store.get?_of_text? ?_
  rw [Store.save, Store.text?_put, if_pos ⟨rfl, hname⟩]

end Row

section Row

variable {α : Type} [Record α] [EntityRecord α] {name : String} {patch : Json} {a b m : α}
  {s s₁ s₂ s₀ s' : Scene Trial} {r : Except ServiceFault α}

/-- A merge that makes the store of `s₂` leaves the file that shows it. -/
theorem merge_leads_to (hstore : store.Canonical) (hget : store.get? name = .ok (some a))
    (hpatched : patched a patch = .ok m) (hwhole : Record.brokenField? m = none)
    (hsaved : store.save m = s₂.world.store)
    (hrendered : Rendered template s₂.world.store s₂.world.file) (hcalm : Calm store s₀)
    (h : perform ((service template).merge α name patch) s₀ = (r, s')) :
    r = .ok m ∧ s'.world.store = s₂.world.store ∧ s'.world.file = s₂.world.file := by
  have hends := achieves_merge template hstore hget hpatched hwhole hcalm h
  cases r with
  | error fault => exact hends.elim
  | ok m' =>
      obtain ⟨rfl, hcalm', hrendered'⟩ := hends
      rw [hsaved] at hrendered'
      exact ⟨rfl, hcalm'.store_eq.trans hsaved, hrendered'.file_unique hrendered⟩

variable [PatchRecord α]

/-- Both patches at once lead where they lead one after the other. -/
theorem merge_overlay {p q : List (String × Json)} (hs : s.world.store.Canonical)
    (h₁ : Merges template name (.object p) s s₁ a b)
    (h₂ : Merges template name (.object q) s₁ s₂ b m) (hcalm : Calm s.world.store s₀)
    (h : perform ((service template).merge α name (overlay p q)) s₀ = (r, s')) :
    r = .ok m ∧ s'.world.store = s₂.world.store ∧ s'.world.file = s₂.world.file := by
  obtain ⟨p', hp, hadmits, hoverlaid⟩ := Record.patched_eq_ok_iff.mp h₁.patched_eq
  obtain ⟨q', hq, hadmits', hoverlaid'⟩ := Record.patched_eq_ok_iff.mp h₂.patched_eq
  obtain rfl := Json.object.inj hp
  obtain rfl := Json.object.inj hq
  have hpatched : patched a (overlay p q) = .ok m := by
    refine Record.patched_eq_ok_iff.mpr ⟨Json.inOrder (p ++ q), rfl, ?_, ?_⟩
    · exact Record.admits_inOrder_iff.mpr (hadmits.append hadmits')
    · exact Record.overlaid_inOrder_iff.mpr (hoverlaid.trans hoverlaid')
  -- The record in between stood under the same name, so nothing of it is left.
  have hsaved : s.world.store.save m = s₂.world.store := by
    rw [h₂.store_eq, h₁.store_eq, Store.save_save _ hoverlaid'.name_eq.symm]
  exact merge_leads_to hs h₁.get?_eq hpatched h₂.whole hsaved h₂.rendered hcalm h

/-- What has been merged once is there. -/
theorem merge_again (hs : s.world.store.Canonical) (ha : Record.name a = name)
    (h₁ : Merges template name patch s s₁ a m) (hcalm : Calm s₁.world.store s₀)
    (h : perform ((service template).merge α name patch) s₀ = (r, s')) :
    r = .ok m ∧ s'.world.store = s₁.world.store ∧ s'.world.file = s₁.world.file := by
  obtain ⟨fields, hfields, hadmits, hoverlaid⟩ := Record.patched_eq_ok_iff.mp h₁.patched_eq
  have hpatched : patched m patch = .ok m :=
    Record.patched_eq_ok_iff.mpr ⟨fields, hfields, hadmits, hoverlaid.again⟩
  have hsaved : s₁.world.store.save m = s₁.world.store := by
    rw [h₁.store_eq, Store.save_save _ rfl]
  have hs₁ : s₁.world.store.Canonical := h₁.store_eq ▸ hs.save m
  exact merge_leads_to hs₁ (h₁.get?_after ha) hpatched h₁.whole hsaved h₁.rendered hcalm h

end Row

theorem ok_of_merge {α : Type} [Record α] [EntityRecord α] [CallRecord α] {name : String}
    {patch : Json} {s s' : Scene Trial} {reply : Reply}
    (h : perform ((service template).answer (.merge (Record.kind α) name patch)) s =
      (.ok reply, s')) :
    ∃ m : α, perform ((service template).merge α name patch) s = (.ok m, s') ∧
      reply = .entity (EntityRecord.entity m) := by
  rw [CallRecord.answer_merge] at h
  obtain ⟨x, hx, hreply⟩ := perform_bind_pure h
  cases x with
  | error fault => cases hreply
  | ok m => exact ⟨m, hx, Except.ok.inj hreply⟩

/-- **Two merges in a row are one merge.** In a run, whatever was refused before:
when two patches have been merged into an entity one after the other, then
merging the first with the second over it, where no port call is refused, gives
the same entity, store and file. So merging a patch again changes nothing. -/
theorem merge_of_merges (template : Template) :
    (∀ (k : Kind) (name : String) (p q : List (String × Json)) (s s₁ s₂ s₀ s' : Scene Trial)
        (reply₁ reply₂ : Reply) (r : Except ServiceFault Reply),
      Reachable (fun _ => True) s →
      perform ((service template).answer (.merge k name (.object p))) s = (.ok reply₁, s₁) →
      perform ((service template).answer (.merge k name (.object q))) s₁ = (.ok reply₂, s₂) →
      s₀.world.store = s.world.store → s₀.world.refusals = [] →
      perform ((service template).answer (.merge k name (overlay p q))) s₀ = (r, s') →
      r = .ok reply₂ ∧ s'.world.store = s₂.world.store ∧ s'.world.file = s₂.world.file) ∧
    ∀ (k : Kind) (name : String) (patch : Json) (s s₁ s₀ s' : Scene Trial) (reply₁ : Reply)
        (r : Except ServiceFault Reply),
      Reachable (fun _ => True) s →
      perform ((service template).answer (.merge k name patch)) s = (.ok reply₁, s₁) →
      s₀.world.store = s₁.world.store → s₀.world.refusals = [] →
      perform ((service template).answer (.merge k name patch)) s₀ = (r, s') →
      r = .ok reply₁ ∧ s'.world.store = s₁.world.store ∧ s'.world.file = s₁.world.file := by
  constructor
  · intro k name p q s s₁ s₂ s₀ s' reply₁ reply₂ r hs h₁ h₂ hstore htape h
    obtain ⟨α, _, _, _, _, rfl⟩ := k.exists_patchRecord
    have hs₁ : Reachable (fun _ => True) s₁ := by
      have hcall := hs.call template (.merge (Record.kind α) name (.object p)) fun _ _ _ => trivial
      rwa [h₁] at hcall
    have hconsists := consists_of_run hs
    obtain ⟨b, hb, -⟩ := ok_of_merge h₁
    obtain ⟨c, hc, rfl⟩ := ok_of_merge h₂
    obtain ⟨a, hmerges₁⟩ := exists_merges hconsists.canonical hb
    obtain ⟨b', hmerges₂⟩ := exists_merges (consists_of_run hs₁).canonical hc
    have ha : Record.name a = name := (hconsists.of_get? hmerges₁.get?_eq).1
    obtain rfl : b' = b :=
      Option.some.inj (Except.ok.inj (hmerges₂.get?_eq.symm.trans (hmerges₁.get?_after ha)))
    rw [CallRecord.answer_merge] at h
    obtain ⟨x, hx, rfl⟩ := perform_bind_pure h
    obtain ⟨rfl, hends⟩ :=
      merge_overlay hconsists.canonical hmerges₁ hmerges₂ ⟨hstore, htape⟩ hx
    exact ⟨rfl, hends⟩
  · intro k name patch s s₁ s₀ s' reply₁ r hs h₁ hstore htape h
    obtain ⟨α, _, _, _, _, rfl⟩ := k.exists_patchRecord
    have hconsists := consists_of_run hs
    obtain ⟨b, hb, rfl⟩ := ok_of_merge h₁
    obtain ⟨a, hmerges⟩ := exists_merges hconsists.canonical hb
    have ha : Record.name a = name := (hconsists.of_get? hmerges.get?_eq).1
    rw [CallRecord.answer_merge] at h
    obtain ⟨x, hx, rfl⟩ := perform_bind_pure h
    obtain ⟨rfl, hends⟩ := merge_again hconsists.canonical ha hmerges ⟨hstore, htape⟩ hx
    exact ⟨rfl, hends⟩

/-- Metadata that the second patch replaces. -/
def firstPatch : List (String × Json) :=
  [("version", .string "2"), ("meta", .object [("zone", .string "z"), ("team", .string "a")])]

/-- Other metadata, and a member of which only the name is told. -/
def secondPatch : List (String × Json) :=
  [("meta", .object [("team", .string "b")]), ("members", .array [.object [("name", .string "m")]])]

theorem merge_of_merges_metadata :
    ∃ first second s₁ s₂ both again,
      perform ((service .default).answer (.merge .backend "api" (.object firstPatch)))
        patchableScene = (.ok (.entity (.pool first)), s₁) ∧
      perform ((service .default).answer (.merge .backend "api" (.object secondPatch))) s₁ =
        (.ok (.entity (.pool second)), s₂) ∧
      perform ((service .default).answer (.merge .backend "api" (overlay firstPatch secondPatch)))
        patchableScene = both ∧
      perform ((service .default).answer (.merge .backend "api" (.object firstPatch))) s₁ = again ∧
      second.metadata = (∅ : Dict String).insert "team" "b" ∧ second.members = [{ name := "m" }] ∧
      (both.1 = .ok (.entity (.pool second)) ∧ both.2.world.store = s₂.world.store ∧
        both.2.world.file = s₂.world.file) ∧
      again.1 = .ok (.entity (.pool first)) ∧ again.2.world.store = s₁.world.store ∧
        again.2.world.file = s₁.world.file := by
  obtain ⟨first, hfirst⟩ : ∃ first : Pool, first = { patchable with
      version := "2"
      metadata := ((∅ : Dict String).insert "zone" "z").insert "team" "a" } := ⟨_, rfl⟩
  obtain ⟨second, hsecond⟩ : ∃ second : Pool, second = { patchable with
      version := "2", members := [{ name := "m" }]
      metadata := (∅ : Dict String).insert "team" "b" } := ⟨_, rfl⟩
  have hpatched₁ : patched patchable (.object firstPatch) = .ok first := by
    rw [hfirst]
    decide +kernel
  have hpatched₂ : patched first (.object secondPatch) = .ok second := by
    rw [hfirst, hsecond]
    decide +kernel
  have hwhole : Record.brokenField? first = none ∧ Record.brokenField? second = none := by
    rw [hfirst, hsecond]
    decide +kernel
  obtain ⟨s₁, h₁, hs₁, hcalm₁⟩ := exists_merge reachable_patchableScene calm_patchableScene
    get?_patchableScene hpatched₁ hwhole.1
  have hget₁ : (patchableScene.world.store.save first).get? "api" = .ok (some first) := by
    refine Store.get?_of_text? ?_
    rw [Store.save, Store.text?_put, if_pos ⟨rfl, by rw [hfirst]; rfl⟩]
  obtain ⟨s₂, h₂, -, -⟩ := exists_merge hs₁ hcalm₁ hget₁ hpatched₂ hwhole.2
  obtain ⟨hrow, hagain⟩ := merge_of_merges .default
  refine ⟨first, second, s₁, s₂, _, _, h₁, h₂, rfl, rfl, by rw [hsecond], by rw [hsecond], ?_, ?_⟩
  · exact hrow _ _ _ _ _ _ _ _ _ _ _ _ reachable_patchableScene h₁ h₂ rfl
      calm_patchableScene.refusals_eq Prod.mk.eta.symm
  · exact hagain _ _ _ _ _ _ _ _ _ reachable_patchableScene h₁ rfl hcalm₁.refusals_eq
      Prod.mk.eta.symm

end Trial

end ProxySync
