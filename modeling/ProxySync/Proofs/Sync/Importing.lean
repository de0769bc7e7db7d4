import ProxySync.Proofs.ConfigFile.Heading
import ProxySync.Proofs.Store.Seeds
import ProxySync.Proofs.Sync.History

/-!
# Importing a file

An import goes through the listeners and then the pools of the file, and
seeds the store with each of them in turn (`Store.seedAll`). What is there
stays, and of the sections of one kind and normal name only the first can
enter; the others are counted as passed over (`import_of_read`).
-/

namespace ProxySync

open ConfigFile Act

namespace Trial

variable {template : Template} {store : Store} {s s' : Scene Trial} {text : String}

/-! ## Single sections -/

section Records

variable {α : Type} [Record α] [EntityRecord α]

/-- Where the name of an entity is taken, seeding it changes nothing. -/
theorem seed_of_get?_some {name : String} {old : α}
    (hget : (store.get? name : Except StoreFault (Option α)) = .ok (some old)) (a : α) :
    store.seed ((EntityRecord.entity a).rename name) = store := by
  refine Store.seed_of_taken fun hnone => ?_
  rw [Entity.kind_rename, Entity.name_rename, EntityRecord.kind_entity] at hnone
  rw [Store.get?_of_none hnone] at hget
  cases hget

variable [CallRecord α]

/-- Where the name of an entity is free, seeding it is saving it. -/
theorem seed_of_get?_none {name : String}
    (hget : (store.get? name : Except StoreFault (Option α)) = .ok none) (a : α) :
    store.seed ((EntityRecord.entity a).rename name) = store.save (Record.rename name a) := by
  have hfree := Store.text?_of_get?_none hget
  rw [Store.seed_of_free, CallRecord.rename_entity, CallRecord.saveEntity_eq]
  rwa [Entity.kind_rename, Entity.name_rename, EntityRecord.kind_entity]

/-- An entity with a name is seeded, and it is told whether that stored it. -/
theorem achieves_importOne (hstore : store.Canonical) {a : α} {e : Entity}
    (hstored : (EntityRecord.entity a).stored? = some e) :
    Achieves (Calm store) ((service template).importOne a) fun stored s =>
      Calm (store.seed e) s ∧ (stored = true ↔ store.text? e.kind e.name = none) := by
  obtain ⟨name, hname, rfl⟩ := Option.map_eq_some_iff.mp hstored
  rw [EntityRecord.name_entity] at hname
  rw [Entity.kind_rename, Entity.name_rename, EntityRecord.kind_entity]
  unfold Service.importOne
  rw [normalize_eq_pure hname, pure_bind]
  rcases (hstore.holds (α := α) name).get?_eq with ⟨hfree, hget⟩ | ⟨b, -, htext, hget⟩
  · refine achieves_bind (achieves_get hget) fun found => ensures_of_and fun hfound => ?_
    subst hfound
    refine achieves_bind (achieves_write (writing_store _)) fun _ => ensures_pure fun s hcalm => ?_
    rw [seed_of_get?_none hget]
    exact ⟨hcalm, iff_of_true rfl hfree⟩
  · have htaken : store.text? (Record.kind α) name ≠ none := by
      rw [htext]
      exact Option.some_ne_none _
    refine achieves_bind (achieves_get hget) fun found => ensures_of_and fun hfound => ?_
    subst hfound
    refine ensures_pure fun s hcalm => ?_
    rw [seed_of_get?_some hget]
    exact ⟨hcalm, iff_of_false Bool.false_ne_true htaken⟩

/-! ## Sections of a kind -/

/-- What is counted of seeding a store with entities of a kind. -/
structure Counted (store : Store) (k : Kind) (es : List Entity) (counts : Nat × Nat) : Prop where
  added : ((store.seedAll es).scan k).length = (store.scan k).length + counts.1
  total : counts.1 + counts.2 = es.length

/-- Sections in a row are seeded one after the other. -/
theorem achieves_importAll (hstore : store.Canonical) {as : List α} {es : List Entity}
    (hstored : List.Forall₂ (fun a e => (EntityRecord.entity a).stored? = some e) as es) :
    Achieves (Calm store) ((service template).importAll as) fun counts s =>
      Calm (store.seedAll es) s ∧ Counted store (Record.kind α) es counts := by
  induction hstored generalizing store with
  | nil => exact ensures_pure fun s hcalm => ⟨hcalm, rfl, rfl⟩
  | @cons a e as es he _ ih =>
      have hkind : e.kind = Record.kind α := by
        obtain ⟨name, -, rfl⟩ := Option.map_eq_some_iff.mp he
        rw [Entity.kind_rename, EntityRecord.kind_entity]
      unfold Service.importAll
      refine achieves_bind (achieves_importOne hstore he) fun stored => ?_
      refine ensures_of_and fun hfree => ?_
      refine achieves_bind (ih (hstore.seed e)) fun counts => ensures_pure fun s hseeded => ?_
      obtain ⟨hcalm, hadded, htotal⟩ := hseeded
      have hlength := store.length_scan_seed e
      rw [hkind] at hlength hfree
      rw [hlength] at hadded
      refine ⟨hcalm, ?_⟩
      cases stored with
      | true =>
          rw [if_pos (hfree.mp rfl), Nat.add_assoc, Nat.add_comm 1] at hadded
          exact ⟨hadded, by rw [List.length_cons, ← htotal, if_pos rfl, Nat.add_right_comm]⟩
      | false =>
          rw [if_neg fun hnone => Bool.false_ne_true (hfree.mpr hnone)] at hadded
          exact ⟨hadded, by rw [List.length_cons, ← htotal]; rfl⟩

end Records

/-! ## Whole files -/

/-- The sections of a file as they would be stored, those of a kind in file order. -/
def storedSections (ls : List Listener) (ps : List Pool) : List Entity :=
  (ls.map Entity.listener).filterMap Entity.stored? ++ (ps.map Entity.pool).filterMap Entity.stored?

section Sections

variable {α : Type} [Record α] [EntityRecord α] {as : List α}

theorem forall₂_stored (h : ∀ a ∈ as, Record.name a ≠ "") :
    List.Forall₂ (fun a e => (EntityRecord.entity a).stored? = some e) as
      ((as.map EntityRecord.entity).filterMap Entity.stored?) := by
  induction as with
  | nil => exact .nil
  | cons a as ih =>
      obtain ⟨ha, has⟩ := List.forall_mem_cons.mp h
      obtain ⟨normal, hnormal⟩ : ∃ normal, normalName? (Record.name a) = some normal := by
        rw [normalName?, if_neg fun hempty => ha (String.isEmpty_iff.mp hempty)]
        exact ⟨_, rfl⟩
      have hstored : (EntityRecord.entity a).stored? =
          some ((EntityRecord.entity a).rename normal) := by
        rw [Entity.stored?, EntityRecord.name_entity, hnormal]
        rfl
      rw [List.map_cons, List.filterMap_cons_some hstored]
      exact .cons hstored (ih has)

theorem kind_of_stored :
    ∀ e ∈ (as.map EntityRecord.entity).filterMap Entity.stored?, e.kind = Record.kind α := by
  intro e he
  obtain ⟨section', hmem, hstored⟩ := List.mem_filterMap.mp he
  obtain ⟨a, -, rfl⟩ := List.mem_map.mp hmem
  obtain ⟨name, -, rfl⟩ := Option.map_eq_some_iff.mp hstored
  rw [Entity.kind_rename, EntityRecord.kind_entity]

/-- Sections of one kind leave the records of the other alone. -/
theorem scan_seedAll_stored {k : Kind} (h : Record.kind α ≠ k) (as : List α) (store : Store) :
    (store.seedAll ((as.map EntityRecord.entity).filterMap Entity.stored?)).scan k =
      store.scan k := by
  refine Store.scan_seedAll_of_kind_ne (fun e he => ?_) store
  rw [kind_of_stored e he]
  exact h

end Sections

/-- All sections of a file have names and so can be stored. -/
theorem forall₂_stored_of_read {ls : List Listener} {ps : List Pool}
    (hread : ConfigFile.read text = .ok (ls, ps)) :
    List.Forall₂ (fun l e => (EntityRecord.entity l).stored? = some e) ls
        ((ls.map Entity.listener).filterMap Entity.stored?) ∧
      List.Forall₂ (fun p e => (EntityRecord.entity p).stored? = some e) ps
        ((ps.map Entity.pool).filterMap Entity.stored?) := by
  obtain ⟨sections, hsections, rfl, rfl⟩ := read_eq_ok_iff.mp hread
  have hnamed := heading_ne_empty hsections
  exact ⟨forall₂_stored fun l hmem => hnamed _ (mem_listenersOf.mp hmem),
    forall₂_stored fun p hmem => hnamed _ (mem_poolsOf.mp hmem)⟩

/-- A file that is there is read. -/
theorem asked_readConfig {r : Except ConfigFault String} (hfile : s.world.file = some text)
    (h : perform (ask ports.readConfig) s = (r, s')) :
    Asked s .readConfig (.io .notFound) text r s' := by
  obtain ⟨⟨_, file, refusals, _⟩, events⟩ := s
  obtain rfl : file = some text := hfile
  unfold perform ask ports call at h
  dsimp only at h
  split at h
  · next hrefused =>
    obtain ⟨rfl, rfl⟩ := Prod.mk.inj h
    exact Or.inl ⟨ne_false_of_eq_true hrefused, rfl, rfl⟩
  · next hopen =>
    obtain ⟨rfl, rfl⟩ := Prod.mk.inj h
    exact Or.inr ⟨eq_false_of_ne_true hopen, rfl, rfl⟩

theorem achieves_readConfig :
    Achieves (fun s => Calm store s ∧ s.world.file = some text)
      (blaming ServiceFault.noImport (ask ports.readConfig))
      fun text' s => Calm store s ∧ text' = text := by
  refine Ensures.blaming fun s r s' ⟨hcalm, hfile⟩ hask => ?_
  obtain ⟨rfl, rfl⟩ := hcalm.asked (asked_readConfig hfile hask)
  exact ⟨hcalm.after .readConfig [], rfl⟩

/-- What is counted of an import into a store. -/
structure Summed (store : Store) (ls : List Listener) (ps : List Pool) (summary : ImportSummary) :
    Prop where
  listeners : ((store.seedAll (storedSections ls ps)).scan .frontend).length =
    (store.scan .frontend).length + summary.listeners
  pools : ((store.seedAll (storedSections ls ps)).scan .backend).length =
    (store.scan .backend).length + summary.pools
  total : summary.listeners + summary.pools + summary.skipped = ls.length + ps.length

theorem achieves_importConfig (hstore : store.Canonical) {ls : List Listener} {ps : List Pool}
    (hread : ConfigFile.read text = .ok (ls, ps)) :
    Achieves (fun s => Calm store s ∧ s.world.file = some text) (service template).importConfig
      fun summary s => Calm (store.seedAll (storedSections ls ps)) s ∧
        Summed store ls ps summary := by
  obtain ⟨hls₂, hps₂⟩ := forall₂_stored_of_read hread
  unfold Service.importConfig
  refine achieves_bind achieves_readConfig fun text' => ensures_of_and fun htext => ?_
  subst htext
  rw [hread]
  refine achieves_bind (achieves_importAll hstore hls₂) fun counts => ?_
  refine ensures_of_and fun hcounts => ?_
  refine achieves_bind (achieves_importAll (hstore.seedAll _) hps₂) fun counts' => ?_
  refine ensures_pure fun s hseeded => ?_
  obtain ⟨hcalm, hcounts'⟩ := hseeded
  have hfrontends (store : Store) :=
    scan_seedAll_stored (α := Pool) (k := .frontend) (by decide) ps store
  have hbackends :=
    scan_seedAll_stored (α := Listener) (k := .backend) (by decide) ls store
  rw [storedSections, Store.seedAll_append]
  refine ⟨hcalm, ?_, ?_, ?_⟩
  · rw [storedSections, Store.seedAll_append]
    exact (congrArg List.length (hfrontends _)).trans hcounts.added
  · rw [storedSections, Store.seedAll_append, ← hbackends]
    exact hcounts'.added
  · have htotal := hcounts.total
    have htotal' := hcounts'.total
    rw [← hls₂.length_eq] at htotal
    rw [← hps₂.length_eq] at htotal'
    dsimp only
    omega

/-- What an import leaves of the sections of a file, and its summary. -/
structure Imported (ls : List Listener) (ps : List Pool) (s s' : Scene Trial)
    (summary : ImportSummary) : Prop where
  records : ∀ key, s'.world.store.records.get? key = (s.world.store.records.get? key).or
    ((Entity.firstOf? (storedSections ls ps) key).map Entity.text)
  file_eq : s'.world.file = s.world.file
  listeners : (s'.world.store.scan .frontend).length =
    (s.world.store.scan .frontend).length + summary.listeners
  pools : (s'.world.store.scan .backend).length =
    (s.world.store.scan .backend).length + summary.pools
  total : summary.listeners + summary.pools + summary.skipped = ls.length + ps.length

theorem imported_of_perform {ls : List Listener} {ps : List Pool}
    {r : Except ServiceFault Reply} (hstore : store.Canonical) (hcalm : Calm store s)
    (hfile : s.world.file = some text) (hread : ConfigFile.read text = .ok (ls, ps))
    (h : perform ((service template).answer .importConfig) s = (r, s')) :
    ∃ summary, r = .ok (.imported summary) ∧ Imported ls ps s s' summary ∧
      s'.world.store = store.seedAll (storedSections ls ps) := by
  obtain ⟨x, hx, rfl⟩ := perform_bind_pure h
  have hends := achieves_importConfig hstore hread ⟨hcalm, hfile⟩ hx
  cases x with
  | error fault => exact hends.elim
  | ok summary =>
      obtain ⟨hcalm', hlisteners, hpools, htotal⟩ := hends
      obtain rfl := hcalm.store_eq
      refine ⟨summary, rfl, ⟨fun key => ?_, (importConfig_seeded hx).file_eq, ?_, ?_, htotal⟩,
        hcalm'.store_eq⟩
      · rw [hcalm'.store_eq, Store.get?_seedAll]
      · rw [hcalm'.store_eq, hlisteners]
      · rw [hcalm'.store_eq, hpools]

/-- **An import adds the first section of each name that is free.** In a run,
where no port call is refused and the file can be read: what was stored stays,
and for each kind and normal name that was free the first section of that kind
and name is stored. The file stays, the summary counts the new records of each
kind and the sections that were passed over, and a second import of the same
file passes over all of them. -/
theorem import_of_read (template : Template) {s s' : Scene Trial} {text : String}
    {ls : List Listener} {ps : List Pool} {r : Except ServiceFault Reply}
    (hs : Reachable (fun _ => True) s) (htape : s.world.refusals = [])
    (hfile : s.world.file = some text) (hread : ConfigFile.read text = .ok (ls, ps))
    (h : perform ((service template).answer .importConfig) s = (r, s')) :
    (∃ summary, r = .ok (.imported summary) ∧ Imported ls ps s s' summary) ∧
      ∀ t t' r', t.world.store = s'.world.store → t.world.file = some text →
        t.world.refusals = [] → perform ((service template).answer .importConfig) t = (r', t') →
        r' = .ok (.imported ⟨0, 0, ls.length + ps.length⟩) ∧
          t'.world.store = s'.world.store ∧ t'.world.file = some text := by
  have hcanonical := (consists_of_run hs).canonical
  obtain ⟨summary, hr, himported, hstore⟩ :=
    imported_of_perform hcanonical ⟨rfl, htape⟩ hfile hread h
  refine ⟨⟨summary, hr, himported⟩, fun t t' r' htstore htfile httape ht => ?_⟩
  have hcalm : Calm (s.world.store.seedAll (storedSections ls ps)) t :=
    ⟨htstore.trans hstore, httape⟩
  obtain ⟨again, hr', himported', hstore'⟩ :=
    imported_of_perform (hcanonical.seedAll _) hcalm htfile hread ht
  have hsame : t'.world.store = t.world.store := by
    rw [hstore', Store.seedAll_seedAll, hcalm.store_eq]
  obtain ⟨-, hfile', hlisteners, hpools, htotal⟩ := himported'
  rw [hsame] at hlisteners hpools
  obtain ⟨n, m, skipped⟩ := again
  obtain rfl : n = 0 := (Nat.left_eq_add.mp hlisteners)
  obtain rfl : m = 0 := (Nat.left_eq_add.mp hpools)
  obtain rfl : skipped = ls.length + ps.length := by
    rw [← htotal, Nat.zero_add, Nat.zero_add]
  exact ⟨hr', hsame.trans htstore, hfile'.trans htfile⟩

/-- Two listeners whose names are the same once they are stored, a pool of that
name, and another pool. -/
def crowded : String :=
  "frontend a b\n  bind *:1\n\nfrontend a_b\n  bind *:2\n\nbackend a b\n\nbackend web\n"

theorem import_of_read_crowded :
    ∃ first again,
      first = perform ((service .default).answer .importConfig) ⟨{ file := some crowded }, []⟩ ∧
      again = perform ((service .default).answer .importConfig) first.2 ∧
      ConfigFile.read crowded = .ok
        ([{ name := "a b", bind := "*:1" }, { name := "a_b", bind := "*:2" }],
          [{ name := "a b" }, { name := "web" }]) ∧
      first.1 = .ok (.imported ⟨1, 2, 1⟩) ∧
      first.2.world.store.records.get? "listener/a_b" =
        some (Entity.listener { name := "a_b", bind := "*:1" }).text ∧
      again.1 = .ok (.imported ⟨0, 0, 4⟩) ∧ again.2.world.store = first.2.world.store := by
  have hread : ConfigFile.read crowded = .ok
      ([{ name := "a b", bind := "*:1" }, { name := "a_b", bind := "*:2" }],
        [{ name := "a b" }, { name := "web" }]) := by decide +kernel
  obtain ⟨first, hfirst⟩ : ∃ p, p = perform
      ((service .default).answer .importConfig) ⟨{ file := some crowded }, []⟩ := ⟨_, rfl⟩
  have hends : (first.2.world.store.scan .frontend).length = 1 ∧
      (first.2.world.store.scan .backend).length = 2 ∧ first.2.world.refusals = [] := by
    rw [hfirst]
    decide +kernel
  obtain ⟨hfrontends, hbackends, htape⟩ := hends
  obtain ⟨⟨⟨n, m, skipped⟩, hreply, himported⟩, hagain⟩ := import_of_read .default
    (Reachable.start rfl) rfl rfl hread (hfirst.symm.trans Prod.mk.eta.symm)
  obtain ⟨hrecords, hfile, hlisteners, hpools, htotal⟩ := himported
  obtain rfl : n = 1 := by
    rw [hfrontends] at hlisteners
    exact (Nat.zero_add n).symm.trans hlisteners.symm
  obtain rfl : m = 2 := by
    rw [hbackends] at hpools
    exact (Nat.zero_add m).symm.trans hpools.symm
  obtain rfl : skipped = 1 := Nat.add_left_cancel htotal
  obtain ⟨hreply', hstore, -⟩ := hagain first.2 _ _ rfl hfile htape Prod.mk.eta.symm
  refine ⟨first, _, hfirst, rfl, hread, hreply, ?_, hreply', hstore⟩
  rw [hrecords]
  decide +kernel

end Trial

end ProxySync
