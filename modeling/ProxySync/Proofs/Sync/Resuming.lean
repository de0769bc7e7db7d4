import ProxySync.Proofs.Sync.Breaking
import ProxySync.Proofs.Sync.Importing

/-!
# Imports that are broken off

An import takes nothing back. What a refused read or write of the store leaves
behind is what the sections before it have seeded (`Passed`, `Stopped`): the
sections of each kind in file order, the listeners before the pools. What has
been seeded is not seeded again, so the import of the same file can be repeated
and then ends as if it had never been broken off (`import_of_refused`).
-/

namespace ProxySync

open ConfigFile Act

/-- A call to the store. -/
def PortUse.isStore : PortUse → Bool
  | .lookup .. | .scan _ | .put .. | .remove .. => true
  | _ => false

namespace Trial

variable {template : Template} {s s' s₀ : Scene Trial} {t : Trial} {es es' : List Entity}
  {uses : List Use} {n : Nat}

/-! ## How far an import has come -/

/-- The calls of an import that has seeded the sections `es` and has made `n`
look-ups. -/
structure Passed (t : Trial) (es : List Entity) (n : Nat) (uses : List Use) : Prop where
  through : ∀ u ∈ uses, u.2 = true
  seeding : ∀ u ∈ uses, u.1.isSeeding = true
  lookups : uses.countP (·.1.isLookup) = n
  store_eq : (t.replay uses).store = t.store.seedAll es

/-- The calls of an import in which the look-up or the write of the section
after `es` was refused. -/
structure Stopped (t : Trial) (es : List Entity) (uses : List Use) : Prop where
  seeding : ∀ u ∈ uses, u.1.isSeeding = true
  lookups : uses.countP (·.1.isLookup) = es.length + 1
  store_eq : (t.replay uses).store = t.store.seedAll es

/-- A call that changes nothing leaves the sections as they are. -/
theorem Passed.concat (h : Passed t es n uses) (use : PortUse) (hseeding : use.isSeeding = true)
    (hstore : use.onStore (t.store.seedAll es) = t.store.seedAll es') :
    Passed t es' (n + if use.isLookup then 1 else 0) (uses ++ [(use, true)]) where
  through := List.forall_mem_append.mpr ⟨h.through, List.forall_mem_singleton.mpr rfl⟩
  seeding := List.forall_mem_append.mpr ⟨h.seeding, List.forall_mem_singleton.mpr hseeding⟩
  lookups := by rw [List.countP_append, h.lookups, List.countP_singleton]
  store_eq := by
    rw [replay_append, ← hstore, ← h.store_eq]
    rfl

theorem Passed.congr (h : Passed t es n uses) (hsame : t.store.seedAll es' = t.store.seedAll es) :
    Passed t es' n uses :=
  ⟨h.through, h.seeding, h.lookups, h.store_eq.trans hsame.symm⟩

theorem Passed.stopped (h : Passed t es n uses) (use : PortUse) (hseeding : use.isSeeding = true)
    (hn : (n + if use.isLookup then 1 else 0) = es.length + 1) :
    Stopped t es (uses ++ [(use, false)]) where
  seeding := List.forall_mem_append.mpr ⟨h.seeding, List.forall_mem_singleton.mpr hseeding⟩
  lookups := by rw [List.countP_append, h.lookups, List.countP_singleton, hn]
  store_eq := by
    rw [replay_append, ← h.store_eq]
    rfl

/-- From `s₀` on an import has gone through the sections `es`. -/
abbrev Through (s₀ : Scene Trial) (es : List Entity) : Scene Trial → Prop :=
  Made (Passed s₀.world es es.length) s₀

/-- An import of `sections` was broken off by the storage, after some of them. -/
def StoppedIn (s₀ : Scene Trial) (sections : List Entity) (fault : ServiceFault)
    (s : Scene Trial) : Prop :=
  (∃ cause, fault = .storage cause) ∧
    ∃ part, part <+: sections ∧ Made (Stopped s₀.world part) s₀ s

theorem store_eq_of_passed (h : Made (Passed s₀.world es n) s₀ s) :
    s.world.store = s₀.world.store.seedAll es := by
  obtain ⟨uses, events, rfl, hpassed⟩ := h
  exact hpassed.store_eq

/-! ## Going through sections -/

section Records

variable {α : Type} [Record α] [EntityRecord α] {sections : List Entity}

theorem ensures_get_section (hstore : s₀.world.store.Canonical) (hes : es <+: sections)
    (name : String) :
    Ensures (Through s₀ es) ((service template).get α name)
      (fun found s => Made (Passed s₀.world es (es.length + 1)) s₀ s ∧
        (s₀.world.store.seedAll es).get? name = .ok found)
      (StoppedIn s₀ sections) := by
  refine Ensures.blaming fun s r s' hmade hact => ?_
  have hseeded := store_eq_of_passed hmade
  rcases asked_entity hact with ⟨-, rfl, rfl⟩ | ⟨-, rfl, rfl⟩
  · exact ⟨⟨_, rfl⟩, es, hes, hmade.after [] fun uses hpassed => hpassed.stopped _ rfl rfl⟩
  · have hlooked : Made (Passed s₀.world es (es.length + 1)) s₀ _ :=
      hmade.after [] fun uses hpassed => hpassed.concat (.lookup (Record.kind α) name) rfl rfl
    rw [hseeded]
    rcases ((hstore.seedAll es).holds (α := α) name).get?_eq with ⟨-, hget⟩ | ⟨a, -, -, hget⟩
    · rw [hget]
      exact ⟨hlooked, rfl⟩
    · rw [hget]
      exact ⟨hlooked, rfl⟩

variable [CallRecord α]

/-- One more section is seeded, or its look-up or its write is refused. -/
theorem ensures_importOne (hstore : s₀.world.store.Canonical) {a : α} {e : Entity}
    (hstored : (EntityRecord.entity a).stored? = some e) (hes : es <+: sections) :
    Ensures (Through s₀ es) ((service template).importOne a) (fun _ => Through s₀ (es ++ [e]))
      (StoppedIn s₀ sections) := by
  obtain ⟨name, hname, rfl⟩ := Option.map_eq_some_iff.mp hstored
  rw [EntityRecord.name_entity] at hname
  have hlength : (es ++ [(EntityRecord.entity a).rename name]).length = es.length + 1 :=
    List.length_append
  have hseed : s₀.world.store.seedAll (es ++ [(EntityRecord.entity a).rename name]) =
      (s₀.world.store.seedAll es).seed ((EntityRecord.entity a).rename name) :=
    Store.seedAll_append
  unfold Service.importOne Through
  rw [normalize_eq_pure hname, pure_bind, hlength]
  refine (ensures_get_section hstore hes name).bind fun found => ensures_of_and fun hget => ?_
  cases found with
  | some old =>
      rw [seed_of_get?_some hget] at hseed
      exact ensures_pure fun s hmade => hmade.mono fun uses hpassed => hpassed.congr hseed
  | none =>
      rw [seed_of_get?_none hget] at hseed
      have hwrite : Ensures (Made (Passed s₀.world es (es.length + 1)) s₀)
          (blaming .storage ((service template).store (Record.rename name a)))
          (fun _ => Made (Passed s₀.world (es ++ [(EntityRecord.entity a).rename name])
            (es.length + 1)) s₀) (StoppedIn s₀ sections) := by
        refine Ensures.blaming fun s r s' hmade hact => ?_
        rcases (writing_store _).asked hact with ⟨-, rfl, rfl⟩ | ⟨-, rfl, rfl⟩
        · exact ⟨⟨_, rfl⟩, es, hes, hmade.after [] fun uses hpassed => hpassed.stopped _ rfl rfl⟩
        · exact hmade.after [] fun uses hpassed => hpassed.concat (.put ..) rfl hseed.symm
      exact hwrite.bind fun _ => ensures_pure fun s hmade => hmade

theorem ensures_importAll (hstore : s₀.world.store.Canonical) {as : List α}
    (hstored : List.Forall₂ (fun a e => (EntityRecord.entity a).stored? = some e) as es')
    (hall : es ++ es' <+: sections) :
    Ensures (Through s₀ es) ((service template).importAll as)
      (fun _ => Through s₀ (es ++ es')) (StoppedIn s₀ sections) := by
  induction hstored generalizing es with
  | nil =>
      rw [List.append_nil]
      exact ensures_pure fun s hmade => hmade
  | @cons a e as es' he _ ih =>
      have hsplit : es ++ e :: es' = (es ++ [e]) ++ es' := List.append_cons ..
      have hnext : es <+: sections := (List.prefix_append es (e :: es')).trans hall
      rw [hsplit] at hall ⊢
      unfold Service.importAll
      refine (ensures_importOne hstore he hnext).bind fun stored => ?_
      exact (ih hall).bind fun counts => ensures_pure fun s hmade => hmade

end Records

/-! ## Whole files -/

/-- An import either meets no refusal of the store, or has got as far as the
sections of a file and is stopped by a refusal in one of them. -/
theorem importConfig_course (hstore : s.world.store.Canonical)
    {r : Except ServiceFault ImportSummary}
    (h : perform (service template).importConfig s = (r, s')) :
    Made (fun uses => ∀ u ∈ uses, u.1.isStore = true → u.2 = true) s s' ∨
      ∃ text ls ps fault, s.world.file = some text ∧ ConfigFile.read text = .ok (ls, ps) ∧
        r = .error fault ∧ StoppedIn s (storedSections ls ps) fault s' := by
  unfold Service.importConfig at h
  rcases perform_bind h with ⟨fault, hread, rfl⟩ | ⟨text, s₁, hread, hnext⟩
  · obtain ⟨x, hask, -⟩ := perform_blaming hread
    rcases ask_readConfig hask with ⟨-, -, rfl⟩ | ⟨-, -, -, rfl⟩
    · exact .inl ⟨_, _, rfl, List.forall_mem_singleton.mpr nofun⟩
    · exact .inl ⟨_, _, rfl, List.forall_mem_singleton.mpr nofun⟩
  obtain ⟨x, hask, hx⟩ := perform_blaming hread
  rcases ask_readConfig hask with ⟨fault, rfl, -⟩ | ⟨text', hfile, rfl, rfl⟩
  · cases hx
  obtain rfl : text = text' := Except.ok.inj hx
  split at hnext
  · obtain ⟨-, rfl⟩ := perform_throw hnext
    exact .inl ⟨_, _, rfl, List.forall_mem_singleton.mpr nofun⟩
  next ls ps hok =>
  obtain ⟨hls, hps⟩ := forall₂_stored_of_read hok
  have hall : Ensures (Through s [])
      ((service template).importAll ls >>= fun counts =>
        (service template).importAll ps >>= fun counts' =>
          pure (⟨counts.1, counts'.1, counts.2 + counts'.2⟩ : ImportSummary))
      (fun _ => Through s (storedSections ls ps)) (StoppedIn s (storedSections ls ps)) := by
    refine (ensures_importAll hstore hls (List.prefix_append ..)).bind fun counts => ?_
    refine (ensures_importAll hstore hps List.prefix_rfl).bind fun counts' => ?_
    exact ensures_pure fun s hmade => hmade
  have hread' : Through s [] (s.after [(.readConfig, true)] []) :=
    ⟨_, _, rfl, ⟨by simp, by simp; rfl, rfl, rfl⟩⟩
  have hends := hall hread' hnext
  cases r with
  | ok summary =>
      obtain ⟨uses, events, rfl, hpassed⟩ := hends
      exact .inl ⟨uses, events, rfl, fun u hu _ => hpassed.through u hu⟩
  | error fault => exact .inr ⟨text, ls, ps, fault, hfile, hok, rfl, hends⟩

/-- From `s` to `s'` everything stayed, and of `sections` the first one under each
free key was added. -/
def Adds (sections : List Entity) (s s' : Scene Trial) : Prop :=
  ∀ key, s'.world.store.records.get? key = (s.world.store.records.get? key).or
    ((Entity.firstOf? sections key).map Entity.text)

theorem adds_of_store_eq (h : s'.world.store = s.world.store.seedAll es) : Adds es s s' :=
  fun key => by rw [h, Store.get?_seedAll]

/-- The same scene, in which no call to come is refused. -/
def unrefused (s : Scene Trial) : Scene Trial :=
  { s with world := { s.world with refusals := [] } }

/-- How an import of a file ends of whose calls one to the store was refused. -/
structure Interrupted (ls : List Listener) (ps : List Pool) (s s' : Scene Trial) (uses : List Use)
    (r : Except ServiceFault Reply) : Prop where
  storage : ∃ cause, r = .error (.storage cause)
  kept : ∀ key text, s.world.store.records.get? key = some text →
    s'.world.store.records.get? key = some text
  /-- The sections that it got through are those looked up before the last one. -/
  added : ∃ part, part <+: storedSections ls ps ∧
    uses.countP (·.1.isLookup) = part.length + 1 ∧ Adds part s s'
  file_eq : s'.world.file = s.world.file
  unrendered : ∀ u ∈ uses, u.1.isRendering = false ∧ u.1 ≠ .reload

/-- How an import of a file ends when it is made with nothing refused, and how
when it is made again after it was broken off. -/
structure Resumed (template : Template) (ls : List Listener) (ps : List Pool)
    (s s' : Scene Trial) (whole again : Except ServiceFault Reply × Scene Trial) : Prop where
  whole_eq : whole = perform ((service template).answer .importConfig) (unrefused s)
  again_eq : again = perform ((service template).answer .importConfig) (unrefused s')
  whole_ok : ∃ summary, whole.1 = .ok (.imported summary)
  again_ok : ∃ summary, again.1 = .ok (.imported summary)
  whole_adds : Adds (storedSections ls ps) s whole.2
  same_store : again.2.world.store = whole.2.world.store

theorem resumed_of_store_eq {text : String} {ls : List Listener} {ps : List Pool}
    (hs : s.world.store.Canonical) (hfile : s.world.file = some text)
    (hread : ConfigFile.read text = .ok (ls, ps)) (hfile' : s'.world.file = s.world.file)
    (hes : es <+: storedSections ls ps) (hstore : s'.world.store = s.world.store.seedAll es) :
    ∃ whole again, Resumed template ls ps s s' whole again := by
  have hs' : s'.world.store.Canonical := hstore ▸ hs.seedAll es
  obtain ⟨whole, hwhole⟩ :
      ∃ p, p = perform ((service template).answer .importConfig) (unrefused s) := ⟨_, rfl⟩
  obtain ⟨again, hagain⟩ :
      ∃ p, p = perform ((service template).answer .importConfig) (unrefused s') := ⟨_, rfl⟩
  obtain ⟨summary, hok, -, hwholeStore⟩ :=
    imported_of_perform (s := unrefused s) hs ⟨rfl, rfl⟩ hfile hread
      (hwhole.symm.trans Prod.mk.eta.symm)
  obtain ⟨summary', hok', -, hagainStore⟩ :=
    imported_of_perform (s := unrefused s') hs' ⟨rfl, rfl⟩ (hfile'.trans hfile) hread
      (hagain.symm.trans Prod.mk.eta.symm)
  refine ⟨whole, again, hwhole, hagain, ⟨summary, hok⟩, ⟨summary', hok'⟩,
    adds_of_store_eq hwholeStore, ?_⟩
  rw [hagainStore, hwholeStore, hstore, Store.seedAll_of_prefix hes]

/-- **An import that is broken off can be made again.** In a run, where any port
calls may be refused and whatever the file holds: if a read or a write of the
store is refused, the import fails with a fault of the storage, and what it has
added is what the sections up to there add, in the order in which it goes through
them. What was there stays, and nothing is rendered or reloaded. When the same
file is then imported with nothing refused, the store ends as if this had been
done at once. -/
theorem import_of_refused (template : Template) {s s' : Scene Trial}
    {r : Except ServiceFault Reply} (hs : Reachable (fun _ => True) s)
    (h : perform ((service template).answer .importConfig) s = (r, s')) :
    ∃ uses, s'.world.log = uses.reverse ++ s.world.log ∧
      ((∃ u ∈ uses, u.1.isStore = true ∧ u.2 = false) →
        ∃ text ls ps, s.world.file = some text ∧ ConfigFile.read text = .ok (ls, ps) ∧
          Interrupted ls ps s s' uses r ∧
            ∃ whole again, Resumed template ls ps s s' whole again) := by
  have hcanonical := (consists_of_run hs).canonical
  obtain ⟨x, hx, rfl⟩ := perform_bind_pure h
  rcases importConfig_course hcanonical hx with
    ⟨uses, events, rfl, hthrough⟩ | ⟨text, ls, ps, fault, hfile, hread, rfl, hstopped⟩
  · refine ⟨uses, log_replay s.world uses, ?_⟩
    rintro ⟨u, hu, hstore, hrefused⟩
    rw [hthrough u hu hstore] at hrefused
    cases hrefused
  · obtain ⟨⟨cause, rfl⟩, part, hpart, uses, events, rfl, hmade⟩ := hstopped
    have hfile' := (importConfig_seeded hx).file_eq
    have hadds : Adds part s (s.after uses events) := adds_of_store_eq hmade.store_eq
    refine ⟨uses, log_replay s.world uses, fun _ => ⟨text, ls, ps, hfile, hread, ?_, ?_⟩⟩
    · refine ⟨⟨cause, rfl⟩, fun key text hkept => ?_, ⟨part, hpart, hmade.lookups, hadds⟩, hfile',
        fun u hu => PortUse.isSeeding_iff.mp (hmade.seeding u hu)⟩
      rw [hadds key, hkept]
      rfl
    · exact resumed_of_store_eq hcanonical hfile hread hfile' hpart hmade.store_eq

/-- Of the four sections the write of the third will be refused. -/
def crowdedOut : Trial where
  file := some crowded
  refusals := List.replicate 5 false ++ [true]

theorem import_of_refused_crowdedOut :
    ∃ broken whole again uses ls ps,
      broken = perform ((service .default).answer .importConfig) ⟨crowdedOut, []⟩ ∧
      broken.2.world.log = uses.reverse ∧ (∃ u ∈ uses, u.1.isStore = true ∧ u.2 = false) ∧
      Interrupted ls ps ⟨crowdedOut, []⟩ broken.2 uses broken.1 ∧
      broken.2.world.store.records.entries.map (·.1) = ["listener/a_b"] ∧
      Resumed .default ls ps ⟨crowdedOut, []⟩ broken.2 whole again ∧
      again.2.world.store.records.entries.map (·.1) = ["listener/a_b", "pool/a_b", "pool/web"] := by
  obtain ⟨broken, hbroken⟩ :
      ∃ p, p = perform ((service .default).answer .importConfig) ⟨crowdedOut, []⟩ := ⟨_, rfl⟩
  have hends : broken.2.world.log.any (fun u => u.1.isStore && !u.2) = true ∧
      broken.2.world.store.records.entries.map (·.1) = ["listener/a_b"] ∧
      (perform ((service .default).answer .importConfig)
        (unrefused broken.2)).2.world.store.records.entries.map (·.1) =
          ["listener/a_b", "pool/a_b", "pool/web"] := by
    rw [hbroken]
    decide +kernel
  obtain ⟨hrefused, hkeys, hkeys'⟩ := hends
  obtain ⟨uses, hlog, hends⟩ := import_of_refused .default (s := ⟨crowdedOut, []⟩)
    (.start rfl) (hbroken.symm.trans Prod.mk.eta.symm)
  have hlog' : broken.2.world.log = uses.reverse := hlog.trans (List.append_nil _)
  have hstore : ∃ u ∈ uses, u.1.isStore = true ∧ u.2 = false := by
    simpa [hlog'] using hrefused
  obtain ⟨text, ls, ps, -, -, hinterrupted, whole, again, hresumed⟩ := hends hstore
  refine ⟨broken, whole, again, uses, ls, ps, hbroken, hlog', hstore, hinterrupted, hkeys,
    hresumed, ?_⟩
  rw [hresumed.again_eq]
  exact hkeys'

end Trial

end ProxySync
