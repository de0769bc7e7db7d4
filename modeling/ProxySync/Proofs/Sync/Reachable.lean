import ProxySync.Proofs.Store.Consists
import ProxySync.Proofs.Sync.Ensures
import ProxySync.Proofs.Sync.InSync

/-!
# What can be stored

A run starts from an empty store, and between its calls the configuration
file may be changed by others. Whatever is stored in its course is the
encoding of an entity with a name in stored form, under the key of that
entity (`Store.Consists`): a call writes nothing else, and what it takes back
was there before. What more is true of the entities depends on what a change
lets through and on the files that are imported (`consists_of_reachable`).
-/

namespace ProxySync

open ConfigFile Act

namespace Trial

variable {template : Template} {q : Entity → Prop}

/-! ## What a call keeps -/

/-- What is stored in a scene are entities of the sort `q`. -/
def Stores (q : Entity → Prop) (s : Scene Trial) : Prop := s.world.store.Consists q

theorem Untouched.stores {s s' : Scene Trial} (h : Untouched s s') (hs : Stores q s) :
    Stores q s' := by
  unfold Stores
  rwa [h.1]

/-- Of a synchronization only the undoing can change the store. -/
theorem Synchronization.store_replay {store : Store} {undo : PortUse}
    {r : Except ServiceFault Unit} {uses : List Use} {events : List Event}
    (h : Synchronization template store undo r uses events) (t : Trial) :
    (t.replay uses).store = t.store ∨ (t.replay uses).store = undo.onStore t.store := by
  cases h with
  | synchronized hr =>
      rw [replay_append]
      exact Or.inl (hr.store_replay t)
  | renderingUndone hr =>
      rw [replay_append]
      exact Or.inr (congrArg undo.onStore (hr.store_replay t))
  | renderingStuck hr rollback =>
      rw [replay_append]
      exact Or.inl (hr.store_replay t)
  | reloadUndone hr fault hr' =>
      rw [replay_append, replay_append, hr'.store_replay]
      exact Or.inr (congrArg undo.onStore (hr.store_replay t))
  | reloadStuck hr fault rollback =>
      rw [replay_append]
      exact Or.inl (hr.store_replay t)

/-- A write to the store that entities of the sort `q` survive. -/
def Harmless (q : Entity → Prop) (use : PortUse) : Prop :=
  ∀ store : Store, store.Consists q → (use.onStore store).Consists q

theorem keeps_write {write : Act Trial StoreFault Unit} {use : PortUse}
    (hwrite : Performs write use) (huse : Harmless q use) :
    Keeps (Stores q) (blaming ServiceFault.storage write) := by
  refine Leads.blaming (leads_of_perform fun s r s' hs hact => ?_)
  rcases hwrite hact with ⟨fault, -, rfl⟩ | ⟨-, rfl⟩
  · exact hs
  · exact huse s.world.store hs

theorem keeps_synchronize {undo : Act Trial StoreFault Unit} {use : PortUse}
    (hundo : Performs undo use) (huse : Harmless q use) :
    Keeps (Stores q) ((service template).synchronize undo) := by
  refine leads_of_perform fun s r s' hs hsync => ?_
  obtain ⟨uses, events, rfl, htrace⟩ := synchronize_trace hundo hsync
  change (s.world.replay uses).store.Consists q
  rcases htrace.store_replay s.world with hstore | hstore
  · rwa [hstore]
  · rw [hstore]
    exact huse s.world.store hs

section Records

variable {α : Type} [Record α] [EntityRecord α]

theorem harmless_put {a : α} (hname : IsStoredName (Record.name a))
    (ha : q (EntityRecord.entity a)) :
    Harmless q (.put (Record.kind α) (Record.name a) (Record.text a)) :=
  fun _ hs => hs.put hname ha

theorem harmless_remove (k : Kind) (name : String) : Harmless q (.remove k name) :=
  fun _ hs => hs.remove k name

/-- What a look-up has found can be put back. -/
theorem ensures_get (name : String) :
    Ensures (Stores q) ((service template).get α name)
      (fun found s => Stores q s ∧ ∀ a, found = some a →
        Record.name a = name ∧ IsStoredName name ∧ q (EntityRecord.entity a))
      fun _ => Stores q := by
  intro s r s' hs hget
  obtain ⟨huntouched, hfound⟩ := get_untouched hget
  cases r with
  | error fault => exact huntouched.stores hs
  | ok found =>
      refine ⟨huntouched.stores hs, fun a ha => ?_⟩
      exact Store.Consists.of_get? hs (ha ▸ hfound found rfl)

theorem keeps_saveAs {a : α} (hname : IsStoredName (Record.name a))
    (ha : Record.brokenField? a = none → q (EntityRecord.entity a)) :
    Keeps (Stores q) ((service template).saveAs a) := by
  unfold Service.saveAs
  split
  · exact keeps_throw _
  next hwhole =>
  refine Ensures.bind (ensures_get _) fun previous => ensures_of_and fun hprevious => ?_
  refine (keeps_write (performs_store a) (harmless_put hname (ha hwhole))).bind fun _ => ?_
  cases previous with
  | none =>
      have hundo := harmless_remove (q := q) (Record.kind α) (Record.name a)
      exact (keeps_synchronize (performs_discard _) hundo).bind fun _ => keeps_pure _
  | some old =>
      obtain ⟨hold, -, hq⟩ := hprevious old rfl
      have hundo := harmless_put (hold ▸ hname) hq
      exact (keeps_synchronize (performs_store old) hundo).bind fun _ => keeps_pure _

variable (hvalid : ∀ a : α, Record.brokenField? a = none → q (EntityRecord.entity a))

include hvalid in
theorem keeps_save (a : α) : Keeps (Stores q) ((service template).save a) := by
  refine Leads.counted ?_ fun _ _ hs => hs
  refine Ensures.bind (ensures_normalize _ fun _ hs => hs) fun name => ?_
  refine ensures_of_and fun hnormal => ?_
  have hname : IsStoredName (Record.name (Record.rename name a)) := by
    rw [LawfulRecord.name_rename]
    exact isStoredName_of_normalName? hnormal
  exact keeps_saveAs hname (hvalid _)

include hvalid in
theorem keeps_merge (name : String) (patch : Json) :
    Keeps (Stores q) ((service template).merge α name patch) := by
  refine Leads.counted ?_ fun _ _ hs => hs
  refine Ensures.bind (ensures_get _) fun found => ensures_of_and fun hfound => ?_
  cases found with
  | none => exact keeps_throw _
  | some current =>
      obtain ⟨hcurrent, hname, -⟩ := hfound current rfl
      dsimp only
      split
      · exact keeps_throw _
      · next merged hmerged =>
        have hkept : Record.name merged = name := (name_of_patched hmerged).trans hcurrent
        exact (keeps_saveAs (hkept ▸ hname) (hvalid merged)).bind fun _ => keeps_pure _

theorem keeps_delete (name : String) : Keeps (Stores q) ((service template).delete α name) := by
  refine Leads.counted ?_ fun _ _ hs => hs
  refine (keeps_normalize _).bind fun name => ?_
  refine Ensures.bind (ensures_get _) fun found => ensures_of_and fun hfound => ?_
  cases found with
  | none => exact keeps_throw _
  | some previous =>
      obtain ⟨hprevious, hname, hq⟩ := hfound previous rfl
      refine (keeps_write (performs_discard name) (harmless_remove _ _)).bind fun _ => ?_
      exact keeps_synchronize (performs_store previous) (harmless_put (hprevious ▸ hname) hq)

end Records

/-! ## What an import keeps -/

section Import

variable {α : Type} [Record α] [EntityRecord α]

/-- Under its normal name the entity is of the sort `q`. -/
def Seedable (q : Entity → Prop) (a : α) : Prop :=
  ∀ name, normalName? (Record.name a) = some name →
    q (EntityRecord.entity (Record.rename name a))

theorem keeps_importOne_stores {a : α} (ha : Seedable q a) :
    Keeps (Stores q) ((service template).importOne a) := by
  unfold Service.importOne
  refine Ensures.bind (ensures_normalize _ fun _ hs => hs) fun name => ?_
  refine ensures_of_and fun hnormal => ?_
  refine Ensures.bind (ensures_get name) fun found => ensures_of_and fun _ => ?_
  split
  · exact keeps_pure false
  · have hname : IsStoredName (Record.name (Record.rename name a)) := by
      rw [LawfulRecord.name_rename]
      exact isStoredName_of_normalName? hnormal
    have hwrite := harmless_put hname (ha name hnormal)
    exact (keeps_write (performs_store _) hwrite).bind fun _ => keeps_pure true

end Import

/-- A file of which all entities are of the sort `q` once they are stored. -/
def SeedsOnly (q : Entity → Prop) (text : String) : Prop :=
  ∀ listeners pools, ConfigFile.read text = .ok (listeners, pools) →
    (∀ l ∈ listeners, Seedable q l) ∧ ∀ p ∈ pools, Seedable q p

theorem leads_importConfig :
    Leads (fun s => Stores q s ∧ ∀ text, s.world.file = some text → SeedsOnly q text)
      (service template).importConfig (Stores q) := by
  have hread : Ensures
      (fun s => Stores q s ∧ ∀ text, s.world.file = some text → SeedsOnly q text)
      (blaming ServiceFault.noImport (ask ports.readConfig))
      (fun text s => Stores q s ∧ SeedsOnly q text) fun _ => Stores q := by
    refine Ensures.blaming fun s r s' ⟨hs, hfile⟩ hact => ?_
    rcases ask_readConfig hact with ⟨fault, rfl, rfl⟩ | ⟨text, htext, rfl, rfl⟩
    · exact hs
    · exact ⟨hs, hfile text htext⟩
  unfold Service.importConfig
  refine Ensures.bind hread fun text => ensures_of_and fun hseeds => ?_
  split
  · exact keeps_throw _
  · next listeners pools hok =>
    obtain ⟨hlisteners, hpools⟩ := hseeds listeners pools hok
    refine (keeps_importAll fun l hl => keeps_importOne_stores (hlisteners l hl)).bind fun _ => ?_
    exact (keeps_importAll fun p hp => keeps_importOne_stores (hpools p hp)).bind fun _ =>
      keeps_pure _

/-! ## Runs -/

variable {c : Call} {imported : String → Prop} {s : Scene Trial}

theorem keeps_change (hvalid : ∀ e : Entity, e.brokenField? = none → q e)
    (hc : c.isChange = true) : Keeps (Stores q) ((service template).answer c) := by
  have hlistener (l : Listener) : Record.brokenField? l = none → q (.listener l) :=
    hvalid (.listener l)
  have hpool (p : Pool) : Record.brokenField? p = none → q (.pool p) := hvalid (.pool p)
  cases c with
  | save e =>
      cases e with
      | listener l => exact (keeps_save hlistener l).bind fun _ => keeps_pure _
      | pool p => exact (keeps_save hpool p).bind fun _ => keeps_pure _
  | merge k name patch =>
      cases k with
      | frontend => exact (keeps_merge hlistener name patch).bind fun _ => keeps_pure _
      | backend => exact (keeps_merge hpool name patch).bind fun _ => keeps_pure _
  | delete k name =>
      cases k with
      | frontend => exact (keeps_delete name).bind fun _ => keeps_pure _
      | backend => exact (keeps_delete name).bind fun _ => keeps_pure _
  | _ => cases hc

/-- **No call stores anything but entities of the sort `q`**, when these
include all that a change lets through and all that there is to import. -/
theorem leads_answer (hvalid : ∀ e : Entity, e.brokenField? = none → q e) :
    Leads (fun s => Stores q s ∧
        (c = .importConfig → ∀ text, s.world.file = some text → SeedsOnly q text))
      ((service template).answer c) (Stores q) := by
  refine leads_of_perform fun s r s' ⟨hs, hfile⟩ h => ?_
  cases hc : c.isChange with
  | true => exact (keeps_change hvalid hc).perform hs h
  | false =>
      rcases (seeded_of_not_change hc h).2 with rfl | huntouched
      · exact (leads_importConfig.bind fun _ => keeps_pure _).perform ⟨hs, hfile rfl⟩ h
      · exact huntouched.stores hs

/-- The scenes of runs in which only `imported` files are imported. Between
two calls everything but the store may change: the template, the file, and
which port calls will be refused. -/
inductive Reachable (imported : String → Prop) : Scene Trial → Prop where
  | start {s : Scene Trial} (h : s.world.store = .empty) : Reachable imported s
  | call {s : Scene Trial} (h : Reachable imported s) (template : Template) (c : Call)
      (hfile : c = .importConfig → ∀ text, s.world.file = some text → imported text) :
      Reachable imported (perform ((service template).answer c) s).2
  | outside {s s' : Scene Trial} (h : Reachable imported s)
      (hstore : s'.world.store = s.world.store) : Reachable imported s'

/-- **What holds of all that a change lets through, and of all that is imported,
holds of all that is stored.** -/
theorem consists_of_reachable (hvalid : ∀ e : Entity, e.brokenField? = none → q e)
    (himported : ∀ text, imported text → SeedsOnly q text) (h : Reachable imported s) :
    s.world.store.Consists q := by
  induction h with
  | start h =>
      rw [h]
      exact Store.consists_empty
  | @call s _ template c hfile ih =>
      have hpre : Stores q s ∧
          (c = .importConfig → ∀ text, s.world.file = some text → SeedsOnly q text) :=
        ⟨ih, fun hc text htext => himported text (hfile hc text htext)⟩
      exact (leads_answer hvalid).perform hpre Prod.mk.eta.symm
  | outside _ hstore ih => rwa [hstore]

/-- All calls of a run are reachable, whatever is imported. -/
theorem Reachable.answerAll (h : Reachable (fun _ => True) s) (template : Template)
    (calls : List Call) :
    Reachable (fun _ => True) ((service template).answerAll calls s).2 := by
  induction calls generalizing s with
  | nil => exact h
  | cons c calls ih => exact ih (h.call template c fun _ _ _ => trivial)

/-- **Every record is in its place and reads back.** In a run from an empty
store, with any port calls refused, any names and patches, and any imported
files: a record is the encoding of the entity it decodes to, under the key of
that entity, whose name is not empty and has no space. So reading the store
never fails, and under a name with a space nothing is found. -/
theorem record_of_reachable (h : Reachable imported s) :
    (∀ key text, s.world.store.records.get? key = some text →
        ∃ e : Entity, Entity.ofText e.kind text = .ok e ∧ text = e.text ∧
          key = e.kind.key e.name ∧ e.name ≠ "" ∧ ' ' ∉ e.name.toList) ∧
      s.world.store.Readable Listener ∧ s.world.store.Readable Pool := by
  have hconsists : s.world.store.Consists fun _ => True :=
    consists_of_reachable (fun _ _ => trivial)
      (fun _ _ _ _ _ => ⟨fun _ _ _ _ => trivial, fun _ _ _ _ => trivial⟩) h
  refine ⟨fun key text htext => ?_, hconsists.readable, hconsists.readable⟩
  obtain ⟨e, rfl, rfl, hname, -⟩ := hconsists key text htext
  exact ⟨e, e.ofText_text, rfl, rfl, hname.1, hname.2⟩

/-- The file names a listener with a space. Of the calls after its import, the
change at first, the sixth and the seventh will be refused: the change is
neither rendered nor taken back. -/
def straying : Trial where
  file := some "frontend a b\n  bind *:80\n"
  refusals := List.replicate 5 false ++ [true, true]

def strayingCalls : List Call :=
  [.importConfig, .save (.listener { name := "web 1" }),
    .merge .frontend "web_1" (.object [("name", .string "x y"), ("bind", .string "*:443")])]

theorem record_of_reachable_straying :
    let s := ((service .default).answerAll strayingCalls ⟨straying, []⟩).2
    Reachable (fun _ => True) s ∧
      s.world.store.records.entries.map (·.1) = ["listener/a_b", "listener/web_1"] ∧
      (∃ e : Entity, s.world.store.records.get? "listener/web_1" = some e.text ∧
        Entity.ofText e.kind e.text = .ok e ∧ e.kind.key e.name = "listener/web_1") ∧
      s.world.store.get? "web 1" = .ok (none : Option Listener) := by
  intro s
  have hreachable : Reachable (fun _ => True) s := (Reachable.start rfl).answerAll _ _
  obtain ⟨hrecords, hlisteners, -⟩ := record_of_reachable hreachable
  have hkeys : s.world.store.records.entries.map (·.1) = ["listener/a_b", "listener/web_1"] := by
    decide +kernel
  have hmem : "listener/web_1" ∈ s.world.store.records.entries.map (·.1) := by
    rw [hkeys]
    exact List.mem_cons_of_mem _ List.mem_cons_self
  obtain ⟨⟨key, text⟩, hentry, hkey⟩ := List.mem_map.mp hmem
  obtain rfl : key = "listener/web_1" := hkey
  have htext := Dict.mem_entries_iff.mp hentry
  obtain ⟨e, hread, rfl, hplace, -⟩ := hrecords _ _ htext
  obtain ⟨found, hfound, hnone⟩ := hlisteners.get "web 1"
  obtain rfl := hnone (by decide)
  exact ⟨hreachable, hkeys, ⟨e, htext, hread, hplace.symm⟩, hfound⟩

end Trial

end ProxySync
