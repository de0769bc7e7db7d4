import ProxySync.Proofs.Sync.Breaking
import ProxySync.Proofs.Sync.CallRecord

/-!
# What a failed change is blamed on

The same refusal of a port means different things at different places of a
change. From the log of a change one can tell where it was struck: its first
write to the store is the change itself, a second one takes the change back
(`writes`), and what fails between the two has broken the synchronization off
(`brokenBy?`). The fault that is reported is decided by these alone, and no
later failure takes the place of the one that came first (`answer_blamed`).
-/

namespace ProxySync

open ConfigFile Act

/-- A record of this kind and name, if there is one, reads as an entity of
this name. -/
def Store.Reads (s : Store) (k : Kind) (name : String) : Prop :=
  ∀ text, s.text? k name = some text → ∃ e, Entity.ofText k text = .ok e ∧ e.name = name

theorem Store.Reads.get? {α : Type} [Record α] [EntityRecord α] {s : Store} {name : String}
    (h : s.Reads (Record.kind α) name) :
    ∃ found : Option α, s.get? name = .ok found ∧ ∀ a, found = some a → Record.name a = name := by
  cases htext : s.text? (Record.kind α) name with
  | none => exact ⟨none, get?_of_none htext, nofun⟩
  | some text =>
      obtain ⟨e, hread, hname⟩ := h text htext
      rw [EntityRecord.ofText_entity] at hread
      cases ha : (Record.ofText text : Except Json.Fault α) with
      | error fault => rw [ha] at hread; cases hread
      | ok a =>
          rw [ha] at hread
          obtain rfl := Except.ok.inj hread
          refine ⟨some a, ?_, fun b hb => ?_⟩
          · rw [get?_of_some htext, decodeRecordText, ha]
            rfl
          · obtain rfl := Option.some.inj hb
            exact (EntityRecord.name_entity a).symm.trans hname

namespace Trial

/-! ## What can be read off a log -/

/-- Which of the writes to the store went through, in the order in which they
were made. -/
def writes (uses : List Use) : List Bool := (uses.filter (·.1.isWrite)).map (·.2)

/-- Why the synchronization after the first write broke off, if it did: the
first failure before the next write, in the store with the first one done. -/
def brokenBy? (store : Store) (uses : List Use) : Option SyncFailure :=
  match uses.dropWhile (!·.1.isWrite) with
  | [] => none
  | (edit, _) :: later =>
    (later.takeWhile (!·.1.isWrite)).findSome? (failure? (edit.onStore store))

/-- All calls are look-ups that went through. -/
def Looked (uses : List Use) : Prop := ∀ u ∈ uses, u.1.isLookup = true ∧ u.2 = true

/-- All look-ups among the calls went through. -/
def LooksThrough (uses : List Use) : Prop := ∀ k name, (.lookup k name, false) ∉ uses

variable {template : Template} {store : Store} {s s' s₀ : Scene Trial} {uses later : List Use}
  {k : Kind} {name : String}

theorem Looked.writeless (h : Looked uses) : Writeless uses := fun u hu =>
  (PortUse.sort_of_isLookup (h u hu).1).1

@[simp] theorem writes_nil : writes [] = [] := rfl

theorem writes_append (uses later : List Use) :
    writes (uses ++ later) = writes uses ++ writes later := by
  rw [writes, List.filter_append, List.map_append]
  rfl

theorem Writeless.writes_eq (h : Writeless uses) : writes uses = [] := by
  rw [writes, List.filter_eq_nil_iff.mpr fun u hu => by rw [h u hu]; exact Bool.false_ne_true]
  rfl

theorem writes_cons {edit : PortUse} (hedit : edit.isWrite = true) (b : Bool) (later : List Use) :
    writes ((edit, b) :: later) = b :: writes later := by
  rw [writes, List.filter_cons, if_pos hedit]
  rfl

theorem Writeless.dropWhile_append (h : Writeless uses) (later : List Use) :
    (uses ++ later).dropWhile (!·.1.isWrite) = later.dropWhile (!·.1.isWrite) :=
  List.dropWhile_append_of_pos fun u hu => by rw [h u hu]; rfl

theorem Writeless.takeWhile_append (h : Writeless uses) (later : List Use) :
    (uses ++ later).takeWhile (!·.1.isWrite) = uses ++ later.takeWhile (!·.1.isWrite) :=
  List.takeWhile_append_of_pos fun u hu => by rw [h u hu]; rfl

theorem Writeless.brokenBy?_eq (h : Writeless uses) : brokenBy? store uses = none := by
  have hnil := h.dropWhile_append []
  rw [List.append_nil] at hnil
  rw [brokenBy?, hnil]
  rfl

theorem Writeless.brokenBy?_append (h : Writeless uses) {edit : PortUse}
    (hedit : edit.isWrite = true) (b : Bool) (later : List Use) :
    brokenBy? store (uses ++ (edit, b) :: later) =
      (later.takeWhile (!·.1.isWrite)).findSome? (failure? (edit.onStore store)) := by
  have hdrop : (uses ++ (edit, b) :: later).dropWhile (!·.1.isWrite) = (edit, b) :: later := by
    rw [h.dropWhile_append, List.dropWhile_cons, if_neg (by simp [hedit])]
  rw [brokenBy?, hdrop]

/-! ## Changes -/

/-- How a change of `store` ends: turned down after its look-ups, stopped by
a look-up or by the first write, or synchronized after that write. -/
inductive Verdict (store : Store) : Except ServiceFault Unit → List Use → Prop where
  | declined {fault : ServiceFault} (hfault : fault.kind = .badData ∨ fault.kind = .notFound)
      {reads : List Use} (hreads : Looked reads) : Verdict store (.error fault) reads
  | unread (cause : StoreFault) {reads : List Use} (hreads : Looked reads) (k : Kind)
      (name : String) :
      Verdict store (.error (.storage cause)) (reads ++ [(.lookup k name, false)])
  | unwritten (cause : StoreFault) {reads : List Use} (hreads : Looked reads) {edit : PortUse}
      (hedit : edit.isWrite = true) :
      Verdict store (.error (.storage cause)) (reads ++ [(edit, false)])
  | written {reads : List Use} (hreads : Looked reads) {edit : PortUse}
      (hedit : edit.isWrite = true) {r : Except ServiceFault Unit} {uses : List Use}
      (hends : Ending (edit.onStore store) r uses) :
      Verdict store r (reads ++ (edit, true) :: uses)

/-- From `s₀` on, the step ends a change of which only look-ups were made. -/
def Judged {α : Type} (s₀ : Scene Trial) (act : Act Trial ServiceFault α) : Prop :=
  Ensures (Made Looked s₀) act (fun _ => Made (Verdict s₀.world.store (.ok ())) s₀)
    fun fault => Made (Verdict s₀.world.store (.error fault)) s₀

section Judged

variable {α β : Type}

theorem Made.declined {s : Scene Trial} {fault : ServiceFault} (h : Made Looked s₀ s)
    (hfault : fault.kind = .badData ∨ fault.kind = .notFound) :
    Made (Verdict s₀.world.store (.error fault)) s₀ s := by
  obtain ⟨uses, events, hs, hreads⟩ := h
  exact ⟨uses, events, hs, .declined hfault hreads⟩

theorem ensures_declined {post : α → Scene Trial → Prop} {fault : ServiceFault}
    (h : fault.kind = .badData ∨ fault.kind = .notFound) :
    Ensures (Made Looked s₀) (throw fault) post
      fun fault => Made (Verdict s₀.world.store (.error fault)) s₀ :=
  ensures_throw fun _ hlooked => hlooked.declined h

theorem Judged.bind_pure {act : Act Trial ServiceFault α} (h : Judged s₀ act) (f : α → β) :
    Judged s₀ (act >>= fun a => pure (f a)) :=
  Ensures.bind h fun _ => ensures_pure fun _ hmade => hmade

theorem Judged.counted {k : Kind} {op : Operation} {act : Act Trial ServiceFault α}
    (h : Judged s₀ act) : Judged s₀ (Service.counted k op act) :=
  Ensures.counted h (fun _ _ e hmade => hmade.count e) fun _ _ e hmade => hmade.count e

theorem ensures_normalName (name : String) :
    Ensures (Made Looked s₀) (Service.normalize name)
      (fun normal s => Made Looked s₀ s ∧ normalName? name = some normal)
      fun fault => Made (Verdict s₀.world.store (.error fault)) s₀ :=
  ensures_normalize name fun _ hlooked => hlooked.declined (.inl rfl)

/-- The first write went through, after look-ups. -/
def Edited (edit : PortUse) (uses : List Use) : Prop :=
  ∃ reads, uses = reads ++ [(edit, true)] ∧ Looked reads

theorem Looked.store_replay_edit {reads : List Use} (h : Looked reads) (t : Trial)
    (edit : PortUse) : (t.replay (reads ++ [(edit, true)])).store = edit.onStore t.store := by
  rw [replay_append, ← h.writeless.store_replay t]
  rfl

theorem ensures_edit {write : Act Trial StoreFault Unit} {edit : PortUse}
    (hwrite : Writing write edit) :
    Ensures (Made Looked s₀) (blaming .storage write) (fun _ => Made (Edited edit) s₀)
      fun fault => Made (Verdict s₀.world.store (.error fault)) s₀ := by
  refine Ensures.blaming fun s r s' hlooked hact => ?_
  rcases hwrite.asked hact with ⟨-, rfl, rfl⟩ | ⟨-, rfl, rfl⟩
  · exact hlooked.after [] fun reads hreads => .unwritten _ hreads hwrite.isWrite
  · have hedited (reads : List Use) (hreads : Looked reads) :
        Edited edit (reads ++ [(edit, true)]) :=
      ⟨reads, rfl, hreads⟩
    exact hlooked.after [] hedited

theorem ensures_synchronize {undo : Act Trial StoreFault Unit} {edit undoUse : PortUse}
    (hundo : Writing undo undoUse) (hedit : edit.isWrite = true) :
    Ensures (Made (Edited edit) s₀) ((service template).synchronize undo)
      (fun _ => Made (Verdict s₀.world.store (.ok ())) s₀)
      fun fault => Made (Verdict s₀.world.store (.error fault)) s₀ := by
  intro s r s' hedited hsync
  obtain ⟨_, events, hs, reads, rfl, hreads⟩ := hedited
  obtain ⟨uses, events', rfl, hends⟩ := synchronize_ending hundo hsync
  have hstore : s.world.store = edit.onStore s₀.world.store := by
    rw [hs]
    exact hreads.store_replay_edit s₀.world edit
  have hverdict : Verdict s₀.world.store r (reads ++ (edit, true) :: uses) :=
    .written hreads hedit (hstore ▸ hends)
  have hmade : Made (Verdict s₀.world.store r) s₀ (s.after uses events') := by
    refine ⟨_, _, hs ▸ Scene.after_after .., ?_⟩
    rwa [List.append_assoc]
  cases r with
  | ok _ => exact hmade
  | error fault => exact hmade

variable [Record α]

theorem kind_of_patched {current : α} {patch : Json} {fault : ServiceFault}
    (h : patched current patch = .error fault) : fault.kind = .badData := by
  unfold patched at h
  split at h
  · split at h
    · cases h
    · obtain rfl := Except.error.inj h
      rfl
  · obtain rfl := Except.error.inj h
    rfl

variable [EntityRecord α]

theorem ensures_get_reads {name : String} (hs : s₀.world.store.Reads (Record.kind α) name) :
    Ensures (Made Looked s₀) ((service template).get α name)
      (fun found s => Made Looked s₀ s ∧ ∀ a, found = some a → Record.name a = name)
      fun fault => Made (Verdict s₀.world.store (.error fault)) s₀ := by
  refine Ensures.blaming fun s r s' hlooked hact => ?_
  have hstore : s.world.store = s₀.world.store := by
    obtain ⟨reads, events, rfl, hreads⟩ := hlooked
    exact hreads.writeless.store_replay s₀.world
  obtain ⟨found, hget, hname⟩ := hs.get?
  rcases lookup_trace hact with ⟨cause, rfl, rfl⟩ | ⟨rfl, rfl⟩
  · exact hlooked.after [] fun reads hreads => .unread cause hreads _ name
  · rw [hstore, hget]
    refine ⟨hlooked.after [] fun reads hreads => ?_, hname⟩
    exact List.forall_mem_append.mpr ⟨hreads, List.forall_mem_singleton.mpr ⟨rfl, rfl⟩⟩

theorem judged_saveAs {a : α} (hs : s₀.world.store.Reads (Record.kind α) (Record.name a)) :
    Judged s₀ ((service template).saveAs a) := by
  unfold Service.saveAs
  split
  · exact ensures_declined (.inl rfl)
  refine Ensures.bind (ensures_get_reads hs) fun previous => ensures_of_and fun _ => ?_
  refine Ensures.bind (ensures_edit (writing_store a)) fun _ => ?_
  cases previous with
  | none =>
      have hundo : Writing ((service template).discard α (Record.name a)) _ := writing_discard _
      exact (ensures_synchronize hundo rfl).bind fun _ => ensures_pure fun _ hmade => hmade
  | some old =>
      have hundo : Writing ((service template).store old) _ := writing_store old
      exact (ensures_synchronize hundo rfl).bind fun _ => ensures_pure fun _ hmade => hmade

theorem judged_save {a : α}
    (hs : ∀ normal, normalName? (Record.name a) = some normal →
      s₀.world.store.Reads (Record.kind α) normal) :
    Judged s₀ ((service template).save a) := by
  refine .counted (Ensures.bind (ensures_normalName _) fun name => ensures_of_and fun hname => ?_)
  refine judged_saveAs ?_
  rw [LawfulRecord.name_rename]
  exact hs name hname

theorem judged_merge {name : String} (patch : Json)
    (hs : s₀.world.store.Reads (Record.kind α) name) :
    Judged s₀ ((service template).merge α name patch) := by
  refine .counted (Ensures.bind (ensures_get_reads hs) fun found => ensures_of_and fun hfound => ?_)
  cases found with
  | none => exact ensures_declined (.inr rfl)
  | some current =>
      dsimp only
      split
      · next fault hfault => exact ensures_declined (.inl (kind_of_patched hfault))
      · next merged hmerged =>
        have hname : Record.name merged = name :=
          (name_of_patched hmerged).trans (hfound current rfl)
        exact (judged_saveAs (hname ▸ hs)).bind_pure _

theorem judged_delete {name : String}
    (hs : ∀ normal, normalName? name = some normal →
      s₀.world.store.Reads (Record.kind α) normal) :
    Judged s₀ ((service template).delete α name) := by
  refine .counted (Ensures.bind (ensures_normalName _) fun name => ensures_of_and fun hname => ?_)
  refine Ensures.bind (ensures_get_reads (hs name hname)) fun found => ensures_of_and fun _ => ?_
  cases found with
  | none => exact ensures_declined (.inr rfl)
  | some previous =>
      have hwrite : Writing ((service template).discard α name) _ := writing_discard name
      refine Ensures.bind (ensures_edit hwrite) fun _ => ?_
      exact ensures_synchronize (writing_store previous) rfl

end Judged

/-- Every change ends in one of the ways that `Verdict` lists. -/
theorem judged_answer {c : Call} (hc : c.isChange = true)
    (hs : ∀ k name, c.target? = some (k, name) → s₀.world.store.Reads k name) :
    Judged s₀ ((service template).answer c) := by
  cases c with
  | save e =>
      have hreads (normal : String) (hnormal : normalName? e.name = some normal) :
          s₀.world.store.Reads e.kind normal :=
        hs e.kind normal (by rw [Call.target?, hnormal]; rfl)
      obtain ⟨α, _, _, _, a, rfl⟩ := e.exists_record
      rw [EntityRecord.name_entity, EntityRecord.kind_entity] at hreads
      rw [CallRecord.answer_save]
      exact (judged_save hreads).bind_pure _
  | merge k name patch =>
      obtain ⟨α, _, _, _, rfl⟩ := k.exists_record
      rw [CallRecord.answer_merge]
      exact (judged_merge patch (hs _ _ rfl)).bind_pure _
  | delete k name =>
      have hreads (normal : String) (hnormal : normalName? name = some normal) :
          s₀.world.store.Reads k normal :=
        hs k normal (by rw [Call.target?, hnormal]; rfl)
      obtain ⟨α, _, _, _, rfl⟩ := k.exists_record
      rw [CallRecord.answer_delete]
      exact (judged_delete hreads).bind_pure _
  | _ => cases hc

/-! ## Faults told from logs -/

/-- What the port calls of a change of `store` say about its outcome. -/
structure Blamed (store : Store) (uses : List Use) (r : Except ServiceFault Reply) : Prop where
  /-- The first write went through, and nothing failed after it. -/
  ok_iff : (∃ reply, r = .ok reply) ↔ writes uses = [true] ∧ brokenBy? store uses = none
  /-- What the first write was to bring about broke off, and the second write
  took it back. Whether the file could then be restored makes no difference. -/
  sync_iff : ∀ cause, r = .error (.sync cause) ↔
    writes uses = [true, true] ∧ brokenBy? store uses = some cause
  /-- It broke off, and the second write was refused. -/
  outOfSync_iff : ∀ cause rollback, r = .error (.outOfSync cause rollback) ↔
    writes uses = [true, false] ∧ brokenBy? store uses = some cause ∧
      rollback = .engine "write refused"
  /-- A look-up or the first write was refused. -/
  storage_iff : (∃ cause, r = .error (.storage cause)) ↔
    ¬ LooksThrough uses ∨ writes uses = [false]
  /-- All look-ups went through, and nothing was written. -/
  declined_iff : (∃ fault, r = .error fault ∧ (fault.kind = .badData ∨ fault.kind = .notFound)) ↔
    LooksThrough uses ∧ writes uses = []
  /-- What fails after the first write is always among the two reports of it. -/
  broken : ∀ cause, brokenBy? store uses = some cause →
    r = .error (.sync cause) ∨ ∃ rollback, r = .error (.outOfSync cause rollback)

section Told

variable {reads : List Use} {edit undo : PortUse} {r : Except ServiceFault Reply}

theorem Looked.writes_edit (hreads : Looked reads) (hedit : edit.isWrite = true) (b : Bool)
    (later : List Use) : writes (reads ++ (edit, b) :: later) = b :: writes later := by
  rw [writes_append, hreads.writeless.writes_eq, writes_cons hedit]
  rfl

theorem Looked.looksThrough (h : Looked uses) : LooksThrough uses :=
  fun _ _ hu => nomatch (h _ hu).2

theorem Refreshing.looksThrough (h : Refreshing uses) : LooksThrough uses :=
  fun _ _ hu => nomatch h _ hu

theorem LooksThrough.append_write (h : LooksThrough uses) (hedit : edit.isWrite = true) (b : Bool)
    (hlater : LooksThrough later) : LooksThrough (uses ++ (edit, b) :: later) := by
  intro k name hmem
  rcases List.mem_append.mp hmem with hin | hin
  · exact h k name hin
  rcases List.mem_cons.mp hin with heq | hin
  · obtain ⟨rfl, -⟩ := Prod.mk.inj heq
    cases hedit
  · exact hlater k name hin

/-- Up to the second write a synchronization that broke off shows why. -/
theorem Broken.findSome?_takeWhile (h : Broken store cause uses) (hundo : undo.isWrite = true)
    (b : Bool) (later : List Use) :
    ((uses ++ (undo, b) :: later).takeWhile (!·.1.isWrite)).findSome? (failure? store) =
      some cause := by
  rw [h.1.writeless.takeWhile_append, List.takeWhile_cons, if_neg (by simp [hundo])]
  simpa using h.2

theorem Smooth.findSome?_takeWhile (h : Smooth store uses) :
    (uses.takeWhile (!·.1.isWrite)).findSome? (failure? store) = none := by
  have hall := h.1.writeless.takeWhile_append []
  rw [List.append_nil] at hall
  rw [hall]
  simpa using h.2

theorem blamed_declined {fault : ServiceFault}
    (hfault : fault.kind = .badData ∨ fault.kind = .notFound) (hreads : Looked uses) :
    Blamed store uses (.error fault) := by
  have hlookups := hreads.looksThrough
  have hwrites := hreads.writeless.writes_eq
  have hbroken : brokenBy? store uses = none := hreads.writeless.brokenBy?_eq
  have hsync (cause : SyncFailure) : fault ≠ .sync cause := by
    rintro rfl
    cases hfault <;> contradiction
  have hstuck (cause : SyncFailure) (rollback : StoreFault) :
      fault ≠ .outOfSync cause rollback := by
    rintro rfl
    cases hfault <;> contradiction
  have hstorage (cause : StoreFault) : fault ≠ .storage cause := by
    rintro rfl
    cases hfault <;> contradiction
  constructor <;> simp [hlookups, hwrites, hbroken, hfault, hsync, hstuck, hstorage]

theorem blamed_unread (cause : StoreFault) (hreads : Looked reads) :
    Blamed store (reads ++ [(.lookup k name, false)]) (.error (.storage cause)) := by
  have hwriteless : Writeless (reads ++ [(.lookup k name, false)]) :=
    List.forall_mem_append.mpr ⟨hreads.writeless, List.forall_mem_singleton.mpr rfl⟩
  have hwrites := hwriteless.writes_eq
  have hbroken : brokenBy? store (reads ++ [(.lookup k name, false)]) = none :=
    hwriteless.brokenBy?_eq
  have hlookups : ¬ LooksThrough (reads ++ [(.lookup k name, false)]) :=
    fun hall => hall k name List.mem_concat_self
  generalize reads ++ [(.lookup k name, false)] = uses at *
  constructor <;> simp [hwrites, hbroken, hlookups, ServiceFault.kind]

theorem blamed_unwritten (cause : StoreFault) (hreads : Looked reads)
    (hedit : edit.isWrite = true) :
    Blamed store (reads ++ [(edit, false)]) (.error (.storage cause)) := by
  have hwrites := hreads.writes_edit hedit false []
  have hbroken : brokenBy? store (reads ++ [(edit, false)]) = none :=
    hreads.writeless.brokenBy?_append hedit false []
  generalize reads ++ [(edit, false)] = uses at *
  constructor <;> simp [hwrites, hbroken, ServiceFault.kind]

/-- After the first write only its synchronization decides. -/
theorem blamed_written (hreads : Looked reads) (hedit : edit.isWrite = true)
    (hends : Ending (edit.onStore store) (r.map fun _ => ()) later) :
    Blamed store (reads ++ (edit, true) :: later) r := by
  have hwrites := hreads.writes_edit hedit true later
  have hbroken : brokenBy? store (reads ++ (edit, true) :: later) = _ :=
    hreads.writeless.brokenBy?_append hedit true later
  have hlookups : LooksThrough later → LooksThrough (reads ++ (edit, true) :: later) :=
    hreads.looksThrough.append_write hedit true
  generalize hall : reads ++ (edit, true) :: later = uses at *
  generalize hx : (r.map fun _ => ()) = x at hends
  cases hends with
  | synchronized hsmooth =>
      have hlookups := hlookups hsmooth.1.looksThrough
      rw [hsmooth.1.writeless.writes_eq] at hwrites
      rw [hsmooth.findSome?_takeWhile] at hbroken
      cases r with
      | error fault => cases hx
      | ok reply => constructor <;> simp [hwrites, hbroken, hlookups]
  | @undone cause uses' restore hbroke undo hundo hrestore =>
      rw [hbroke.findSome?_takeWhile hundo] at hbroken
      rw [writes_append, hbroke.1.writeless.writes_eq, writes_cons hundo,
        hrestore.writeless.writes_eq] at hwrites
      have hlookups :=
        hlookups (hbroke.1.looksThrough.append_write hundo true hrestore.looksThrough)
      cases r with
      | ok reply => cases hx
      | error fault =>
          obtain rfl := Except.error.inj hx
          constructor <;> simp [hwrites, hbroken, hlookups, ServiceFault.kind]
  | @stuck cause uses' hbroke undo hundo =>
      rw [hbroke.findSome?_takeWhile hundo] at hbroken
      rw [writes_append, hbroke.1.writeless.writes_eq, writes_cons hundo] at hwrites
      have hlookups :=
        hlookups (hbroke.1.looksThrough.append_write hundo false fun _ _ => List.not_mem_nil)
      cases r with
      | ok reply => cases hx
      | error fault =>
          obtain rfl := Except.error.inj hx
          constructor <;> simp [hwrites, hbroken, hlookups, ServiceFault.kind]
          exact fun _ _ _ => eq_comm

/-- The calls of every way that a change can go tell its outcome. -/
theorem Verdict.blamed (h : Verdict store (r.map fun _ => ()) uses) : Blamed store uses r := by
  cases r with
  | ok reply =>
      cases h with
      | written hreads hedit hends => exact blamed_written hreads hedit hends
  | error fault =>
      cases h with
      | declined hfault hreads => exact blamed_declined hfault hreads
      | unread cause hreads k name => exact blamed_unread cause hreads
      | unwritten cause hreads hedit => exact blamed_unwritten cause hreads hedit
      | written hreads hedit hends => exact blamed_written hreads hedit hends

end Told

/-- **The port calls of a change decide how it is reported.** In any store in
which the record that the change is about is absent or reads well, with any
port calls refused: a refused look-up and a refused first write are faults of
the storage, and whatever fails after the first write is reported as what it
is, taken back or not. Other records may not decode, and the rendering that is
to restore the file may fail. All records are texts: bytes that are no text
can be had in a `Table` only, and would be one more record that decodes or
does not. -/
theorem answer_blamed (template : Template) {c : Call} (hc : c.isChange = true)
    {s s' : Scene Trial} {r : Except ServiceFault Reply}
    (hs : ∀ k name, c.target? = some (k, name) → s.world.store.Reads k name)
    (h : perform ((service template).answer c) s = (r, s')) :
    ∃ uses, s'.world.log = uses.reverse ++ s.world.log ∧ Blamed s.world.store uses r := by
  have hends := judged_answer hc hs (.refl s (List.forall_mem_nil _)) h
  have hmade : Made (Verdict s.world.store (r.map fun _ => ())) s s' := by
    cases r with
    | ok reply => exact hends
    | error fault => exact hends
  obtain ⟨uses, events, rfl, hverdict⟩ := hmade
  exact ⟨uses, log_replay s.world uses, hverdict.blamed⟩

/-- The reload of the change is refused and so is the rendering that is to
restore the file, but the fault is that of the reload. -/
theorem answer_blamed_unrestored :
    rebinding.isChange = true ∧
      (∀ k name, rebinding.target? = some (k, name) → unrestored.store.Reads k name) ∧
      ∃ r s' uses, perform ((service .default).answer rebinding) ⟨unrestored, []⟩ = (r, s') ∧
        s'.world.log = uses.reverse ++ unrestored.log ∧ Blamed unrestored.store uses r ∧
        writes uses = [true, true] ∧ (.scan .frontend, false) ∈ uses ∧
        r = .error (.sync (.reload (.failed "" "refused"))) := by
  have hreads (k : Kind) (name : String) (h : rebinding.target? = some (k, name)) :
      unrestored.store.Reads k name := by
    have htarget : rebinding.target? = some (.frontend, "web_1") := by decide
    obtain ⟨rfl, rfl⟩ := Prod.mk.inj (Option.some.inj (htarget.symm.trans h))
    intro text htext
    rw [unrestored, Store.text?_put, if_pos ⟨rfl, rfl⟩] at htext
    obtain rfl := Option.some.inj htext
    exact ⟨_, Entity.ofText_text (.listener { name := "web_1" }), rfl⟩
  obtain ⟨uses, hlog, hblamed⟩ :=
    answer_blamed .default (c := rebinding) (s := ⟨unrestored, []⟩) rfl hreads Prod.mk.eta.symm
  have huses : uses = (perform ((service .default).answer rebinding)
      ⟨unrestored, []⟩).2.world.log.reverse := by
    rw [hlog]
    simp [unrestored]
  have hcalls : writes uses = [true, true] ∧ (.scan .frontend, false) ∈ uses ∧
      brokenBy? unrestored.store uses = some (.reload (.failed "" "refused")) := by
    rw [huses]
    decide +kernel
  obtain ⟨hwrites, hscan, hbroken⟩ := hcalls
  exact ⟨rfl, hreads, _, _, uses, Prod.mk.eta.symm, hlog, hblamed, hwrites, hscan,
    (hblamed.sync_iff _).mpr ⟨hwrites, hbroken⟩⟩

end Trial

end ProxySync
