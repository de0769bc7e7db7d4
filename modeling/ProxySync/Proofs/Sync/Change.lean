import ProxySync.Proofs.Store.Canonical
import ProxySync.Proofs.Sync.Trace

/-!
# How a change ends

Saving, merging and deleting have one shape: some look-ups, one write to the
store, and a synchronization that can take the write back. `Revision` pairs each
kind of write with the call that undoes it, and `Changing` has the two ways
in which a change can go: given up before anything was written, or written
and synchronized. `answer_changes` says that every call that changes an
entity goes in one of these ways, whichever of its port calls are refused.
-/

namespace ProxySync

open ConfigFile

/-! ## What a change is about -/

namespace Store

variable {α : Type} [Record α]

/-- The store with an entity saved under its normal name. -/
def saved? (s : Store) (a : α) : Option Store :=
  (normalName? (Record.name a)).map fun name => s.save (Record.rename name a)

/-- The store with a patch applied to the entity of this name. -/
def merged? (α : Type) [Record α] (s : Store) (name : String) (patch : Json) : Option Store :=
  match (s.get? name : Except StoreFault (Option α)) with
  | .ok (some current) =>
    match patched current patch with
    | .ok merged => some (s.save merged)
    | .error _ => none
  | _ => none

end Store

namespace Call

/-- Saving, merging and deleting. -/
def isChange : Call → Bool
  | .save _ | .merge .. | .delete .. => true
  | _ => false

/-- The kind and the name of the record that a call changes. -/
def target? : Call → Option (Kind × String)
  | .save e => (normalName? e.name).map (e.kind, ·)
  | .merge k name _ => some (k, name)
  | .delete k name => (normalName? name).map (k, ·)
  | _ => none

/-- The store with the change made that a call asks for. -/
def changed? (s : Store) : Call → Option Store
  | .save (.listener l) => s.saved? l
  | .save (.pool p) => s.saved? p
  | .merge .frontend name patch => s.merged? Listener name patch
  | .merge .backend name patch => s.merged? Pool name patch
  | .delete k name => (normalName? name).map (s.remove k)
  | _ => none

end Call

/-- The record that a reply says is stored now. -/
def Reply.record? : Reply → Option String
  | .saved e _ | .entity e => some e.text
  | _ => none

/-! ## Writes and what undoes them -/

/-- A write under one kind and name, what is stored there afterwards, and the
call that takes the write back. -/
inductive Revision (s : Store) (k : Kind) (name : String) :
    Option String → PortUse → PortUse → Prop where
  | replace {old : String} (h : s.text? k name = some old) (text : String) :
      Revision s k name (some text) (.put k name text) (.put k name old)
  | create (h : s.text? k name = none) (text : String) :
      Revision s k name (some text) (.put k name text) (.remove k name)
  | delete {old : String} (h : s.text? k name = some old) :
      Revision s k name none (.remove k name) (.put k name old)

namespace Revision

variable {s : Store} {k : Kind} {name : String} {record : Option String} {edit undo : PortUse}

/-- **Taking a write back leaves the store as it was.** -/
theorem undo_edit (h : Revision s k name record edit undo) : undo.onStore (edit.onStore s) = s := by
  cases h with
  | replace h text => exact Store.put_put_of_text? h text
  | create h text => exact Store.remove_put_of_text? h text
  | delete h => exact Store.put_remove_of_text? h

theorem get?_records (h : Revision s k name record edit undo) (key : String) :
    (edit.onStore s).records.get? key =
      if key = k.key name then record else s.records.get? key := by
  cases h with
  | replace h text => exact Dict.get?_insert ..
  | create h text => exact Dict.get?_insert ..
  | delete h => exact Dict.get?_erase ..

theorem text?_of_ne (h : Revision s k name record edit undo) {k' : Kind} {name' : String}
    (hne : (k', name') ≠ (k, name)) : (edit.onStore s).text? k' name' = s.text? k' name' := by
  rw [Store.text?, h.get?_records, if_neg]
  · rfl
  · intro hkey
    obtain ⟨rfl, rfl⟩ := Kind.key_injective hkey
    exact hne rfl

theorem onFile_eq (h : Revision s k name record edit undo) (file : Option String) :
    edit.onFile file = file ∧ undo.onFile file = file := by
  cases h <;> exact ⟨rfl, rfl⟩

theorem ne_reload (h : Revision s k name record edit undo) : edit ≠ .reload ∧ undo ≠ .reload := by
  cases h <;> exact ⟨nofun, nofun⟩

/-- Where the replaced record was in order, a write repairs no other. -/
theorem decodable (h : Revision s k name record edit undo) (hs : s.HoldsEntity k name)
    (hdec : (edit.onStore s).Decodable) : s.Decodable := by
  intro k' name' text htext
  by_cases hkey : (k', name') = (k, name)
  · obtain ⟨rfl, rfl⟩ := Prod.mk.inj hkey
    obtain ⟨e, rfl, -, rfl⟩ := hs text htext
    exact ⟨e, e.ofText_text⟩
  · rw [← h.text?_of_ne hkey] at htext
    exact hdec k' name' text htext

end Revision

/-! ## Ways in which a change can go -/

/-- The calls that leave store and file alone and are no part of a rendering
or a reload: look-ups, and writes to the store that were refused. -/
inductive Idle : Use → Prop where
  | lookup (k : Kind) (name : String) (through : Bool) : Idle (.lookup k name, through)
  | putRefused (k : Kind) (name text : String) : Idle (.put k name text, false)
  | removeRefused (k : Kind) (name : String) : Idle (.remove k name, false)

/-- The fault strikes before anything is written. -/
def ServiceFault.isEarly : ServiceFault → Bool
  | .sync _ | .outOfSync .. => false
  | _ => true

namespace Trial

open Act

/-- How a change goes that is about the record `target?` and would turn
`store` into `changed?`: given up early, or written and synchronized. -/
inductive Changing (template : Template) (store : Store) (target? : Option (Kind × String))
    (changed? : Option Store) :
    Except ServiceFault (Option String) → List Use → Prop where
  | givenUp {fault : ServiceFault} (hfault : fault.isEarly = true) {uses : List Use}
      (hidle : ∀ u ∈ uses, Idle u) :
      Changing template store target? changed? (.error fault) uses
  | written {k : Kind} {name : String} (htarget : target? = some (k, name))
      {record : Option String} {edit undo : PortUse}
      (hedit : Revision store k name record edit undo)
      (hchanged : changed? = some (edit.onStore store))
      {reads : List Use} (hidle : ∀ u ∈ reads, Idle u)
      {r : Except ServiceFault Unit} {uses : List Use} {events : List Event}
      (hsync : Synchronization template (edit.onStore store) undo r uses events) :
      Changing template store target? changed? (r.map fun _ => record)
        (reads ++ (edit, true) :: uses)

/-- The service went through a change from `s` to `s'`. -/
def Changes (template : Template) (s s' : Scene Trial) (target? : Option (Kind × String))
    (changed? : Option Store) (r : Except ServiceFault (Option String)) : Prop :=
  ∃ uses events, s' = s.after uses events ∧
    Changing template s.world.store target? changed? r uses

theorem replay_idle {uses : List Use} (h : ∀ u ∈ uses, Idle u) (t : Trial) :
    (t.replay uses).store = t.store ∧ (t.replay uses).file = t.file := by
  induction uses generalizing t with
  | nil => exact ⟨rfl, rfl⟩
  | cons u uses ih =>
      obtain ⟨hu, huses⟩ := List.forall_mem_cons.mp h
      obtain ⟨hstore, hfile⟩ := ih huses (t.after u)
      rw [replay_cons, hstore, hfile]
      cases hu with
      | lookup k name through => cases through <;> exact ⟨rfl, rfl⟩
      | putRefused k name text => exact ⟨rfl, rfl⟩
      | removeRefused k name => exact ⟨rfl, rfl⟩

variable {s s' : Scene Trial} {template : Template} {target? : Option (Kind × String)}
  {changed? : Option Store}

/-- A change given up after calls of the idle kind. -/
theorem Changes.givenUp {fault : ServiceFault} (hfault : fault.isEarly = true) {uses : List Use}
    (hidle : ∀ u ∈ uses, Idle u) :
    Changes template s (s.after uses []) target? changed? (.error fault) :=
  ⟨uses, [], rfl, .givenUp hfault hidle⟩

/-- A look-up in front makes no difference. -/
theorem Changes.after_lookup {r : Except ServiceFault (Option String)} (k : Kind) (name : String)
    (h : Changes template (s.after [(.lookup k name, true)] []) s' target? changed? r) :
    Changes template s s' target? changed? r := by
  obtain ⟨uses, events, rfl, hchanging⟩ := h
  refine ⟨(.lookup k name, true) :: uses, events, by simp, ?_⟩
  have hlookup : Idle (.lookup k name, true) := .lookup ..
  cases hchanging with
  | givenUp hfault hidle => exact .givenUp hfault (List.forall_mem_cons.mpr ⟨hlookup, hidle⟩)
  | written htarget hedit hchanged hidle hsync =>
      exact .written htarget hedit hchanged (List.forall_mem_cons.mpr ⟨hlookup, hidle⟩) hsync

/-- Counting the outcome adds no port calls. -/
theorem Changes.counted {β : Type} {k : Kind} {op : Operation} {act : Act Trial ServiceFault β}
    {record? : β → Option String} {r : Except ServiceFault β}
    (hact : ∀ s₁, perform act s = (r, s₁) →
      Changes template s s₁ target? changed? (r.map record?))
    (h : perform (Service.counted k op act) s = (r, s')) :
    Changes template s s' target? changed? (r.map record?) := by
  obtain ⟨s₁, hx, rfl⟩ := perform_counted h
  obtain ⟨uses, events, rfl, hchanging⟩ := hact s₁ hx
  exact ⟨uses, _ :: events, rfl, hchanging⟩

/-! ## Steps of a change -/

theorem normalize_error {name : String} {fault : ServiceFault}
    (h : perform (Service.normalize name : Act Trial ServiceFault String) s = (.error fault, s')) :
    fault = .emptyName ∧ s' = s := by
  unfold Service.normalize at h
  split at h
  · cases (perform_pure h).1
  · obtain ⟨hfault, rfl⟩ := perform_throw h
    exact ⟨Except.error.inj hfault, rfl⟩

theorem normalize_ok {name normal : String}
    (h : perform (Service.normalize name : Act Trial ServiceFault String) s = (.ok normal, s')) :
    normalName? name = some normal ∧ s' = s := by
  unfold Service.normalize at h
  split at h
  · next normal' hnormal =>
    obtain ⟨hok, rfl⟩ := perform_pure h
    exact ⟨Except.ok.inj hok ▸ hnormal, rfl⟩
  · cases (perform_throw h).1

theorem write_refused {write : Act Trial StoreFault Unit} {edit : PortUse}
    (hwrite : Performs write edit) {fault : ServiceFault}
    (h : perform (blaming .storage write) s = (.error fault, s')) :
    fault.isEarly = true ∧ s' = s.after [(edit, false)] [] := by
  obtain ⟨x, hx, hfault⟩ := perform_blaming h
  rcases hwrite hx with ⟨cause, rfl, rfl⟩ | ⟨rfl, rfl⟩
  · obtain rfl := Except.error.inj hfault
    exact ⟨rfl, rfl⟩
  · cases hfault

/-- A write that goes through and the synchronization after it. -/
theorem write_synchronize {write undo : Act Trial StoreFault Unit} {edit undoUse : PortUse}
    (hwrite : Performs write edit) (hundo : Performs undo undoUse) {s₁ : Scene Trial}
    (hput : perform (blaming ServiceFault.storage write) s = (.ok (), s₁)) {k : Kind}
    {name : String} {record : Option String}
    (hedit : Revision s.world.store k name record edit undoUse) {r : Except ServiceFault Unit}
    (hsync : perform ((service template).synchronize undo) s₁ = (r, s')) :
    Changes template s s' (some (k, name)) (some (edit.onStore s.world.store))
      (r.map fun _ => record) := by
  obtain ⟨x, hx, hok⟩ := perform_blaming hput
  rcases hwrite hx with ⟨cause, rfl, -⟩ | ⟨-, rfl⟩
  · cases hok
  · obtain ⟨uses, events, rfl, htrace⟩ := synchronize_trace hundo hsync
    refine ⟨(edit, true) :: uses, events, by simp, ?_⟩
    exact .written rfl hedit rfl (List.forall_mem_nil Idle) htrace

variable {α : Type} [Record α] [EntityRecord α]

/-- Looking up a record that is in order. -/
theorem get_trace {name : String} (hs : s.world.store.HoldsEntity (Record.kind α) name)
    {r : Except ServiceFault (Option α)}
    (h : perform ((service template).get α name) s = (r, s')) :
    (∃ cause, r = .error (.storage cause) ∧
        s' = s.after [(.lookup (Record.kind α) name, false)] []) ∨
      ∃ found, r = .ok found ∧ s' = s.after [(.lookup (Record.kind α) name, true)] [] ∧
        ((s.world.store.text? (Record.kind α) name = none ∧ found = none) ∨
          ∃ a, Record.name a = name ∧
            s.world.store.text? (Record.kind α) name = some (Record.text a) ∧ found = some a) := by
  unfold Service.get at h
  obtain ⟨x, hlookup, rfl⟩ := perform_blaming h
  rcases lookup_trace hlookup with ⟨fault, rfl, rfl⟩ | ⟨rfl, rfl⟩
  · exact Or.inl ⟨fault, rfl, rfl⟩
  · refine Or.inr ?_
    rcases hs.holds.get?_eq (α := α) with ⟨hnone, hget⟩ | ⟨a, hname, htext, hget⟩
    · exact ⟨none, by rw [hget]; rfl, rfl, Or.inl ⟨hnone, rfl⟩⟩
    · exact ⟨some a, by rw [hget]; rfl, rfl, Or.inr ⟨a, hname, htext, rfl⟩⟩

/-- A look-up that fails gives the change up. -/
theorem get_error {name : String} (hs : s.world.store.HoldsEntity (Record.kind α) name)
    {fault : ServiceFault} (h : perform ((service template).get α name) s = (.error fault, s')) :
    Changes template s s' target? changed? (.error fault) := by
  rcases get_trace hs h with ⟨cause, hfault, rfl⟩ | ⟨found, hok, -⟩
  · obtain rfl := Except.error.inj hfault
    exact .givenUp rfl (List.forall_mem_singleton.mpr (.lookup ..))
  · cases hok

theorem get_ok {name : String} (hs : s.world.store.HoldsEntity (Record.kind α) name)
    {found : Option α} (h : perform ((service template).get α name) s = (.ok found, s')) :
    s' = s.after [(.lookup (Record.kind α) name, true)] [] ∧
      ((s.world.store.text? (Record.kind α) name = none ∧ found = none) ∨
        ∃ a, Record.name a = name ∧
          s.world.store.text? (Record.kind α) name = some (Record.text a) ∧ found = some a) := by
  rcases get_trace hs h with ⟨cause, hfault, -⟩ | ⟨found', hok, rfl, hfound⟩
  · cases hfault
  · obtain rfl := Except.ok.inj hok
    exact ⟨rfl, hfound⟩

/-! ## Saving, merging and deleting -/

theorem saveAs_changes {a : α} (hs : s.world.store.HoldsEntity (Record.kind α) (Record.name a))
    {r : Except ServiceFault (Saved α)}
    (h : perform ((service template).saveAs a) s = (r, s')) :
    Changes template s s' (some (Record.kind α, Record.name a)) (some (s.world.store.save a))
      (r.map fun saved => some (Record.text saved.entity)) := by
  unfold Service.saveAs at h
  split at h
  · obtain ⟨rfl, rfl⟩ := perform_throw h
    exact .givenUp rfl (List.forall_mem_nil Idle)
  rcases perform_bind h with ⟨e, hget, rfl⟩ | ⟨previous, s₁, hget, h⟩
  · exact get_error hs hget
  obtain ⟨rfl, hfound⟩ := get_ok hs hget
  refine .after_lookup (Record.kind α) (Record.name a) ?_
  rcases perform_bind h with ⟨e, hput, rfl⟩ | ⟨_, s₂, hput, h⟩
  · obtain ⟨hearly, rfl⟩ := write_refused (performs_store a) hput
    exact .givenUp hearly (List.forall_mem_singleton.mpr (.putRefused ..))
  -- What was found decides which call takes the write back.
  have hsync : ∃ undo undoUse, Performs undo undoUse ∧
      Revision s.world.store (Record.kind α) (Record.name a) (some (Record.text a))
        (.put (Record.kind α) (Record.name a) (Record.text a)) undoUse ∧
      ∃ x, perform ((service template).synchronize undo) s₂ = (x, s') ∧
        r = x.map fun _ => ⟨a, previous.isNone⟩ := by
    rcases hfound with ⟨htext, rfl⟩ | ⟨old, hname, htext, rfl⟩
    · have hundo : Performs ((service template).discard α (Record.name a)) _ :=
        performs_discard (Record.name a)
      exact ⟨_, _, hundo, .create htext _, perform_bind_pure h⟩
    · have hundo : Performs ((service template).store old) _ := performs_store old
      rw [hname] at hundo
      exact ⟨_, _, hundo, .replace htext _, perform_bind_pure h⟩
  obtain ⟨undo, undoUse, hundo, hedit, x, hsync, rfl⟩ := hsync
  have hchanges := write_synchronize (performs_store a) hundo hput hedit hsync
  cases x with
  | error fault => exact hchanges
  | ok _ => exact hchanges

theorem save_changes {a : α}
    (hs : ∀ name, normalName? (Record.name a) = some name →
      s.world.store.HoldsEntity (Record.kind α) name)
    {r : Except ServiceFault (Saved α)} (h : perform ((service template).save a) s = (r, s')) :
    Changes template s s' ((normalName? (Record.name a)).map (Record.kind α, ·))
      (s.world.store.saved? a) (r.map fun saved => some (Record.text saved.entity)) := by
  refine .counted (fun s₁ hact => ?_) h
  rcases perform_bind hact with ⟨e, hname, rfl⟩ | ⟨name, s₂, hname, hsave⟩
  · obtain ⟨rfl, rfl⟩ := normalize_error hname
    exact .givenUp rfl (List.forall_mem_nil Idle)
  · obtain ⟨hnormal, rfl⟩ := normalize_ok hname
    have hrename : Record.name (Record.rename name a) = name := LawfulRecord.name_rename name a
    have hchanges := saveAs_changes (hrename.symm ▸ hs name hnormal) hsave
    rw [hrename] at hchanges
    rwa [Store.saved?, hnormal]

omit [EntityRecord α] in
theorem isEarly_of_patched {current : α} {patch : Json} {fault : ServiceFault}
    (h : patched current patch = .error fault) : fault.isEarly = true := by
  unfold patched at h
  split at h
  · split at h
    · cases h
    · obtain rfl := Except.error.inj h
      rfl
  · obtain rfl := Except.error.inj h
    rfl

theorem name_of_patched {current merged : α} {patch : Json}
    (h : patched current patch = .ok merged) : Record.name merged = Record.name current := by
  unfold patched at h
  split at h
  · split at h
    · obtain rfl := Except.ok.inj h
      exact LawfulRecord.name_rename ..
    · cases h
  · cases h

theorem merge_changes {name : String} {patch : Json}
    (hs : s.world.store.HoldsEntity (Record.kind α) name) {r : Except ServiceFault α}
    (h : perform ((service template).merge α name patch) s = (r, s')) :
    Changes template s s' (some (Record.kind α, name)) (s.world.store.merged? α name patch)
      (r.map fun a => some (Record.text a)) := by
  refine .counted (fun s₁ hact => ?_) h
  rcases perform_bind hact with ⟨e, hget, rfl⟩ | ⟨found, s₂, hget, hnext⟩
  · exact get_error hs hget
  obtain ⟨rfl, hfound⟩ := get_ok hs hget
  refine .after_lookup (Record.kind α) name ?_
  rcases hfound with ⟨-, rfl⟩ | ⟨current, rfl, htext, rfl⟩
  · obtain ⟨rfl, rfl⟩ := perform_throw hnext
    exact .givenUp rfl (List.forall_mem_nil Idle)
  dsimp only at hnext
  split at hnext
  · next fault hfault =>
    obtain ⟨rfl, rfl⟩ := perform_throw hnext
    exact .givenUp (isEarly_of_patched hfault) (List.forall_mem_nil Idle)
  · next merged hmerged =>
    obtain ⟨x, hsave, rfl⟩ := perform_bind_pure hnext
    have hname := name_of_patched hmerged
    have hget : s.world.store.get? (Record.name current) = .ok (some current) := by
      rw [Store.get?_of_some htext, decodeRecordText, Record.ofText_text]
      rfl
    have hmerged? : s.world.store.merged? α (Record.name current) patch =
        some (s.world.store.save merged) := by
      rw [Store.merged?, hget]
      dsimp only
      rw [hmerged]
    have hchanges := saveAs_changes (s := s.after [_] []) (hname.symm ▸ hs) hsave
    rw [hname] at hchanges
    rw [hmerged?]
    cases x with
    | error fault => exact hchanges
    | ok saved => exact hchanges

theorem delete_changes {name : String}
    (hs : ∀ normal, normalName? name = some normal →
      s.world.store.HoldsEntity (Record.kind α) normal)
    {r : Except ServiceFault Unit}
    (h : perform ((service template).delete α name) s = (r, s')) :
    Changes template s s' ((normalName? name).map (Record.kind α, ·))
      ((normalName? name).map (s.world.store.remove (Record.kind α))) (r.map fun _ => none) := by
  refine .counted (fun s₁ hact => ?_) h
  rcases perform_bind hact with ⟨e, hname, rfl⟩ | ⟨normal, s₂, hname, hnext⟩
  · obtain ⟨rfl, rfl⟩ := normalize_error hname
    exact .givenUp rfl (List.forall_mem_nil Idle)
  obtain ⟨hnormal, rfl⟩ := normalize_ok hname
  have hs := hs normal hnormal
  rcases perform_bind hnext with ⟨e, hget, rfl⟩ | ⟨found, s₂, hget, hnext⟩
  · exact get_error hs hget
  obtain ⟨rfl, hfound⟩ := get_ok hs hget
  refine .after_lookup (Record.kind α) normal ?_
  rcases hfound with ⟨-, rfl⟩ | ⟨previous, hold, htext, rfl⟩
  · obtain ⟨rfl, rfl⟩ := perform_throw hnext
    exact .givenUp rfl (List.forall_mem_nil Idle)
  have hwrite : Performs ((service template).discard α normal) _ := performs_discard normal
  have hundo : Performs ((service template).store previous) _ := performs_store previous
  rw [hold] at hundo
  rcases perform_bind hnext with ⟨e, hput, rfl⟩ | ⟨_, s₂, hput, hsync⟩
  · obtain ⟨hearly, rfl⟩ := write_refused hwrite hput
    exact .givenUp hearly (List.forall_mem_singleton.mpr (.removeRefused ..))
  · rw [hnormal]
    exact write_synchronize hwrite hundo hput (.delete htext) hsync

omit [Record α] [EntityRecord α] in
/-- Wrapping a result into a reply does not change what is stored. -/
theorem Changes.of_reply {act : Act Trial ServiceFault α} {reply : α → Reply}
    {record? : α → Option String} (hreply : ∀ a, (reply a).record? = record? a)
    {r : Except ServiceFault Reply}
    (h : perform (act >>= fun a => pure (reply a)) s = (r, s'))
    (hact : ∀ x, perform act s = (x, s') →
      Changes template s s' target? changed? (x.map record?)) :
    Changes template s s' target? changed? (r.map Reply.record?) := by
  obtain ⟨x, hx, rfl⟩ := perform_bind_pure h
  have hchanges := hact x hx
  cases x with
  | error fault => exact hchanges
  | ok a =>
      change Changes template s s' target? changed? (.ok (reply a).record?)
      rwa [hreply]

/-- **Every call that changes an entity goes in one of the two ways**,
whichever of its port calls are refused. -/
theorem answer_changes {c : Call} (hc : c.isChange = true)
    (hs : ∀ k name, c.target? = some (k, name) → s.world.store.HoldsEntity k name)
    {r : Except ServiceFault Reply} (h : perform ((service template).answer c) s = (r, s')) :
    Changes template s s' c.target? (c.changed? s.world.store) (r.map Reply.record?) := by
  cases c with
  | save e =>
      have hname (name : String) (hname : normalName? e.name = some name) :
          s.world.store.HoldsEntity e.kind name :=
        hs e.kind name (by rw [Call.target?, hname]; rfl)
      cases e with
      | listener l =>
          exact .of_reply (fun _ => rfl) h fun x hx => save_changes (α := Listener) hname hx
      | pool p =>
          exact .of_reply (fun _ => rfl) h fun x hx => save_changes (α := Pool) hname hx
  | merge k name patch =>
      have hs := hs k name rfl
      cases k with
      | frontend =>
          exact .of_reply (fun _ => rfl) h fun x hx => merge_changes (α := Listener) hs hx
      | backend =>
          exact .of_reply (fun _ => rfl) h fun x hx => merge_changes (α := Pool) hs hx
  | delete k name =>
      have hname (normal : String) (hnormal : normalName? name = some normal) :
          s.world.store.HoldsEntity k normal :=
        hs k normal (by rw [Call.target?, hnormal]; rfl)
      cases k with
      | frontend =>
          exact .of_reply (fun _ => rfl) h fun x hx => delete_changes (α := Listener) hname hx
      | backend =>
          exact .of_reply (fun _ => rfl) h fun x hx => delete_changes (α := Pool) hname hx
  | _ => cases hc

end Trial

end ProxySync
