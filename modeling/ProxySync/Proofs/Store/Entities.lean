import Mathlib.Data.List.Sort
import ProxySync.Proofs.Store.Canonical

/-!
# The store as it is read

Reading one entity and reading all of a kind, for both kinds at once. What
they give depends on the texts in the store alone: the entity whose encoding
stands under a key (`entity?_of_text?`), and in a canonical store just these
entities, by the bytes of their names (`exists_entities`). An entity that is
saved takes the place of the one of its name there (`Listing.replaces`).
-/

namespace ProxySync

def Entity.rename (name : String) : Entity → Entity
  | .listener l => .listener (Record.rename name l)
  | .pool p => .pool (Record.rename name p)

namespace Entity

variable (e : Entity) (name name' : String)

@[simp] theorem name_rename : (e.rename name).name = name := by
  cases e <;> rfl

@[simp] theorem kind_rename : (e.rename name).kind = e.kind := by
  cases e <;> rfl

@[simp] theorem rename_rename : (e.rename name).rename name' = e.rename name' := by
  cases e <;> rfl

theorem rename_self : e.rename e.name = e := by
  cases e <;> rfl

end Entity

namespace Store

/-! ## Both kinds at once -/

/-- The entity of this kind and name. -/
def entity? (s : Store) : Kind → String → Except StoreFault (Option Entity)
  | .frontend, name => (s.get? name).map (Option.map .listener)
  | .backend, name => (s.get? name).map (Option.map .pool)

/-- All entities of a kind. -/
def entities (s : Store) : Kind → Except StoreFault (List Entity)
  | .frontend => s.all.map (List.map .listener)
  | .backend => s.all.map (List.map .pool)

def saveEntity (s : Store) : Entity → Store
  | .listener l => s.save l
  | .pool p => s.save p

def deleteEntity (s : Store) : Kind → String → Store
  | .frontend, name => s.delete Listener name
  | .backend, name => s.delete Pool name

variable {s : Store} {k : Kind} {name : String}

theorem saveEntity_eq (s : Store) (e : Entity) : s.saveEntity e = s.put e.kind e.name e.text := by
  cases e <;> rfl

theorem text?_saveEntity (s : Store) (e : Entity) (k : Kind) (name : String) :
    (s.saveEntity e).text? k name =
      if e.kind = k ∧ e.name = name then some e.text else s.text? k name := by
  rw [saveEntity_eq, text?_put]

theorem Canonical.saveEntity (h : s.Canonical) (e : Entity) : (s.saveEntity e).Canonical := by
  cases e with
  | listener l => exact h.save l
  | pool p => exact h.save p

theorem deleteEntity_eq (s : Store) (k : Kind) (name : String) :
    s.deleteEntity k name = s.remove k name := by
  cases k <;> rfl

/-! ## Reading one entity -/

theorem get?_of_text? {α : Type} [Record α] [LawfulRecord α] {a : α}
    (h : s.text? (Record.kind α) name = some (Record.text a)) : s.get? name = .ok (some a) := by
  rw [get?_of_some h, decodeRecordText, Record.ofText_text]
  rfl

theorem entity?_of_text? {e : Entity} (h : s.text? e.kind name = some e.text) :
    s.entity? e.kind name = .ok (some e) := by
  cases e with
  | listener l => exact congrArg (Except.map _) (get?_of_text? (a := l) h)
  | pool p => exact congrArg (Except.map _) (get?_of_text? (a := p) h)

theorem entity?_of_none (h : s.text? k name = none) : s.entity? k name = .ok none := by
  cases k with
  | frontend => exact congrArg (Except.map _) (get?_of_none (α := Listener) h)
  | backend => exact congrArg (Except.map _) (get?_of_none (α := Pool) h)

/-! ## Reading all entities of a kind -/

/-- `es` are the stored entities of the kind `k`, each of them once, by the
bytes of their names. -/
structure Listing (s : Store) (k : Kind) (es : List Entity) : Prop where
  inByteOrder : es.Pairwise fun e e' => Text.utf8Bytes e.name < Text.utf8Bytes e'.name
  mem_iff : ∀ e, e ∈ es ↔ e.kind = k ∧ s.text? k e.name = some e.text

theorem Stock.listing {α : Type} [Record α] [EntityRecord α] {as : List α} (h : s.Stock as) :
    s.Listing (Record.kind α) (as.map EntityRecord.entity) where
  inByteOrder := by
    rw [List.pairwise_map]
    simpa only [EntityRecord.name_entity] using h.inByteOrder
  mem_iff e := by
    rw [List.mem_map]
    constructor
    · rintro ⟨a, ha, rfl⟩
      rw [EntityRecord.name_entity, EntityRecord.text_entity]
      exact ⟨EntityRecord.kind_entity a, (h.mem_iff a).mp ha⟩
    · rintro ⟨hk, htext⟩
      obtain ⟨a, rfl⟩ := EntityRecord.exists_entity e hk
      rw [EntityRecord.name_entity, EntityRecord.text_entity] at htext
      exact ⟨a, (h.mem_iff a).mpr htext, rfl⟩

theorem exists_entities (h : s.Canonical) (k : Kind) :
    ∃ es, s.entities k = .ok es ∧ s.Listing k es := by
  cases k with
  | frontend =>
      obtain ⟨ls, hall, hstock⟩ := exists_stock (α := Listener) h.holds
      exact ⟨_, congrArg (Except.map _) hall, hstock.listing⟩
  | backend =>
      obtain ⟨ps, hall, hstock⟩ := exists_stock (α := Pool) h.holds
      exact ⟨_, congrArg (Except.map _) hall, hstock.listing⟩

/-! ## Listings after a save -/

/-- In `es'` the entity `e` is there once and has the place of what has its
name in `es`. -/
structure Replaces (e : Entity) (es es' : List Entity) : Prop where
  once : es'.filter (fun e' => e'.name = e.name) = [e]
  others : es'.filter (fun e' => e'.name ≠ e.name) = es.filter (fun e' => e'.name ≠ e.name)

section Saved

variable {s' : Store} {e : Entity} {es es' : List Entity}

/-- Lists in byte order are equal when they have the same entities. -/
theorem eq_of_inByteOrder
    (h : es.Pairwise fun e e' => Text.utf8Bytes e.name < Text.utf8Bytes e'.name)
    (h' : es'.Pairwise fun e e' => Text.utf8Bytes e.name < Text.utf8Bytes e'.name)
    (hmem : ∀ e, e ∈ es ↔ e ∈ es') : es = es' := by
  have hirrefl : Std.Irrefl fun e e' : Entity => Text.utf8Bytes e.name < Text.utf8Bytes e'.name :=
    ⟨fun e => List.lt_irrefl (Text.utf8Bytes e.name)⟩
  have hantisymm :
      Std.Antisymm fun e e' : Entity => Text.utf8Bytes e.name < Text.utf8Bytes e'.name :=
    ⟨fun e e' hlt hgt => absurd hgt (List.lt_asymm hlt)⟩
  exact h.eq_of_mem_iff h' hmem

/-- What is stored alike is listed alike. -/
theorem Listing.filter_eq (h : s.Listing k es) (h' : s'.Listing k es') {p : Entity → Bool}
    (hsame : ∀ e, p e = true → s'.text? k e.name = s.text? k e.name) :
    es'.filter p = es.filter p := by
  refine eq_of_inByteOrder (h'.inByteOrder.filter p) (h.inByteOrder.filter p) fun e => ?_
  rw [List.mem_filter, List.mem_filter, h'.mem_iff, h.mem_iff]
  exact and_congr_left fun hp => by rw [hsame e hp]

theorem Listing.replaces (h : s.Listing e.kind es) (h' : (s.saveEntity e).Listing e.kind es') :
    Replaces e es es' where
  once := by
    refine eq_of_inByteOrder (h'.inByteOrder.filter _) (List.pairwise_singleton ..) fun e' => ?_
    rw [List.mem_filter, h'.mem_iff, List.mem_singleton, decide_eq_true_iff, text?_saveEntity]
    constructor
    · rintro ⟨⟨hkind, htext⟩, hname⟩
      rw [if_pos ⟨rfl, hname.symm⟩] at htext
      have hread := e'.ofText_text
      rw [← Option.some.inj htext, hkind, e.ofText_text] at hread
      exact (Except.ok.inj hread).symm
    · rintro rfl
      exact ⟨⟨rfl, if_pos ⟨rfl, rfl⟩⟩, rfl⟩
  others := h.filter_eq h' fun e' hne => by
    rw [text?_saveEntity, if_neg]
    exact fun hkey => of_decide_eq_true hne hkey.2.symm

theorem Listing.eq_of_kind_ne (h : s.Listing k es) (h' : (s.saveEntity e).Listing k es')
    (hk : k ≠ e.kind) : es' = es := by
  have hall := h.filter_eq h' (p := fun _ => true) fun e' _ => by
    rw [text?_saveEntity, if_neg fun hkey => hk hkey.1.symm]
  rwa [List.filter_true, List.filter_true] at hall

end Saved

end Store

end ProxySync
