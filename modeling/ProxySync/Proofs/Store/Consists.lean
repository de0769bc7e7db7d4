import ProxySync.Entity.Name
import ProxySync.Proofs.Store.Canonical

/-!
# Stores of entities of a sort

What is stored by the service has a name in stored form and stands under the
key of that name. `Store.Consists` says this of every key there is, together
with whatever else may hold of the stored entities, and the two writes keep
it. In such a store every look-up and every listing decodes.
-/

namespace ProxySync

/-! ## Names and keys -/

/-- A name that can be stored. -/
def IsStoredName (name : String) : Prop := name ≠ "" ∧ ' ' ∉ name.toList

theorem normalName?_eq_some_iff {name normal : String} :
    normalName? name = some normal ↔
      name ≠ "" ∧ normal.toList = name.toList.map fun c => if c = ' ' then '_' else c := by
  unfold normalName?
  split
  · next hempty => exact ⟨nofun, fun h => absurd (String.isEmpty_iff.mp hempty) h.1⟩
  · next hname =>
    have hne : name ≠ "" := fun h => hname (String.isEmpty_iff.mpr h)
    rw [Option.some.injEq, ← String.toList_inj, String.toList_ofList]
    exact ⟨fun h => ⟨hne, h.symm⟩, fun h => h.2.symm⟩

theorem isStoredName_of_normalName? {name normal : String} (h : normalName? name = some normal) :
    IsStoredName normal := by
  obtain ⟨hname, hlist⟩ := normalName?_eq_some_iff.mp h
  constructor
  · rintro rfl
    have hnil : name.toList = [] := List.map_eq_nil_iff.mp hlist.symm
    exact hname (String.toList_eq_nil_iff.mp hnil)
  · rw [hlist, List.mem_map]
    rintro ⟨c, -, hc⟩
    split at hc
    · cases hc
    · next hspace => exact hspace hc

/-- A normal name has no characters of its own but the underscore. -/
theorem not_mem_of_normalName? {name normal : String} {c : Char}
    (h : normalName? name = some normal) (hc : c ≠ '_') (hname : c ∉ name.toList) :
    c ∉ normal.toList := by
  rw [(normalName?_eq_some_iff.mp h).2, List.mem_map]
  rintro ⟨c', hmem, hsame⟩
  split at hsame
  · exact hc hsame.symm
  · exact hname (hsame ▸ hmem)

namespace Entity

/-- The key an entity is stored under. -/
def key (e : Entity) : String := e.kind.key e.name

def brokenField? : Entity → Option String
  | .listener l => Record.brokenField? l
  | .pool p => Record.brokenField? p

end Entity

/-! ## Stores of entities of a sort -/

namespace Store

/-- Every record, under whatever key, is the encoding of an entity that
belongs there, has a name in stored form, and is of the sort `q`. -/
def Consists (s : Store) (q : Entity → Prop) : Prop :=
  ∀ key text, s.records.get? key = some text →
    ∃ e : Entity, key = e.key ∧ text = e.text ∧ IsStoredName e.name ∧ q e

variable {s : Store} {q : Entity → Prop}

theorem consists_empty : Store.empty.Consists q := fun _ _ h => nomatch h

theorem Consists.canonical (h : s.Consists q) : s.Canonical := by
  intro k name text htext
  obtain ⟨e, hkey, rfl, -⟩ := h (k.key name) text htext
  obtain ⟨rfl, rfl⟩ := Kind.key_injective hkey
  exact ⟨e, rfl, rfl, rfl⟩

theorem Consists.text?_of_space (h : s.Consists q) (k : Kind) {name : String}
    (hspace : ' ' ∈ name.toList) : s.text? k name = none := by
  refine Option.eq_none_iff_forall_ne_some.mpr fun text htext => ?_
  obtain ⟨e, hkey, -, hname, -⟩ := h _ _ htext
  obtain ⟨-, rfl⟩ := Kind.key_injective hkey
  exact hname.2 hspace

theorem Consists.remove (h : s.Consists q) (k : Kind) (name : String) :
    (s.remove k name).Consists q := by
  intro key text htext
  rw [Store.remove, Dict.get?_erase] at htext
  split at htext
  · cases htext
  · exact h key text htext

section Records

variable {α : Type} [Record α] [EntityRecord α]

theorem Consists.put (h : s.Consists q) {a : α} (hname : IsStoredName (Record.name a))
    (ha : q (EntityRecord.entity a)) :
    (s.put (Record.kind α) (Record.name a) (Record.text a)).Consists q := by
  intro key text htext
  rw [Store.put, Dict.get?_insert] at htext
  split at htext
  · next hkey =>
    refine ⟨EntityRecord.entity a, ?_, ?_, ?_, ha⟩
    · rw [hkey, Entity.key, EntityRecord.kind_entity, EntityRecord.name_entity]
    · rw [EntityRecord.text_entity]
      exact (Option.some.inj htext).symm
    · rwa [EntityRecord.name_entity]
  · exact h key text htext

/-- What a look-up finds is one of the stored entities. -/
theorem Consists.of_get? (h : s.Consists q) {name : String} {a : α}
    (hget : s.get? name = .ok (some a)) :
    Record.name a = name ∧ IsStoredName name ∧ q (EntityRecord.entity a) := by
  rcases (h.canonical.holds (α := α) name).get?_eq with ⟨-, hnone⟩ | ⟨b, hname, htext, hsome⟩
  · rw [hnone] at hget
    cases hget
  rw [hsome] at hget
  obtain rfl : b = a := Option.some.inj (Except.ok.inj hget)
  obtain ⟨e, hkey, htext', hstored, he⟩ := h _ _ htext
  obtain ⟨hkind, rfl⟩ := Kind.key_injective hkey
  obtain ⟨a, rfl⟩ := EntityRecord.exists_entity (α := α) e hkind.symm
  rw [EntityRecord.text_entity] at htext'
  rw [Record.text_injective htext']
  exact ⟨(EntityRecord.name_entity a).symm, hstored, he⟩

/-- All reads of one kind decode, and no name with a space is found. -/
structure Readable (α : Type) [Record α] (s : Store) : Prop where
  all : ∃ as : List α, s.all = .ok as
  get : ∀ name, ∃ found : Option α, s.get? name = .ok found ∧ (' ' ∈ name.toList → found = none)

theorem Consists.readable (h : s.Consists q) : s.Readable α where
  all := exists_all_iff_ofText.mpr fun name text htext =>
    h.canonical.decodable (Record.kind α) name text htext
  get name := by
    rcases (h.canonical.holds (α := α) name).get?_eq with ⟨-, hnone⟩ | ⟨a, rfl, htext, hsome⟩
    · exact ⟨none, hnone, fun _ => rfl⟩
    · refine ⟨some a, hsome, fun hspace => ?_⟩
      rw [h.text?_of_space (Record.kind α) hspace] at htext
      cases htext

end Records

end Store

end ProxySync
