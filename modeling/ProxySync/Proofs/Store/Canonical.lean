import ProxySync.Proofs.Store.Scan
import ProxySync.Sync.Call

/-!
# Stores of entities

What the store holds, said of both kinds at once. A record is in order when
it is the encoding of an entity of its kind and name (`Store.HoldsEntity`),
and a store is canonical when all its records are. `Store.Decodable` asks
less, and is what writing the configuration file takes.
-/

namespace ProxySync

/-! ## Entities as records -/

namespace Entity

/-- The text an entity is stored as. -/
def text (e : Entity) : String := e.encode.text

theorem ofText_text (e : Entity) : ofText e.kind e.text = .ok e := by
  cases e with
  | listener l =>
      change (Record.ofText (Record.text l)).map Entity.listener = _
      rw [Record.ofText_text]
      rfl
  | pool p =>
      change (Record.ofText (Record.text p)).map Entity.pool = _
      rw [Record.ofText_text]
      rfl

end Entity

/-- A type whose values are the entities of one kind. -/
class EntityRecord (α : Type) [Record α] extends LawfulRecord α where
  entity : α → Entity
  kind_entity : ∀ a, (entity a).kind = Record.kind α
  name_entity : ∀ a, (entity a).name = Record.name a
  text_entity : ∀ a, (entity a).text = Record.text a
  exists_entity : ∀ e : Entity, e.kind = Record.kind α → ∃ a, e = entity a
  ofText_entity : ∀ s, Entity.ofText (Record.kind α) s = (Record.ofText s).map entity

instance : EntityRecord Listener where
  entity := .listener
  kind_entity _ := rfl
  name_entity _ := rfl
  text_entity _ := rfl
  exists_entity e h := by
    cases e with
    | listener l => exact ⟨l, rfl⟩
    | pool p => cases h
  ofText_entity _ := rfl

instance : EntityRecord Pool where
  entity := .pool
  kind_entity _ := rfl
  name_entity _ := rfl
  text_entity _ := rfl
  exists_entity e h := by
    cases e with
    | listener l => cases h
    | pool p => exact ⟨p, rfl⟩
  ofText_entity _ := rfl

namespace Store

/-! ## Records in order -/

/-- What is stored under this kind and name, if anything, is the encoding of
an entity of this kind and name. -/
def HoldsEntity (s : Store) (k : Kind) (name : String) : Prop :=
  ∀ text, s.text? k name = some text →
    ∃ e : Entity, e.kind = k ∧ e.name = name ∧ text = e.text

/-- Every record is the encoding of an entity under its own kind and name. -/
def Canonical (s : Store) : Prop := ∀ k name, s.HoldsEntity k name

/-- Every record decodes as an entity of its kind. -/
def Decodable (s : Store) : Prop :=
  ∀ k name text, s.text? k name = some text → ∃ e, Entity.ofText k text = .ok e

theorem canonical_empty : Canonical .empty := fun _ _ _ h => nomatch h

theorem Canonical.decodable {s : Store} (h : s.Canonical) : s.Decodable := by
  intro k name text htext
  obtain ⟨e, rfl, -, rfl⟩ := h k name text htext
  exact ⟨e, e.ofText_text⟩

section Records

variable {α : Type} [Record α] [EntityRecord α]

theorem HoldsEntity.holds {s : Store} {name : String}
    (h : s.HoldsEntity (Record.kind α) name) : s.Holds α name := by
  intro text htext
  obtain ⟨e, hk, hname, rfl⟩ := h text htext
  obtain ⟨a, rfl⟩ := EntityRecord.exists_entity e hk
  exact ⟨a, EntityRecord.name_entity a ▸ hname, EntityRecord.text_entity a⟩

theorem Canonical.holds {s : Store} (h : s.Canonical) (name : String) : s.Holds α name :=
  HoldsEntity.holds (h (Record.kind α) name)

theorem exists_all_iff_ofText {s : Store} :
    (∃ as : List α, s.all = .ok as) ↔
      ∀ name text, s.text? (Record.kind α) name = some text →
        ∃ e, Entity.ofText (Record.kind α) text = .ok e := by
  have hdecodes (text : String) :
      (∃ e, Entity.ofText (Record.kind α) text = .ok e) ↔
        ∃ a : α, Record.ofText text = .ok a := by
    rw [EntityRecord.ofText_entity]
    cases (Record.ofText text : Except Json.Fault α) <;> simp [Except.map]
  rw [exists_all_iff]
  exact forall₃_congr fun _ text _ => (hdecodes text).symm

end Records

/-! ## Writes that keep a store canonical -/

theorem text?_remove (s : Store) (k k' : Kind) (name name' : String) :
    (s.remove k name).text? k' name' =
      if k = k' ∧ name = name' then none else s.text? k' name' := by
  rw [text?, remove, Dict.get?_erase]
  by_cases h : k'.key name' = k.key name
  · obtain ⟨rfl, rfl⟩ := Kind.key_injective h
    simp
  · rw [if_neg h, if_neg fun hk => h (by rw [hk.1, hk.2])]
    rfl

theorem Canonical.remove {s : Store} (h : s.Canonical) (k : Kind) (name : String) :
    (s.remove k name).Canonical := by
  intro k' name' text htext
  rw [text?_remove] at htext
  split at htext
  · cases htext
  · exact h k' name' text htext

theorem Canonical.save {α : Type} [Record α] [EntityRecord α] {s : Store} (h : s.Canonical)
    (a : α) : (s.save a).Canonical := by
  intro k name text htext
  rw [Store.save, text?_put] at htext
  split at htext
  · next hkey =>
    obtain ⟨rfl, rfl⟩ := hkey
    refine ⟨EntityRecord.entity a, EntityRecord.kind_entity a, EntityRecord.name_entity a, ?_⟩
    rw [EntityRecord.text_entity]
    exact (Option.some.inj htext).symm
  · exact h k name text htext

/-- The configuration file can be written just when every record decodes. -/
theorem decodable_iff {s : Store} :
    s.Decodable ↔
      (∃ ls : List Listener, s.all = .ok ls) ∧ ∃ ps : List Pool, s.all = .ok ps := by
  rw [exists_all_iff_ofText, exists_all_iff_ofText]
  refine ⟨fun h => ⟨h .frontend, h .backend⟩, fun h k => ?_⟩
  cases k with
  | frontend => exact h.1
  | backend => exact h.2

end Store

end ProxySync
