import ProxySync.Proofs.Store.Consists
import ProxySync.Proofs.Store.Entities
import ProxySync.Sync.Call

/-!
# Both kinds at once

Calls, replies and reads name the two kinds of entities one by one. Each case
is the one generic step at the type of that kind (`CallRecord`), so what is
shown for such a type holds for both (`Kind.exists_record`,
`Entity.exists_record`).
-/

namespace ProxySync

/-- A type of entities that the calls about its kind are made on. -/
class CallRecord (α : Type) [Record α] [EntityRecord α] : Prop where
  encode_entity (a : α) : (EntityRecord.entity a).encode = Record.encode a
  rename_entity (name : String) (a : α) :
    (EntityRecord.entity a).rename name = EntityRecord.entity (Record.rename name a)
  brokenField?_entity (a : α) : (EntityRecord.entity a).brokenField? = Record.brokenField? a
  entity?_eq (s : Store) (name : String) :
    s.entity? (Record.kind α) name = (s.get? name).map (Option.map (EntityRecord.entity (α := α)))
  entities_eq (s : Store) :
    s.entities (Record.kind α) = s.all.map (List.map (EntityRecord.entity (α := α)))
  saveEntity_eq (s : Store) (a : α) : s.saveEntity (EntityRecord.entity a) = s.save a
  answer_save {σ : Type} (v : Service σ) (a : α) :
    v.answer (.save (EntityRecord.entity a)) = v.save a >>= fun saved =>
      pure (.saved (EntityRecord.entity saved.entity) saved.created)
  answer_merge {σ : Type} (v : Service σ) (name : String) (patch : Json) :
    v.answer (.merge (Record.kind α) name patch) = v.merge α name patch >>= fun a =>
      pure (.entity (EntityRecord.entity a))
  answer_delete {σ : Type} (v : Service σ) (name : String) :
    v.answer (.delete (Record.kind α) name) = v.delete α name >>= fun _ => pure .done
  answer_get {σ : Type} (v : Service σ) (name : String) :
    v.answer (.get (Record.kind α) name) = v.get α name >>= fun found =>
      pure (.found (found.map EntityRecord.entity))
  answer_list {σ : Type} (v : Service σ) :
    v.answer (.list (Record.kind α)) = v.list α >>= fun all =>
      pure (.entities (all.map EntityRecord.entity))

instance : CallRecord Listener where
  encode_entity _ := rfl
  rename_entity _ _ := rfl
  brokenField?_entity _ := rfl
  entity?_eq _ _ := rfl
  entities_eq _ := rfl
  saveEntity_eq _ _ := rfl
  answer_save _ _ := rfl
  answer_merge _ _ _ := rfl
  answer_delete _ _ := rfl
  answer_get _ _ := rfl
  answer_list _ := rfl

instance : CallRecord Pool where
  encode_entity _ := rfl
  rename_entity _ _ := rfl
  brokenField?_entity _ := rfl
  entity?_eq _ _ := rfl
  entities_eq _ := rfl
  saveEntity_eq _ _ := rfl
  answer_save _ _ := rfl
  answer_merge _ _ _ := rfl
  answer_delete _ _ := rfl
  answer_get _ _ := rfl
  answer_list _ := rfl

theorem Kind.exists_record (k : Kind) :
    ∃ (α : Type) (_ : Record α) (_ : EntityRecord α) (_ : CallRecord α), Record.kind α = k := by
  cases k with
  | frontend => exact ⟨Listener, inferInstance, inferInstance, inferInstance, rfl⟩
  | backend => exact ⟨Pool, inferInstance, inferInstance, inferInstance, rfl⟩

theorem Entity.exists_record (e : Entity) :
    ∃ (α : Type) (_ : Record α) (_ : EntityRecord α) (_ : CallRecord α) (a : α),
      EntityRecord.entity a = e := by
  obtain ⟨α, _, _, _, hk⟩ := e.kind.exists_record
  obtain ⟨a, rfl⟩ := EntityRecord.exists_entity e hk.symm
  exact ⟨α, inferInstance, inferInstance, inferInstance, a, rfl⟩

end ProxySync
