import ProxySync.Proofs.Store.Consists
import ProxySync.Proofs.Store.Entities

/-!
# Stores as sets of entities

A store of entities is determined by which entities it has (`eq_of_has_iff`).
A write puts a record under a kind and a name or removes the one that is
there. Writes under different kinds and names do not meet: neither makes the
other impossible, and their order does not matter (`Write.onStore?_comm`).
-/

namespace ProxySync

namespace Store

variable {s s' : Store} {q q' : Entity → Prop} {e : Entity}

/-! ## Which entities there are -/

/-- The entity is found under its kind and name. -/
def Has (s : Store) (e : Entity) : Prop := s.entity? e.kind e.name = .ok (some e)

theorem Canonical.has_iff (h : s.Canonical) : s.Has e ↔ s.text? e.kind e.name = some e.text := by
  refine ⟨fun hhas => ?_, entity?_of_text?⟩
  cases htext : s.text? e.kind e.name with
  | none =>
      have hnone := hhas.symm.trans (entity?_of_none htext)
      cases hnone
  | some text =>
      obtain ⟨e', hk, hname, rfl⟩ := h _ _ _ htext
      rw [← hk] at htext
      have hsome := entity?_of_text? htext
      rw [hk, hhas] at hsome
      rw [Option.some.inj (Except.ok.inj hsome)]

theorem text?_of_has_iff (h : s.Consists q) (h' : s'.Consists q') (hiff : ∀ e, s.Has e ↔ s'.Has e)
    {key text : String} (htext : s.records.get? key = some text) :
    s'.records.get? key = some text := by
  obtain ⟨e, rfl, rfl, -⟩ := h key text htext
  exact h'.canonical.has_iff.mp ((hiff e).mp (h.canonical.has_iff.mpr htext))

theorem ext_get? (h : ∀ key, s.records.get? key = s'.records.get? key) : s = s' :=
  congrArg Store.mk (Dict.ext_get? h)

/-- Saving what is there changes nothing. -/
theorem saveEntity_of_text? (h : s.text? e.kind e.name = some e.text) : s.saveEntity e = s := by
  refine ext_get? fun key => ?_
  rw [saveEntity_eq, put, Dict.get?_insert]
  split
  · next hkey =>
    rw [hkey]
    exact h.symm
  · rfl

/-- **The entities that a store has determine it.** -/
theorem eq_of_has_iff (h : s.Consists q) (h' : s'.Consists q')
    (hiff : ∀ e, s.Has e ↔ s'.Has e) : s = s' := by
  refine ext_get? fun key => Option.ext fun text => ?_
  exact ⟨text?_of_has_iff h h' hiff, text?_of_has_iff h' h fun e => (hiff e).symm⟩

/-! ## Records under a kind and a name -/

/-- The store with this record under a kind and a name; without a text there
is none. -/
def set (s : Store) (k : Kind) (name : String) : Option String → Store
  | some text => s.put k name text
  | none => s.remove k name

variable {k k' : Kind} {name name' : String} {record record' : Option String}

theorem get?_records_set (key : String) :
    (s.set k name record).records.get? key =
      if key = k.key name then record else s.records.get? key := by
  cases record with
  | none => exact Dict.get?_erase ..
  | some text => exact Dict.get?_insert ..

theorem text?_set_of_ne (h : (k, name) ≠ (k', name')) :
    (s.set k name record).text? k' name' = s.text? k' name' := by
  rw [text?, get?_records_set, if_neg]
  · rfl
  · intro hkey
    obtain ⟨rfl, rfl⟩ := Kind.key_injective hkey
    exact h rfl

theorem set_comm (h : (k, name) ≠ (k', name')) :
    (s.set k name record).set k' name' record' = (s.set k' name' record').set k name record := by
  have hkey : k.key name ≠ k'.key name' := by
    intro hsame
    obtain ⟨rfl, rfl⟩ := Kind.key_injective hsame
    exact h rfl
  refine ext_get? fun key => ?_
  simp only [get?_records_set]
  split
  · next hkey' =>
    rw [if_neg (by rw [hkey']; exact hkey.symm)]
  · rfl

end Store

/-! ## Writes -/

/-- What is to stand under a kind and a name. -/
structure Write where
  kind : Kind
  name : String
  record : Option String

namespace Write

def target (w : Write) : Kind × String := (w.kind, w.name)

/-- The store after a write, unless it is to remove what is not there. -/
def onStore? (w : Write) (s : Store) : Option Store :=
  if w.record = none ∧ s.text? w.kind w.name = none then none
  else some (s.set w.kind w.name w.record)

variable {w w' : Write} {s s' : Store}

theorem onStore?_some (k : Kind) (name text : String) (s : Store) :
    onStore? ⟨k, name, some text⟩ s = some (s.put k name text) :=
  if_neg fun h => Option.some_ne_none text h.1

theorem onStore?_none (k : Kind) (name : String) (s : Store) :
    onStore? ⟨k, name, none⟩ s =
      if s.text? k name = none then none else some (s.remove k name) := by
  simp [onStore?, Store.set]

/-- A write elsewhere does not matter to what can be written. -/
theorem onStore?_set (h : w.target ≠ w'.target) :
    w'.onStore? (s.set w.kind w.name w.record) =
      (w'.onStore? s).map fun s' => s'.set w.kind w.name w.record := by
  unfold onStore?
  rw [Store.text?_set_of_ne h]
  split
  · rfl
  · exact congrArg some (Store.set_comm h)

/-- **Writes under different kinds and names can be made in either order.** -/
theorem onStore?_comm (h : w.target ≠ w'.target) (s : Store) :
    (w.onStore? s).bind w'.onStore? = (w'.onStore? s).bind w.onStore? := by
  have hcases (w : Write) :
      w.onStore? s = none ∨ w.onStore? s = some (s.set w.kind w.name w.record) := by
    unfold onStore?
    split
    · exact Or.inl rfl
    · exact Or.inr rfl
  rcases hcases w with hw | hw
  · rcases hcases w' with hw' | hw'
    · rw [hw, hw']
      rfl
    · rw [hw, hw', Option.bind_some, onStore?_set h.symm, hw]
      rfl
  · rcases hcases w' with hw' | hw'
    · rw [hw, hw', Option.bind_some, onStore?_set h, hw']
      rfl
    · rw [hw, hw', Option.bind_some, Option.bind_some, onStore?_set h, onStore?_set h.symm, hw, hw']
      exact congrArg some (Store.set_comm h.symm)

end Write

end ProxySync
