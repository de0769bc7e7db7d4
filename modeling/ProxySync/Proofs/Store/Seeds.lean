import Mathlib.Data.List.Perm.Basic
import ProxySync.Proofs.Store.Writes

/-!
# Seeding a store

An entity is seeded by saving it unless one of its kind and name is there. Of
a list of entities each key takes the first, and only where it was free
(`get?_seedAll`). So a list that has been seeded is not seeded again
(`seedAll_seedAll`), and what is seeded can be counted by the records there
are of a kind (`length_scan_seed`).
-/

namespace ProxySync

/-- The entity as it is stored: under the normal form of its name. -/
def Entity.stored? (e : Entity) : Option Entity := (normalName? e.name).map e.rename

/-- The first of the entities that belongs under a key. -/
def Entity.firstOf? (es : List Entity) (key : String) : Option Entity := es.find? (·.key = key)

namespace Store

/-- The store with the entity in it, unless one of its kind and name is there. -/
def seed (s : Store) (e : Entity) : Store :=
  if s.text? e.kind e.name = none then s.saveEntity e else s

def seedAll (s : Store) (es : List Entity) : Store := es.foldl seed s

variable {s : Store} {e : Entity} {es es' : List Entity} {key : String}

theorem seed_of_free (h : s.text? e.kind e.name = none) : s.seed e = s.saveEntity e := if_pos h

theorem seed_of_taken (h : s.text? e.kind e.name ≠ none) : s.seed e = s := if_neg h

theorem seedAll_append : s.seedAll (es ++ es') = (s.seedAll es).seedAll es' := List.foldl_append

theorem Canonical.seed (h : s.Canonical) (e : Entity) : (s.seed e).Canonical := by
  unfold Store.seed
  split
  · exact h.saveEntity e
  · exact h

theorem Canonical.seedAll (h : s.Canonical) (es : List Entity) : (s.seedAll es).Canonical := by
  induction es generalizing s with
  | nil => exact h
  | cons e es ih => exact ih (h.seed e)

/-! ## What is there -/

theorem get?_seed (key : String) :
    (s.seed e).records.get? key =
      (s.records.get? key).or (if e.key = key then some e.text else none) := by
  by_cases hfree : s.text? e.kind e.name = none
  · have hput : (s.saveEntity e).records.get? key =
        if key = e.key then some e.text else s.records.get? key := by
      rw [saveEntity_eq]
      exact Dict.get?_insert ..
    rw [seed_of_free hfree, hput]
    by_cases hkey : e.key = key
    · have hnone : s.records.get? key = none := hkey ▸ hfree
      rw [if_pos hkey.symm, if_pos hkey, hnone]
      rfl
    · rw [if_neg (Ne.symm hkey), if_neg hkey, Option.or_none]
  · rw [seed_of_taken hfree]
    by_cases hkey : e.key = key
    · obtain ⟨text, htext⟩ := Option.ne_none_iff_exists'.mp hfree
      have hsome : s.records.get? key = some text := hkey ▸ htext
      rw [hsome]
      rfl
    · rw [if_neg hkey, Option.or_none]

/-- **What was there stays, and a free key takes the first entity that belongs
there.** -/
theorem get?_seedAll (s : Store) (es : List Entity) (key : String) :
    (s.seedAll es).records.get? key =
      (s.records.get? key).or ((Entity.firstOf? es key).map Entity.text) := by
  induction es generalizing s with
  | nil => exact (Option.or_none ..).symm
  | cons e es ih =>
      have hstep : s.seedAll (e :: es) = (s.seed e).seedAll es := rfl
      rw [hstep, ih, get?_seed, Option.or_assoc, Entity.firstOf?, Entity.firstOf?, List.find?_cons]
      by_cases hkey : e.key = key
      · simp [hkey]
      · simp [hkey]

/-- What has been seeded is not seeded again. -/
theorem seedAll_seedAll (s : Store) (es : List Entity) :
    (s.seedAll es).seedAll es = s.seedAll es := by
  refine ext_get? fun key => ?_
  rw [get?_seedAll, get?_seedAll, Option.or_assoc, Option.or_self]

/-- A list that has been seeded in part may be seeded again from its start. -/
theorem seedAll_of_prefix (h : es <+: es') (s : Store) :
    (s.seedAll es).seedAll es' = s.seedAll es' := by
  obtain ⟨later, rfl⟩ := h
  rw [seedAll_append, seedAll_append, seedAll_seedAll]

/-! ## How much is there -/

theorem scan_saveEntity_of_kind_ne {k : Kind} (h : e.kind ≠ k) :
    (s.saveEntity e).scan k = s.scan k := by
  refine (inKeyOrder_scan _ k).ext (inKeyOrder_scan _ k) fun entry => ?_
  obtain ⟨key, text⟩ := entry
  rw [mem_scan, mem_scan]
  refine exists_congr fun name => ?_
  rw [text?_saveEntity, if_neg fun hkey => h hkey.1]

/-- Saving under a free name adds one record to those of the kind. -/
theorem scan_saveEntity_perm (h : s.text? e.kind e.name = none) :
    ((s.saveEntity e).scan e.kind).Perm ((e.key, e.text) :: s.scan e.kind) := by
  have hnodup (s : Store) : (s.scan e.kind).Nodup := (inKeyOrder_scan s e.kind).nodup_keys.of_map _
  have hfresh : (e.key, e.text) ∉ s.scan e.kind := by
    intro hmem
    obtain ⟨name, hkey, htext⟩ := mem_scan.mp hmem
    obtain ⟨-, rfl⟩ := Kind.key_injective hkey
    rw [h] at htext
    cases htext
  rw [List.perm_ext_iff_of_nodup (hnodup _) (List.nodup_cons.mpr ⟨hfresh, hnodup s⟩)]
  rintro ⟨key, text⟩
  rw [List.mem_cons, mem_scan, mem_scan]
  constructor
  · rintro ⟨name, rfl, htext⟩
    rw [text?_saveEntity] at htext
    split at htext
    · next hname =>
      obtain rfl := Option.some.inj htext
      exact .inl (by rw [← hname.2]; rfl)
    · exact .inr ⟨name, rfl, htext⟩
  · rintro (hentry | ⟨name, rfl, htext⟩)
    · obtain ⟨rfl, rfl⟩ := Prod.mk.inj hentry
      exact ⟨e.name, rfl, by rw [text?_saveEntity, if_pos ⟨rfl, rfl⟩]⟩
    · refine ⟨name, rfl, ?_⟩
      rw [text?_saveEntity, if_neg, htext]
      rintro ⟨-, rfl⟩
      rw [h] at htext
      cases htext

/-- The records of a kind are one more where an entity of the kind was seeded. -/
theorem length_scan_seed (s : Store) (e : Entity) :
    ((s.seed e).scan e.kind).length =
      (s.scan e.kind).length + if s.text? e.kind e.name = none then 1 else 0 := by
  by_cases hfree : s.text? e.kind e.name = none
  · rw [seed_of_free hfree, (scan_saveEntity_perm hfree).length_eq, List.length_cons, if_pos hfree]
  · rw [seed_of_taken hfree, if_neg hfree, Nat.add_zero]

theorem scan_seedAll_of_kind_ne {k : Kind} (h : ∀ e ∈ es, e.kind ≠ k) (s : Store) :
    (s.seedAll es).scan k = s.scan k := by
  induction es generalizing s with
  | nil => rfl
  | cons e es ih =>
      obtain ⟨he, hes⟩ := List.forall_mem_cons.mp h
      have hstep : (s.seed e).scan k = s.scan k := by
        unfold seed
        split
        · exact scan_saveEntity_of_kind_ne he
        · rfl
      exact (ih hes (s.seed e)).trans hstep

end Store

end ProxySync
