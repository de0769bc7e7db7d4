import ProxySync.Dict

/-!
# Dictionaries by their look-ups

A dictionary is determined by what it holds under each key (`Dict.ext_get?`),
so equations between dictionaries are checked key by key: writing a key
twice, or writing it and taking it back, leaves nothing behind. Entries that
come in key order are put back one after the other at the end
(`insertEntry_of_forall_lt`).
-/

namespace ProxySync

/-! ## Entry lists -/

theorem insertEntry_of_forall_lt {α : Type} {key : String} {value : α} {l : List (String × α)}
    (h : ∀ e ∈ l, e.1 < key) : insertEntry key value l = l ++ [(key, value)] := by
  induction l with
  | nil => rfl
  | cons a l ih =>
      have ha : a.1 < key := h a List.mem_cons_self
      have hlt : ¬ key < a.1 := fun hk => String.lt_irrefl _ (String.lt_trans hk ha)
      have hne : key ≠ a.1 := fun hk => String.lt_irrefl _ (hk ▸ ha)
      rw [insertEntry, if_neg hlt, if_neg hne,
        ih fun e he => h e (List.mem_cons_of_mem _ he)]
      rfl

theorem mem_of_lookup_entry {α : Type} {l : List (String × α)} {key : String} {value : α}
    (h : l.lookup key = some value) : (key, value) ∈ l := by
  induction l with
  | nil => cases h
  | cons a l ih =>
      rw [lookup_entry_cons] at h
      split at h
      · next hk =>
        obtain rfl := Option.some.inj h
        exact hk ▸ List.mem_cons_self
      · exact List.mem_cons_of_mem _ (ih h)

theorem lookup_eq_none_of_not_mem {α : Type} {l : List (String × α)} {key : String}
    (h : key ∉ l.map (·.1)) : l.lookup key = none := by
  rw [List.lookup_eq_none_iff]
  intro e he
  have hne : key ≠ e.1 := fun hkey => h (List.mem_map.mpr ⟨e, he, hkey.symm⟩)
  simpa using hne

theorem lookup_eq_some_iff {α : Type} {l : List (String × α)} (hl : InKeyOrder l) {key : String}
    {value : α} : l.lookup key = some value ↔ (key, value) ∈ l := by
  refine ⟨mem_of_lookup_entry, fun h => ?_⟩
  induction l with
  | nil => cases h
  | cons a l ih =>
      obtain ⟨ha, hl⟩ := List.pairwise_cons.mp hl
      rw [lookup_entry_cons]
      rcases List.mem_cons.mp h with rfl | h
      · simp
      · have hlt := ha _ h
        rw [if_neg fun hk => String.lt_irrefl _ (hk ▸ hlt), ih hl h]

theorem InKeyOrder.nodup_keys {α : Type} {l : List (String × α)} (h : InKeyOrder l) :
    (l.map (·.1)).Nodup := by
  rw [List.Nodup, List.pairwise_map]
  refine h.imp ?_
  intro e e' hlt hsame
  rw [hsame] at hlt
  exact String.lt_irrefl _ hlt

/-- Two lists in key order with the same entries are the same list. -/
theorem InKeyOrder.ext {α : Type} {l l' : List (String × α)} (hl : InKeyOrder l)
    (hl' : InKeyOrder l') (h : ∀ e, e ∈ l ↔ e ∈ l') : l = l' := by
  induction l generalizing l' with
  | nil =>
      cases l' with
      | nil => rfl
      | cons a l' => exact absurd ((h a).mpr List.mem_cons_self) (by simp)
  | cons a l ih =>
      cases l' with
      | nil => exact absurd ((h a).mp List.mem_cons_self) (by simp)
      | cons b l' =>
          obtain ⟨ha, htail⟩ := List.pairwise_cons.mp hl
          obtain ⟨hb, htail'⟩ := List.pairwise_cons.mp hl'
          -- Either head is below all entries of its tail, so neither can be in the other's tail.
          have hab : a = b := by
            rcases List.mem_cons.mp ((h a).mp List.mem_cons_self) with hab | hab
            · exact hab
            · rcases List.mem_cons.mp ((h b).mpr List.mem_cons_self) with hba | hba
              · exact hba.symm
              · exact absurd (String.lt_trans (ha b hba) (hb a hab)) (String.lt_irrefl _)
          subst hab
          congr 1
          refine ih htail htail' fun e => ⟨fun he => ?_, fun he => ?_⟩
          · rcases List.mem_cons.mp ((h e).mp (List.mem_cons_of_mem _ he)) with rfl | he'
            · exact absurd (ha e he) (String.lt_irrefl _)
            · exact he'
          · rcases List.mem_cons.mp ((h e).mpr (List.mem_cons_of_mem _ he)) with rfl | he'
            · exact absurd (hb e he) (String.lt_irrefl _)
            · exact he'

/-! ## Dictionaries -/

namespace Dict

variable {α : Type}

theorem mem_entries_iff {d : Dict α} {key : String} {value : α} :
    (key, value) ∈ d.entries ↔ d.get? key = some value :=
  (lookup_eq_some_iff d.inKeyOrder).symm

theorem ext_get? {d d' : Dict α} (h : ∀ key, d.get? key = d'.get? key) : d = d' := by
  have hentries : d.entries = d'.entries :=
    d.inKeyOrder.ext d'.inKeyOrder fun e => by
      rw [mem_entries_iff (d := d), mem_entries_iff (d := d'), h]
  cases d
  cases d'
  simpa using hentries

/-- Writing a key back to what it held undoes a write of that key. -/
theorem insert_insert_of_get? {d : Dict α} {key : String} {old : α} (h : d.get? key = some old)
    (value : α) : (d.insert key value).insert key old = d := by
  refine ext_get? fun k => ?_
  rw [get?_insert, get?_insert]
  split
  · next hk => rw [hk, h]
  · rfl

/-- Removing a key that was not there undoes a write of that key. -/
theorem erase_insert_of_get? {d : Dict α} {key : String} (h : d.get? key = none) (value : α) :
    (d.insert key value).erase key = d := by
  refine ext_get? fun k => ?_
  rw [get?_erase, get?_insert]
  split
  · next hk => rw [hk, h]
  · rfl

/-- Writing a key back to what it held undoes its removal. -/
theorem insert_erase_of_get? {d : Dict α} {key : String} {old : α} (h : d.get? key = some old) :
    (d.erase key).insert key old = d := by
  refine ext_get? fun k => ?_
  rw [get?_insert, get?_erase]
  split
  · next hk => rw [hk, h]
  · rfl

end Dict

end ProxySync
