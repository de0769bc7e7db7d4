import ProxySync.Proofs.Sync.Change
import ProxySync.Proofs.Sync.Keeping

/-!
# Calls that do not render

Reading leaves store and file as they are (`Untouched`). An import leaves
the file and every record that is there as they are, and when the store has
changed at all it has a record more (`Seeded`).
-/

namespace ProxySync.Trial

open ConfigFile Act

variable {s s' s₁ : Scene Trial} {template : Template}

/-! ## Reading -/

/-- Store and file are the same in both scenes. -/
def Untouched (s s' : Scene Trial) : Prop :=
  s'.world.store = s.world.store ∧ s'.world.file = s.world.file

theorem ask_readConfig_untouched {r : Except ConfigFault String}
    (h : perform (ask ports.readConfig) s = (r, s')) : Untouched s s' := by
  rcases ask_readConfig h with ⟨fault, rfl, rfl⟩ | ⟨text, hfile, rfl, rfl⟩
  · exact ⟨rfl, rfl⟩
  · exact ⟨rfl, rfl⟩

theorem reloadProxy_untouched {r : Except ServiceFault Unit}
    (h : perform (service template).reloadProxy s = (r, s')) : Untouched s s' := by
  obtain ⟨x, hreload, rfl⟩ := perform_blaming h
  rcases reload_trace hreload with ⟨fault, rfl, rfl⟩ | ⟨rfl, rfl⟩
  · exact ⟨rfl, rfl⟩
  · exact ⟨rfl, rfl⟩

section Records

variable {α : Type} [Record α]

theorem get_untouched {name : String} {r : Except ServiceFault (Option α)}
    (h : perform ((service template).get α name) s = (r, s')) :
    Untouched s s' ∧ ∀ found, r = .ok found → s.world.store.get? name = .ok found := by
  obtain ⟨x, hlookup, rfl⟩ := perform_blaming h
  rcases lookup_trace hlookup with ⟨fault, rfl, rfl⟩ | ⟨rfl, rfl⟩
  · exact ⟨⟨rfl, rfl⟩, fun _ h => nomatch h⟩
  · refine ⟨⟨rfl, rfl⟩, fun found hfound => ?_⟩
    cases hget : (s.world.store.get? name : Except StoreFault (Option α)) with
    | error fault => rw [hget] at hfound; cases hfound
    | ok found' => rw [hget] at hfound; exact congrArg _ (Except.ok.inj hfound)

theorem list_untouched {r : Except ServiceFault (List α)}
    (h : perform ((service template).list α) s = (r, s')) : Untouched s s' := by
  obtain ⟨x, hlist, rfl⟩ := perform_blaming h
  rcases listAll_trace hlist with ⟨fault, rfl, rfl⟩ | ⟨rfl, rfl⟩
  · exact ⟨rfl, rfl⟩
  · exact ⟨rfl, rfl⟩

end Records

theorem members_untouched {pool : String} {r : Except ServiceFault (List Member)}
    (h : perform ((service template).members pool) s = (r, s')) : Untouched s s' := by
  rcases perform_bind h with ⟨e, hget, rfl⟩ | ⟨found, s₁, hget, hnext⟩
  · exact (get_untouched hget).1
  · cases found with
    | none =>
        obtain ⟨-, rfl⟩ := perform_throw hnext
        exact (get_untouched hget).1
    | some p =>
        obtain ⟨-, rfl⟩ := perform_pure hnext
        exact (get_untouched hget).1

/-! ## Importing -/

/-- From `s` to `s'` records were at most added. -/
structure Seeded (s s' : Scene Trial) : Prop where
  file_eq : s'.world.file = s.world.file
  text?_eq : ∀ k name text, s.world.store.text? k name = some text →
    s'.world.store.text? k name = some text
  added : s'.world.store = s.world.store ∨
    ∃ k name, s.world.store.text? k name = none ∧ s'.world.store.text? k name ≠ none
  canonical : s.world.store.Canonical → s'.world.store.Canonical

theorem Untouched.seeded (h : Untouched s s') : Seeded s s' where
  file_eq := h.2
  text?_eq _ _ _ htext := by rwa [h.1]
  added := Or.inl h.1
  canonical hs := by rwa [h.1]

theorem Seeded.trans (h : Seeded s s₁) (h' : Seeded s₁ s') : Seeded s s' where
  file_eq := h'.file_eq.trans h.file_eq
  text?_eq k name text htext := h'.text?_eq k name text (h.text?_eq k name text htext)
  added := by
    rcases h.added with heq | ⟨k, name, hnone, hsome⟩
    · rw [← heq]
      exact h'.added
    · obtain ⟨text, htext⟩ := Option.ne_none_iff_exists'.mp hsome
      refine Or.inr ⟨k, name, hnone, ?_⟩
      rw [h'.text?_eq k name text htext]
      exact Option.some_ne_none text
  canonical hs := h'.canonical (h.canonical hs)

section Records

variable {α : Type} [Record α] [EntityRecord α]

/-- Saving under a free name adds a record. -/
theorem seeded_save {a : α}
    (h : s.world.store.text? (Record.kind α) (Record.name a) = none) :
    Seeded s (s.after [(.put (Record.kind α) (Record.name a) (Record.text a), true)] []) where
  file_eq := rfl
  text?_eq k name text htext := by
    refine (Store.text?_put ..).trans ?_
    split
    · next hkey =>
      obtain ⟨rfl, rfl⟩ := hkey
      rw [h] at htext
      cases htext
    · exact htext
  added := by
    refine Or.inr ⟨Record.kind α, Record.name a, h, ?_⟩
    have hput : (s.world.store.put (Record.kind α) (Record.name a) (Record.text a)).text?
        (Record.kind α) (Record.name a) = some (Record.text a) := by
      rw [Store.text?_put, if_pos ⟨rfl, rfl⟩]
    exact ne_of_eq_of_ne hput (Option.some_ne_none _)
  canonical hs := hs.save a

theorem importOne_seeded {a : α} {r : Except ServiceFault Bool}
    (h : perform ((service template).importOne a) s = (r, s')) : Seeded s s' := by
  rcases perform_bind h with ⟨e, hname, rfl⟩ | ⟨name, s₁, hname, hrest⟩
  · obtain ⟨-, rfl⟩ := normalize_error hname
    exact Untouched.seeded ⟨rfl, rfl⟩
  obtain ⟨-, rfl⟩ := normalize_ok hname
  rcases perform_bind hrest with ⟨e, hget, rfl⟩ | ⟨found, s₂, hget, hnext⟩
  · exact (get_untouched hget).1.seeded
  obtain ⟨huntouched, hfound⟩ := get_untouched hget
  refine huntouched.seeded.trans ?_
  cases found with
  | some old =>
      obtain ⟨-, rfl⟩ := perform_pure hnext
      exact Untouched.seeded ⟨rfl, rfl⟩
  | none =>
      have hfree : s₂.world.store.text? (Record.kind α) (Record.name (Record.rename name a)) =
          none := by
        rw [LawfulRecord.name_rename, huntouched.1]
        exact Store.text?_of_get?_none (hfound none rfl)
      obtain ⟨x, hblame, -⟩ := perform_bind_pure hnext
      obtain ⟨y, hput, -⟩ := perform_blaming hblame
      rcases performs_store _ hput with ⟨fault, -, rfl⟩ | ⟨-, rfl⟩
      · exact Untouched.seeded ⟨rfl, rfl⟩
      · exact seeded_save hfree

end Records

theorem keeps_seeded {ε α : Type} {act : Act Trial ε α}
    (hact : ∀ {s s' r}, perform act s = (r, s') → Seeded s s') (s₀ : Scene Trial) :
    Keeps (Seeded s₀) act :=
  leads_of_perform fun _ _ _ hs h => hs.trans (hact h)

/-- **An import adds records or leaves everything as it is.** -/
theorem importConfig_seeded {r : Except ServiceFault ImportSummary}
    (h : perform (service template).importConfig s = (r, s')) : Seeded s s' := by
  have hread : Keeps (Seeded s) (ask ports.readConfig) :=
    keeps_seeded (fun hask => (ask_readConfig_untouched hask).seeded) s
  have hkept : Keeps (Seeded s) (service template).importConfig :=
    keeps_importConfig hread (fun l => keeps_seeded importOne_seeded s)
      fun p => keeps_seeded importOne_seeded s
  exact hkept.perform (Untouched.seeded ⟨rfl, rfl⟩) h

end ProxySync.Trial
