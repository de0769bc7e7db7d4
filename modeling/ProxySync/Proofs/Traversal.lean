import Mathlib.Data.List.Forall2

/-!
# Lists that are read up to the first fault

Going through a list gives what its elements give, one for one, when none of
them is at fault (`mapM_eq_ok_iff`), and else the fault of the first one that
is (`mapM_eq_error_iff`).
-/

namespace ProxySync

variable {ε ε' β γ : Type} {f : β → Except ε γ}

theorem ok_of_toOption {x : Except ε γ} {c : γ} (h : x.toOption = some c) : x = .ok c := by
  cases x with
  | ok c' => exact congrArg _ (Option.some.inj h)
  | error fault => cases h

theorem mapError_eq_ok_iff {g : ε → ε'} {x : Except ε γ} {c : γ} :
    x.mapError g = .ok c ↔ x = .ok c := by
  cases x <;> simp [Except.mapError]

theorem mapError_eq_error_iff {g : ε → ε'} {x : Except ε γ} {e' : ε'} :
    x.mapError g = .error e' ↔ ∃ e, x = .error e ∧ e' = g e := by
  cases x <;> simp [Except.mapError, eq_comm]

theorem mapM_cons_eq_ok_iff {b : β} {l : List β} {cs : List γ} :
    (b :: l).mapM f = .ok cs ↔ ∃ c cs', f b = .ok c ∧ l.mapM f = .ok cs' ∧ c :: cs' = cs := by
  rw [List.mapM_cons]
  cases f b with
  | error e => simp [bind, Except.bind]
  | ok c => cases l.mapM f <;> simp [bind, Except.bind, pure, Except.pure]

theorem mapM_eq_ok_iff {l : List β} {cs : List γ} :
    l.mapM f = .ok cs ↔ List.Forall₂ (fun b c => f b = .ok c) l cs := by
  induction l generalizing cs with
  | nil =>
      rw [List.forall₂_nil_left_iff]
      exact ⟨fun h => (Except.ok.inj h).symm, fun h => h ▸ rfl⟩
  | cons b l ih =>
      rw [mapM_cons_eq_ok_iff, List.forall₂_cons_left_iff]
      simp only [ih]
      exact ⟨fun ⟨c, cs', hc, hcs, h⟩ => ⟨c, cs', hc, hcs, h.symm⟩,
        fun ⟨c, cs', hc, hcs, h⟩ => ⟨c, cs', hc, hcs, h.symm⟩⟩

theorem exists_mapM_eq_ok_iff {l : List β} :
    (∃ cs, l.mapM f = .ok cs) ↔ ∀ b ∈ l, ∃ c, f b = .ok c := by
  induction l with
  | nil => exact ⟨fun _ b hb => absurd hb List.not_mem_nil, fun _ => ⟨[], rfl⟩⟩
  | cons b l ih =>
      rw [List.forall_mem_cons, ← ih]
      constructor
      · rintro ⟨_, hcs⟩
        obtain ⟨c, cs, hc, hcs, -⟩ := mapM_cons_eq_ok_iff.mp hcs
        exact ⟨⟨c, hc⟩, cs, hcs⟩
      · rintro ⟨⟨c, hc⟩, cs, hcs⟩
        exact ⟨c :: cs, mapM_cons_eq_ok_iff.mpr ⟨c, cs, hc, hcs, rfl⟩⟩

theorem mapM_map_eq_ok {g : γ → β} (h : ∀ c, f (g c) = .ok c) (cs : List γ) :
    (cs.map g).mapM f = .ok cs := by
  induction cs with
  | nil => rfl
  | cons c cs ih => exact mapM_cons_eq_ok_iff.mpr ⟨c, cs, h c, ih, rfl⟩

/-- **The first fault decides.** -/
theorem mapM_eq_error_iff {l : List β} {e : ε} :
    l.mapM f = .error e ↔ ∃ before b after, l = before ++ b :: after ∧
      (∀ a ∈ before, ∃ c, f a = .ok c) ∧ f b = .error e := by
  constructor
  · intro h
    induction l with
    | nil => cases h
    | cons b l ih =>
        rw [List.mapM_cons] at h
        cases hb : f b with
        | error e' =>
            rw [hb] at h
            cases h
            exact ⟨[], b, l, rfl, List.forall_mem_nil _, hb⟩
        | ok c =>
            cases hl : l.mapM f with
            | ok cs =>
                rw [hb, hl] at h
                cases h
            | error e' =>
                rw [hb, hl] at h
                cases h
                obtain ⟨before, b', after, rfl, hbefore, hb'⟩ := ih hl
                exact ⟨b :: before, b', after, rfl,
                  List.forall_mem_cons.mpr ⟨⟨c, hb⟩, hbefore⟩, hb'⟩
  · rintro ⟨before, b, after, rfl, hbefore, hb⟩
    obtain ⟨cs, hcs⟩ := exists_mapM_eq_ok_iff.mpr hbefore
    rw [List.mapM_append, hcs, List.mapM_cons, hb]
    rfl

end ProxySync
