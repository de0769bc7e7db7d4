import Mathlib.Algebra.Group.Nat.Defs
import ProxySync.Text.Numeral

/-!
# Written numbers read back

`digits` writes a number without leading zeros. Its characters are digits
and nothing else (`digitValue?_of_mem_digits`), adding them up from the left
gives the number again (`foldl_digits`), and so the bounded reader returns
every number within its bound (`readNumeral_digits`). The readers of JSON
numbers and of dates stand on the same three facts. The texts that the bounded
reader accepts are those of `IsNumeral` (`readNumeral_eq_ok_iff`).
-/

namespace ProxySync.Text

/-- The values of the digit characters of a text. -/
def digitValues (s : List Char) : List Nat := s.filterMap digitValue?

@[simp] theorem digitValues_append (s t : List Char) :
    digitValues (s ++ t) = digitValues s ++ digitValues t :=
  List.filterMap_append

/-! ## Single digits -/

theorem digitValue?_digitChar : ∀ n < 10, digitValue? n.digitChar = some n := by decide

/-- All but the last digit write the tenth part, so facts about `digits`
follow by recursion on the tenth part. -/
theorem digits_eq (n : Nat) :
    digits n = if n < 10 then [n.digitChar] else digits (n / 10) ++ [(n % 10).digitChar] :=
  Nat.toDigits_eq_if (by decide)

theorem digits_ne_nil (n : Nat) : digits n ≠ [] := Nat.toDigits_ne_nil

theorem digitValue?_of_mem_digits (n : Nat) :
    ∀ c ∈ digits n, ∃ d, digitValue? c = some d := by
  induction n using Nat.strongRecOn with
  | _ n ih =>
      rw [digits_eq]
      split
      · next h =>
        intro c hc
        obtain rfl := List.mem_singleton.mp hc
        exact ⟨n, digitValue?_digitChar n h⟩
      · next h =>
        intro c hc
        rcases List.mem_append.mp hc with hc | hc
        · exact ih (n / 10) (by omega) c hc
        · obtain rfl := List.mem_singleton.mp hc
          exact ⟨n % 10, digitValue?_digitChar _ (Nat.mod_lt n (by decide))⟩

theorem not_mem_digits {c : Char} (hc : digitValue? c = none) (n : Nat) : c ∉ digits n := by
  intro hmem
  obtain ⟨d, hd⟩ := digitValue?_of_mem_digits n c hmem
  rw [hc] at hd
  cases hd

/-! ## Values -/

theorem le_foldl_digits (ds : List Nat) (acc : Nat) : acc ≤ ds.foldl (10 * · + ·) acc := by
  induction ds generalizing acc with
  | nil => exact Nat.le_refl acc
  | cons d ds ih =>
      have := ih (10 * acc + d)
      simp only [List.foldl_cons]
      omega

theorem foldl_digits (n : Nat) : (digitValues (digits n)).foldl (10 * · + ·) 0 = n := by
  induction n using Nat.strongRecOn with
  | _ n ih =>
      rw [digits_eq]
      split
      · next h => simp [digitValues, digitValue?_digitChar n h]
      · next h =>
        have hlast := digitValue?_digitChar _ (Nat.mod_lt n (show 0 < 10 by decide))
        rw [digitValues_append, List.foldl_append, ih (n / 10) (by omega)]
        simp only [digitValues, List.filterMap_cons, hlast, List.filterMap_nil,
          List.foldl_cons, List.foldl_nil]
        omega

/-- Only the number zero is written with a zero in front. -/
theorem head?_digits_ne_zero {n : Nat} (hn : 0 < n) : (digits n).head? ≠ some '0' := by
  induction n using Nat.strongRecOn with
  | _ n ih =>
      rw [digits_eq]
      split
      · next h =>
        simp only [List.head?_cons, ne_eq, Option.some.injEq, Nat.digitChar_eq_zero]
        omega
      · next h =>
        rw [List.head?_append, Option.or_of_isSome (by simp [digits_ne_nil])]
        exact ih (n / 10) (by omega) (by omega)

theorem length_digits_le {n k : Nat} (hk : 0 < k) : (digits n).length ≤ k ↔ n < 10 ^ k :=
  Nat.length_toDigits_le_iff (by decide) hk

/-! ## The bounded reader -/

theorem readDigits_eq {bound : Nat} {s : List Char} :
    ∀ {acc : Nat}, (∀ c ∈ s, ∃ d, digitValue? c = some d) →
      (digitValues s).foldl (10 * · + ·) acc ≤ bound →
      readDigits bound acc s = .ok ((digitValues s).foldl (10 * · + ·) acc) := by
  induction s with
  | nil =>
      intro acc _ _
      rfl
  | cons c s ih =>
      intro acc hs hle
      obtain ⟨d, hd⟩ := hs c List.mem_cons_self
      have hcons : digitValues (c :: s) = d :: digitValues s := by simp [digitValues, hd]
      rw [hcons, List.foldl_cons] at hle ⊢
      have hstep : 10 * acc + d ≤ bound :=
        Nat.le_trans (le_foldl_digits (digitValues s) (10 * acc + d)) hle
      rw [readDigits, hd]
      simp only [if_pos hstep]
      exact ih (fun c hc => hs c (List.mem_cons_of_mem _ hc)) hle

theorem readNumeral_digits {bound n : Nat} (h : n ≤ bound) :
    readNumeral bound (digits n) = .ok n := by
  have hread : readDigits bound 0 (digits n) = .ok n := by
    rw [readDigits_eq (digitValue?_of_mem_digits n) (by rwa [foldl_digits]), foldl_digits]
  have hplus : '+' ∉ digits n := not_mem_digits (by decide) n
  rw [readNumeral.eq_def]
  split
  · next h0 => exact absurd h0 (digits_ne_nil n)
  · next h0 => exact absurd (by simp [h0]) hplus
  · next h0 => exact absurd (by simp [h0]) hplus
  · exact hread

/-! ## What the bounded reader accepts -/

/-- The text is a numeral of this value: decimal digits, after a plus sign or
on their own. -/
def IsNumeral (s : List Char) (n : Nat) : Prop :=
  ∃ ds, (s = ds ∨ s = '+' :: ds) ∧ ds ≠ [] ∧ ds.all Char.isDigit = true ∧
    Nat.ofDigitChars 10 ds 0 = n

theorem digitValue?_of_isDigit {c : Char} (h : c.isDigit = true) :
    digitValue? c = some (c.toNat - '0'.toNat) := by
  simp only [Char.isDigit, Bool.and_eq_true, decide_eq_true_eq] at h
  exact if_pos h

theorem digitValue?_eq_none {c : Char} (h : c.isDigit = false) : digitValue? c = none := by
  refine if_neg fun hc => ?_
  simp only [Char.isDigit, Bool.and_eq_false_iff, decide_eq_false_iff_not] at h
  exact h.elim (· hc.1) (· hc.2)

theorem le_ofDigitChars (s : List Char) (acc : Nat) : acc ≤ Nat.ofDigitChars 10 s acc := by
  induction s generalizing acc with
  | nil => exact Nat.le_refl acc
  | cons c s ih =>
      rw [Nat.ofDigitChars_cons]
      have := ih (10 * acc + (c.toNat - '0'.toNat))
      omega

theorem readDigits_eq_ok_iff {bound n : Nat} {s : List Char} {acc : Nat} (hacc : acc ≤ bound) :
    readDigits bound acc s = .ok n ↔
      s.all Char.isDigit = true ∧ Nat.ofDigitChars 10 s acc = n ∧ n ≤ bound := by
  induction s generalizing acc with
  | nil =>
      rw [readDigits, Nat.ofDigitChars_nil, Except.ok.injEq]
      constructor
      · rintro rfl
        exact ⟨rfl, rfl, hacc⟩
      · rintro ⟨-, h, -⟩
        exact h
  | cons c s ih =>
      rw [List.all_cons, Bool.and_eq_true, Nat.ofDigitChars_cons, readDigits]
      cases hc : c.isDigit with
      | false =>
          rw [digitValue?_eq_none hc]
          exact ⟨nofun, fun h => absurd h.1.1 Bool.false_ne_true⟩
      | true =>
          rw [digitValue?_of_isDigit hc]
          by_cases hle : 10 * acc + (c.toNat - '0'.toNat) ≤ bound
          · simp only [if_pos hle, ih hle, true_and]
          · simp only [if_neg hle, true_and]
            have hgrow := le_ofDigitChars s (10 * acc + (c.toNat - '0'.toNat))
            constructor
            · exact nofun
            · rintro ⟨-, rfl, hn⟩
              omega

theorem readNumeral_plus {ds : List Char} (hne : ds ≠ []) (bound : Nat) :
    readNumeral bound ('+' :: ds) = readDigits bound 0 ds := by
  rw [readNumeral]
  exact hne

theorem readNumeral_of_head {ds : List Char} (hne : ds ≠ []) (hplus : ds.head? ≠ some '+')
    (bound : Nat) : readNumeral bound ds = readDigits bound 0 ds := by
  rw [readNumeral.eq_def]
  split
  · exact absurd rfl hne
  · exact absurd rfl hplus
  · exact absurd rfl hplus
  · rfl

/-- **The bounded reader accepts the numerals within its bound.** -/
theorem readNumeral_eq_ok_iff {bound n : Nat} {s : List Char} :
    readNumeral bound s = .ok n ↔ IsNumeral s n ∧ n ≤ bound := by
  constructor
  · intro h
    by_cases hne : s = []
    · rw [hne] at h
      cases h
    by_cases hplus : s.head? = some '+'
    · obtain ⟨ds, rfl⟩ := List.head?_eq_some_iff.mp hplus
      by_cases hds : ds = []
      · rw [hds] at h
        cases h
      rw [readNumeral_plus hds] at h
      obtain ⟨hall, hval, hle⟩ := (readDigits_eq_ok_iff (Nat.zero_le bound)).mp h
      exact ⟨⟨ds, Or.inr rfl, hds, hall, hval⟩, hle⟩
    · rw [readNumeral_of_head hne hplus] at h
      obtain ⟨hall, hval, hle⟩ := (readDigits_eq_ok_iff (Nat.zero_le bound)).mp h
      exact ⟨⟨s, Or.inl rfl, hne, hall, hval⟩, hle⟩
  · rintro ⟨⟨ds, hs, hne, hall, hval⟩, hle⟩
    have hread : readDigits bound 0 ds = .ok n :=
      (readDigits_eq_ok_iff (Nat.zero_le bound)).mpr ⟨hall, hval, hle⟩
    rcases hs with rfl | rfl
    · have hplus : s.head? ≠ some '+' := by
        intro hhead
        have hdigit := List.all_eq_true.mp hall '+' (List.mem_of_head? hhead)
        exact absurd hdigit (by decide)
      rw [readNumeral_of_head hne hplus, hread]
    · rw [readNumeral_plus hne, hread]

theorem isNumeral_digits (n : Nat) : IsNumeral (digits n) n := by
  have hall : (digits n).all Char.isDigit = true := by
    refine List.all_eq_true.mpr fun c hc => ?_
    exact Nat.isDigit_of_mem_toDigits (by decide) (by decide) hc
  exact ⟨digits n, Or.inl rfl, digits_ne_nil n, hall,
    Nat.ofDigitChars_toDigits (by decide) (by decide)⟩

end ProxySync.Text
