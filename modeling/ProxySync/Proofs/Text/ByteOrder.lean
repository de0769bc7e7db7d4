import Mathlib.Tactic.Common
import ProxySync.Text.Utf8

/-!
# The order of UTF-8 bytes

Texts are compared by the codes of their characters. Their UTF-8 bytes come
in the same order (`utf8Bytes_lt_iff`): a greater code has a greater byte at
the first place where its bytes differ from those of a smaller one, whatever
follows.
-/

namespace ProxySync.Text

theorem utf8EncodeChar_append_lt {c d : Char} (h : c < d) (x y : List UInt8) :
    String.utf8EncodeChar c ++ x < String.utf8EncodeChar d ++ y := by
  have hlt : c.val.toNat < d.val.toNat := h
  have hd : d.val.toNat < 1114112 := by
    rcases d.valid with hd | hd
    · exact Nat.lt_trans hd (by decide)
    · exact hd.2
  simp only [String.utf8EncodeChar]
  generalize c.val.toNat = m at hlt
  generalize d.val.toNat = n at hlt hd
  have hm : m / 4096 = m / 64 / 64 ∧ m / 262144 = m / 64 / 64 / 64 := by omega
  have hn : n / 4096 = n / 64 / 64 ∧ n / 262144 = n / 64 / 64 / 64 := by omega
  rw [hm.1, hm.2, hn.1, hn.2]
  clear hm hn
  -- The first byte tells the number of bytes, so unequal numbers are settled there.
  split_ifs <;>
    simp only [List.cons_append, List.nil_append, List.cons_lt_cons_iff, UInt8.lt_iff_toNat_lt,
      ← UInt8.toNat_inj, UInt8.toNat_ofNat'] <;>
    omega

theorem flatMap_utf8EncodeChar_lt {a b : List Char} (h : a < b) :
    a.flatMap String.utf8EncodeChar < b.flatMap String.utf8EncodeChar := by
  induction a generalizing b with
  | nil =>
      cases b with
      | nil => exact absurd h (List.lt_irrefl _)
      | cons d b =>
          have hne : String.utf8EncodeChar d ≠ [] := by
            rw [← List.length_pos_iff, String.length_utf8EncodeChar]
            exact d.utf8Size_pos
          obtain ⟨byte, bytes, hd⟩ := List.exists_cons_of_ne_nil hne
          rw [List.flatMap_nil, List.flatMap_cons, hd]
          exact List.nil_lt_cons ..
  | cons c a ih =>
      cases b with
      | nil => exact absurd h (List.not_lt_nil _)
      | cons d b =>
          rw [List.flatMap_cons, List.flatMap_cons]
          rcases List.cons_lt_cons_iff.mp h with hlt | ⟨rfl, htail⟩
          · exact utf8EncodeChar_append_lt hlt _ _
          · exact List.append_left_lt (ih htail)

/-- **A smaller text has smaller bytes.** -/
theorem utf8Bytes_lt {a b : String} (h : a < b) : utf8Bytes a < utf8Bytes b :=
  flatMap_utf8EncodeChar_lt h

theorem utf8Bytes_lt_iff {a b : String} : utf8Bytes a < utf8Bytes b ↔ a < b := by
  refine ⟨fun h => ?_, utf8Bytes_lt⟩
  by_contra hlt
  have hle : b ≤ a := String.not_lt.mp hlt
  by_cases hgt : b < a
  · exact List.lt_asymm h (utf8Bytes_lt hgt)
  · obtain rfl := String.le_antisymm (String.not_lt.mp hgt) hle
    exact List.lt_irrefl _ h

end ProxySync.Text
