import Mathlib.Tactic.Common
import ProxySync.Text.Utf8

/-!
# Reading UTF-8 back

The bytes of a character are read as that character, whatever follows them
(`firstChar?_utf8EncodeChar`): its lead byte tells how many continuation bytes
belong to it, and its code is neither a surrogate nor written too long. So a
text is what its bytes spell (`ofUtf8?_utf8Bytes`).
-/

namespace ProxySync.Text

variable {n x y z : Nat}

/-! ## Bytes and codes -/

theorem toNat_ofNat_of_lt (h : n < 256) : (UInt8.ofNat n).toNat = n := by
  rw [UInt8.toNat_ofNat']
  exact Nat.mod_eq_of_lt h

theorem continuation?_ofNat (h : x < 64) : continuation? (UInt8.ofNat (x + 128)) = some x := by
  have hbyte : (UInt8.ofNat (x + 128)).toNat = x + 128 := toNat_ofNat_of_lt (by omega)
  have hle : 0x80 ≤ UInt8.ofNat (x + 128) := by
    rw [UInt8.le_iff_toNat_le, hbyte]
    exact Nat.le_add_left 128 x
  have hlt : UInt8.ofNat (x + 128) < 0xC0 := by
    rw [UInt8.lt_iff_toNat_lt, hbyte]
    exact Nat.add_lt_add_right h 128
  rw [continuation?, decide_eq_true hle, decide_eq_true hlt, Bool.and_self, if_pos rfl, hbyte]
  exact congrArg some (Nat.add_sub_cancel x 128)

theorem charAbove?_of_le {c : Char} {least : Nat} (h : least ≤ c.toNat) :
    charAbove? least c.toNat = some c := by
  have hvalid : c.toNat < 0xD800 ∨ 0xDFFF < c.toNat ∧ c.toNat < 0x110000 := c.valid
  rw [charAbove?, if_neg, Char.ofNat_toNat]
  simp only [Bool.or_eq_true, Bool.and_eq_true, decide_eq_true_eq]
  omega

/-! ## Lead bytes -/

theorem firstChar?_one (h : n < 128) (rest : List UInt8) :
    firstChar? (UInt8.ofNat n :: rest) = some (Char.ofNat n, 0) := by
  have hbyte : (UInt8.ofNat n).toNat = n := toNat_ofNat_of_lt (by omega)
  have hlt : UInt8.ofNat n < 0x80 := by
    rw [UInt8.lt_iff_toNat_lt, hbyte]
    exact h
  rw [firstChar?, if_pos hlt, hbyte]

theorem firstChar?_two (hx : x < 32) (hy : y < 64) (rest : List UInt8) :
    firstChar? (UInt8.ofNat (x + 192) :: UInt8.ofNat (y + 128) :: rest) =
      (charAbove? 0x80 (x * 64 + y)).map (·, 1) := by
  have hbyte : (UInt8.ofNat (x + 192)).toNat = x + 192 := toNat_ofNat_of_lt (by omega)
  simp only [firstChar?, UInt8.lt_iff_toNat_lt, hbyte, UInt8.reduceToNat]
  rw [if_neg (by omega), if_neg (by omega), if_pos (by omega)]
  simp only [List.getElem?_cons_zero, Option.bind_eq_bind, Option.bind_some,
    continuation?_ofNat hy, Nat.add_sub_cancel]

theorem firstChar?_three (hx : x < 16) (hy : y < 64) (hz : z < 64) (rest : List UInt8) :
    firstChar? (UInt8.ofNat (x + 224) :: UInt8.ofNat (y + 128) :: UInt8.ofNat (z + 128) :: rest) =
      (charAbove? 0x800 ((x * 64 + y) * 64 + z)).map (·, 2) := by
  have hbyte : (UInt8.ofNat (x + 224)).toNat = x + 224 := toNat_ofNat_of_lt (by omega)
  simp only [firstChar?, UInt8.lt_iff_toNat_lt, hbyte, UInt8.reduceToNat]
  rw [if_neg (by omega), if_neg (by omega), if_neg (by omega), if_pos (by omega)]
  simp only [List.getElem?_cons_zero, List.getElem?_cons_succ, Option.bind_eq_bind,
    Option.bind_some, continuation?_ofNat hy, continuation?_ofNat hz, Nat.add_sub_cancel]

theorem firstChar?_four {w : Nat} (hx : x < 8) (hy : y < 64) (hz : z < 64) (hw : w < 64)
    (rest : List UInt8) :
    firstChar? (UInt8.ofNat (x + 240) :: UInt8.ofNat (y + 128) :: UInt8.ofNat (z + 128) ::
        UInt8.ofNat (w + 128) :: rest) =
      (charAbove? 0x10000 (((x * 64 + y) * 64 + z) * 64 + w)).map (·, 3) := by
  have hbyte : (UInt8.ofNat (x + 240)).toNat = x + 240 := toNat_ofNat_of_lt (by omega)
  simp only [firstChar?, UInt8.lt_iff_toNat_lt, hbyte, UInt8.reduceToNat]
  rw [if_neg (by omega), if_neg (by omega), if_neg (by omega), if_neg (by omega),
    if_pos (by omega)]
  simp only [List.getElem?_cons_zero, List.getElem?_cons_succ, Option.bind_eq_bind,
    Option.bind_some, continuation?_ofNat hy, continuation?_ofNat hz, continuation?_ofNat hw,
    Nat.add_sub_cancel]

/-! ## Characters and texts -/

/-- **The bytes of a character are read as that character.** -/
theorem firstChar?_utf8EncodeChar (c : Char) (rest : List UInt8) :
    firstChar? (String.utf8EncodeChar c ++ rest) =
      some (c, (String.utf8EncodeChar c).length - 1) := by
  have hlt : c.toNat < 0x110000 := by
    have hvalid : c.toNat < 0xD800 ∨ 0xDFFF < c.toNat ∧ c.toNat < 0x110000 := c.valid
    omega
  have hcode : c.val.toNat = c.toNat := rfl
  simp only [String.utf8EncodeChar, hcode]
  split_ifs with h₁ h₂ h₃
  · rw [List.singleton_append, firstChar?_one (by omega), Char.ofNat_toNat]
    rfl
  · have hsum : c.toNat / 64 % 32 * 64 + c.toNat % 64 = c.toNat := by omega
    simp only [List.cons_append, List.nil_append]
    rw [firstChar?_two (by omega) (by omega), hsum, charAbove?_of_le (by omega)]
    rfl
  · have hsum : (c.toNat / 4096 % 16 * 64 + c.toNat / 64 % 64) * 64 + c.toNat % 64 = c.toNat := by
      omega
    simp only [List.cons_append, List.nil_append]
    rw [firstChar?_three (by omega) (by omega) (by omega), hsum, charAbove?_of_le (by omega)]
    rfl
  · have hsum : ((c.toNat / 262144 % 8 * 64 + c.toNat / 4096 % 64) * 64 + c.toNat / 64 % 64) * 64 +
        c.toNat % 64 = c.toNat := by omega
    simp only [List.cons_append, List.nil_append]
    rw [firstChar?_four (by omega) (by omega) (by omega) (by omega), hsum,
      charAbove?_of_le (by omega)]
    rfl

theorem readUtf8Onto_utf8EncodeChar (read : List (Option Char)) (c : Char) (rest : List UInt8) :
    readUtf8Onto read (String.utf8EncodeChar c ++ rest) = readUtf8Onto (some c :: read) rest := by
  have hne : String.utf8EncodeChar c ≠ [] := by
    rw [← List.length_pos_iff, String.length_utf8EncodeChar]
    exact c.utf8Size_pos
  obtain ⟨b, bytes, hbytes⟩ := List.exists_cons_of_ne_nil hne
  have hfirst := firstChar?_utf8EncodeChar c rest
  rw [hbytes, List.cons_append] at hfirst ⊢
  rw [readUtf8Onto, hfirst]
  simp

theorem readUtf8Onto_flatMap (read : List (Option Char)) (cs : List Char) :
    readUtf8Onto read (cs.flatMap String.utf8EncodeChar) = read.reverse ++ cs.map some := by
  induction cs generalizing read with
  | nil => simp [readUtf8Onto]
  | cons c cs ih =>
      rw [List.flatMap_cons, readUtf8Onto_utf8EncodeChar, ih]
      simp

theorem readUtf8_utf8Bytes (s : String) : readUtf8 (utf8Bytes s) = s.toList.map some :=
  readUtf8Onto_flatMap [] s.toList

/-- **A text is what its bytes spell.** -/
theorem ofUtf8?_utf8Bytes (s : String) : ofUtf8? (utf8Bytes s) = some s := by
  have hall : (s.toList.map some).mapM id = some s.toList := by
    rw [List.mapM_map, Function.id_comp]
    exact (List.mapM_pure (f := id)).trans (congrArg some s.toList.map_id)
  rw [ofUtf8?, readUtf8_utf8Bytes, hall, Option.map_some, String.ofList_toList]

end ProxySync.Text
