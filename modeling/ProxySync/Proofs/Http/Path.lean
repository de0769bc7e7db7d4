import ProxySync.Http.Route
import ProxySync.Proofs.Text.Utf8

/-!
# Paths of entities

Every entity has a path: the name in it is spelled byte by byte, so a slash, a
space or a character beyond ASCII in the name is no part of the path itself
(`ofPath?_entityPath`), and the spelling is read back as the name
(`decodeName?_percentEncode`). Only the empty name has none.
-/

namespace ProxySync.Http

open Json (lowerHex)

/-! ## Spelling names -/

/-- A byte as a percent sign and two digits. -/
def spellByte (b : UInt8) : List Char := ['%', lowerHex (b.toNat / 16), lowerHex (b.toNat % 16)]

def percentEncode (name : String) : String :=
  String.ofList ((Text.utf8Bytes name).flatMap spellByte)

def collectionPath (k : Kind) : String := "/" ++ k.noun ++ "s"

/-- The path of the entity of this kind and name. -/
def entityPath (k : Kind) (name : String) : String :=
  collectionPath k ++ "/" ++ percentEncode name

variable {k : Kind} {name : String}

/-! ## Reading names back -/

theorem hexOctet?_lowerHex :
    ∀ n < 16, (String.utf8EncodeChar (lowerHex n)).map hexOctet? = [some (UInt8.ofNat n)] := by
  decide

theorem percentDecode_spellByte (b : UInt8) (rest : List UInt8) :
    percentDecode ((spellByte b).flatMap String.utf8EncodeChar ++ rest) =
      b :: percentDecode rest := by
  have hb : b.toNat < 256 := b.toNat_lt
  obtain ⟨high, hhigh, hhigh'⟩ :=
    List.map_eq_singleton_iff.mp (hexOctet?_lowerHex (b.toNat / 16) (by omega))
  obtain ⟨low, hlow, hlow'⟩ :=
    List.map_eq_singleton_iff.mp (hexOctet?_lowerHex (b.toNat % 16) (by omega))
  have hsum : 16 * UInt8.ofNat (b.toNat / 16) + UInt8.ofNat (b.toNat % 16) = b := by
    rw [← UInt8.toNat_inj]
    simp only [UInt8.toNat_add, UInt8.toNat_mul, UInt8.toNat_ofNat', UInt8.reduceToNat]
    omega
  have hbytes : (spellByte b).flatMap String.utf8EncodeChar = [0x25, high, low] := by
    simp only [spellByte, List.flatMap_cons, List.flatMap_nil, hhigh, hlow]
    rfl
  rw [hbytes]
  simp only [List.cons_append, List.nil_append, percentDecode, hhigh', hlow', hsum]

theorem percentDecode_spelled (bytes : List UInt8) :
    percentDecode ((bytes.flatMap spellByte).flatMap String.utf8EncodeChar) = bytes := by
  induction bytes with
  | nil => rfl
  | cons b bytes ih =>
      rw [List.flatMap_cons, List.flatMap_append, percentDecode_spellByte, ih]

/-- **What is spelled in a path is read back.** -/
theorem decodeName?_percentEncode (name : String) :
    decodeName? (percentEncode name) = some name := by
  rw [decodeName?, percentEncode, Text.utf8Bytes, String.toList_ofList, percentDecode_spelled]
  exact Text.ofUtf8?_utf8Bytes name

/-! ## Finding the route -/

theorem ofPath?_collectionPath (k : Kind) :
    Route.ofPath? (collectionPath k) = some (.collection k) := by
  cases k <;> decide

theorem lowerHex_ne_slash : ∀ n < 16, lowerHex n ≠ '/' := by decide

theorem slash_not_mem_percentEncode (name : String) : '/' ∉ (percentEncode name).toList := by
  rw [percentEncode, String.toList_ofList, List.mem_flatMap]
  rintro ⟨b, -, hslash⟩
  have hb : b.toNat < 256 := b.toNat_lt
  simp only [spellByte, List.mem_cons, List.not_mem_nil, or_false] at hslash
  rcases hslash with hpercent | hhigh | hlow
  · exact absurd hpercent (by decide)
  · exact lowerHex_ne_slash _ (by omega) hhigh.symm
  · exact lowerHex_ne_slash _ (by omega) hlow.symm

theorem percentEncode_injective {name name' : String}
    (h : percentEncode name = percentEncode name') : name = name' := by
  have hname := decodeName?_percentEncode name
  rw [h, decodeName?_percentEncode] at hname
  exact (Option.some.inj hname).symm

theorem isEmpty_percentEncode (h : name ≠ "") : (percentEncode name).isEmpty = false := by
  have hempty : percentEncode "" = "" := rfl
  rw [String.isEmpty_eq_false_iff]
  exact fun hspelled => h (percentEncode_injective (hspelled.trans hempty.symm))

theorem ofPath?_entityPath (h : name ≠ "") :
    Route.ofPath? (entityPath k name) = some (.entity k (percentEncode name)) := by
  have hword : '/' ∉ (k.noun ++ "s").toList := by
    cases k <;> decide
  have hpath : (entityPath k name).toList =
      [] ++ '/' :: ((k.noun ++ "s").toList ++ '/' :: (percentEncode name).toList) := by
    simp [entityPath, collectionPath]
  have hsplit : (entityPath k name).toList.splitOn '/' =
      [[], (k.noun ++ "s").toList, (percentEncode name).toList] := by
    rw [hpath, List.splitOn_append_cons_self_of_not_mem List.not_mem_nil,
      List.splitOn_append_cons_self_of_not_mem hword,
      List.splitOn_eq_singleton (slash_not_mem_percentEncode name)]
  unfold Route.ofPath?
  rw [hsplit]
  simp only [List.map_cons, List.map_nil, String.ofList_toList]
  have hkind : Route.collectionKind? (k.noun ++ "s") = some k := by
    cases k <;> decide
  cases k <;> simpa [Kind.noun, isEmpty_percentEncode h] using hkind

end ProxySync.Http
