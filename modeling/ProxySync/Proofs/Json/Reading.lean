import ProxySync.Json.Decode
import ProxySync.Proofs.Json.Tokens

/-!
# Printed values read back

The reader is a machine with a stack of open brackets. Fed with the tokens
of a value it puts the draft of that value into the innermost open bracket,
whatever is on the stack and whatever follows (`readTokens_value`). So a
printed value reads as its draft with nothing left over (`read_text`), and
decoding its text is decoding that draft (`decodeText_text`).
-/

namespace ProxySync.Json

/-! ## The machine on the tokens of a value -/

theorem readTokens_step {s s' : ReaderState} {t : Token} (h : s.step t = some s')
    (ts : List Token) : readTokens s (t :: ts) = readTokens s' ts := by
  cases s <;> simp_all [readTokens, ReaderState.step]

/-- The first token of a value never closes the array it stands in. -/
theorem readTokens_arrayStart (v : Json) (stack : List Frame) (ts : List Token) :
    readTokens (.arrayStart stack) (tokensOf v ++ ts) =
      readTokens (.value (.array [] :: stack)) (tokensOf v ++ ts) := by
  cases v <;> simp [tokensOf, readTokens, ReaderState.step, startValue]

mutual

theorem readTokens_value : ∀ (v : Json) (stack : List Frame) (ts : List Token),
    readTokens (.value stack) (tokensOf v ++ ts) = readTokens (plug stack v.draft) ts
  | .null, _, ts => readTokens_step rfl ts
  | .bool _, _, ts => readTokens_step rfl ts
  | .number _, _, ts => readTokens_step rfl ts
  | .string _, _, ts => readTokens_step rfl ts
  | .array [], _, ts => by
      simp only [tokensOf, itemTokens, List.cons_append, List.nil_append]
      rw [readTokens_step rfl, readTokens_step rfl]
      rfl
  | .array (v :: items), stack, ts => by
      have hopen : tokensOf (.array (v :: items)) = .openArray :: itemTokens (v :: items) := rfl
      obtain ⟨rest, hrest⟩ : ∃ rest, itemTokens (v :: items) = tokensOf v ++ rest := by
        cases items with
        | nil => exact ⟨_, rfl⟩
        | cons w items => exact ⟨_, rfl⟩
      have hitems := readTokens_items (v :: items) (by simp) [] stack ts
      rw [hrest, List.append_assoc] at hitems
      rw [hopen, List.cons_append, readTokens_step rfl, hrest, List.append_assoc,
        readTokens_arrayStart v, hitems]
      rfl
  | .object [], _, ts => by
      simp only [tokensOf, fieldTokens, List.cons_append, List.nil_append]
      rw [readTokens_step rfl, readTokens_step rfl]
      rfl
  | .object (f :: fields), stack, ts => by
      have hopen : tokensOf (.object (f :: fields)) = .openObject :: fieldTokens (f :: fields) :=
        rfl
      obtain ⟨rest, hrest⟩ : ∃ rest, fieldTokens (f :: fields) = .string (some f.1) :: rest := by
        cases fields with
        | nil => exact ⟨_, rfl⟩
        | cons g fields => exact ⟨_, rfl⟩
      have hfields := readTokens_fields (f :: fields) (by simp) [] stack ts
      rw [hrest, List.cons_append, readTokens_step rfl] at hfields
      rw [hopen, List.cons_append, readTokens_step rfl, hrest, List.cons_append,
        readTokens_step rfl, hfields]
      rfl

/-- The items of an array, after those found before, newest first. -/
theorem readTokens_items : ∀ (items : List Json), items ≠ [] → ∀ (found : List Draft)
    (stack : List Frame) (ts : List Token),
    readTokens (.value (.array found :: stack)) (itemTokens items ++ ts) =
      readTokens (plug stack (.array (found.reverse ++ draftItems items) true)) ts
  | [], h, _, _, _ => absurd rfl h
  | [v], _, found, stack, ts => by
      simp only [itemTokens, List.append_assoc, List.cons_append, List.nil_append]
      rw [readTokens_value v, plug, readTokens_step rfl, List.reverse_cons]
      rfl
  | v :: w :: items, _, found, stack, ts => by
      simp only [itemTokens, List.append_assoc, List.cons_append]
      rw [readTokens_value v, plug, readTokens_step rfl, readTokens_items (w :: items) (by simp),
        List.reverse_cons, List.append_assoc]
      rfl

/-- The fields of an object, after those found before, newest first. -/
theorem readTokens_fields : ∀ (fields : List (String × Json)), fields ≠ [] →
    ∀ (found : List (Option String × Draft)) (stack : List Frame) (ts : List Token),
    readTokens (.key found stack) (fieldTokens fields ++ ts) =
      readTokens (plug stack (.object (found.reverse ++ draftFields fields) true)) ts
  | [], h, _, _, _ => absurd rfl h
  | [f], _, found, stack, ts => by
      simp only [fieldTokens, List.append_assoc, List.cons_append, List.nil_append]
      rw [readTokens_step rfl, readTokens_step rfl, readTokens_value f.2, plug,
        readTokens_step rfl, List.reverse_cons]
      rfl
  | f :: g :: fields, _, found, stack, ts => by
      simp only [fieldTokens, List.append_assoc, List.cons_append]
      rw [readTokens_step rfl, readTokens_step rfl, readTokens_value f.2, plug,
        readTokens_step rfl, readTokens_fields (g :: fields) (by simp), List.reverse_cons,
        List.append_assoc]
      rfl

end

/-! ## Whole texts -/

theorem read_text {v : Json} (hv : v.isPlain = true) :
    read (.ofString v.text) = ⟨v.draft, true⟩ := by
  have h := readTokens_value v [] []
  rw [List.append_nil] at h
  rw [read, tokens_print hv, h]
  rfl

theorem decodeText_text {α : Type} {v : Json} (hv : v.isPlain = true)
    (decode : Draft → Except Fault α) :
    decodeText decode (.ofString v.text) = decode v.draft := by
  rw [decodeText, read_text hv]
  cases decode v.draft <;> rfl

end ProxySync.Json
