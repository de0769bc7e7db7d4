import ProxySync.Json.Printer
import ProxySync.Json.Token
import ProxySync.Proofs.Text.Digits

/-!
# The tokens of a printed value

A value whose numbers are integers without sign, below `2 ^ 64`, is printed
as a text of which the tokens are known beforehand: `tokensOf` lists them,
and `tokensOnto_print` reads them off the text. What follows the value must
not extend its last number, so the text after it is asked to start with a
comma or a closing bracket (`EndsValue`), as it does inside any value.
-/

namespace ProxySync.Json

open ProxySync.Text

/-! ## Strings -/

theorem readString_escape {acc : List Char} {valued : Bool} {c : Char} {s rest : WireText}
    (h : readEscape s = .char c rest) :
    readString acc valued (some '\\' :: s) = readString (c :: acc) valued rest := by
  rw [readString]
  split
  · next h' =>
    rw [h] at h'
    cases h'
    rfl
  · next h' => rw [h] at h'; cases h'
  · next h' => rw [h] at h'; cases h'

theorem readString_plain {acc : List Char} {valued : Bool} {c : Char} {rest : WireText}
    (hq : c ≠ '"') (hb : c ≠ '\\') (hs : ¬ c < ' ') :
    readString acc valued (some c :: rest) = readString (c :: acc) valued rest := by
  rw [readString]
  · rw [if_neg hs]
  · exact hq
  · exact hb

theorem hexValue?_lowerHex : ∀ n < 16, hexValue? (lowerHex n) = some n := by decide

/-- A control character is escaped by its two last hexadecimal digits, and no
code below 32 is half of a surrogate pair. -/
theorem readEscape_control {c : Char} (h : c < ' ') (rest : WireText) :
    readEscape (some 'u' :: some '0' :: some '0' :: some (lowerHex (c.toNat / 16)) ::
      some (lowerHex (c.toNat % 16)) :: rest) = .char c rest := by
  have hc : c.toNat < 32 := h
  have hzero : hexValue? '0' = some 0 := by decide
  have hquad : hexQuad? (some '0') (some '0') (some (lowerHex (c.toNat / 16)))
      (some (lowerHex (c.toNat % 16))) = some c.toNat := by
    simp only [hexQuad?, hzero, hexValue?_lowerHex _ (show c.toNat / 16 < 16 by omega),
      hexValue?_lowerHex _ (show c.toNat % 16 < 16 by omega), Option.bind_eq_bind,
      Option.bind_some, Option.pure_def, Option.some.injEq]
    omega
  have hhigh : isHighSurrogate c.toNat = false := by
    simp only [isHighSurrogate, Bool.and_eq_false_iff, decide_eq_false_iff_not]
    omega
  have hlow : isLowSurrogate c.toNat = false := by
    simp only [isLowSurrogate, Bool.and_eq_false_iff, decide_eq_false_iff_not]
    omega
  simp [readEscape, hquad, readUnicode, hhigh, hlow]

theorem readString_escapeChar (c : Char) (acc : List Char) (rest : WireText) :
    readString acc true ((escapeChar c).map some ++ rest) = readString (c :: acc) true rest := by
  unfold escapeChar
  split
  case h_8 hq hb _ _ _ _ _ =>
    split
    · next hlt => exact readString_escape (readEscape_control hlt rest)
    · next hlt => exact readString_plain hq hb hlt
  all_goals exact readString_escape (by simp [readEscape, escapedChar?])

theorem readString_printed (s acc : List Char) (rest : WireText) :
    readString acc true ((s.flatMap escapeChar).map some ++ some '"' :: rest) =
      some (some (String.ofList (acc.reverse ++ s)), rest) := by
  induction s generalizing acc with
  | nil => simp [readString]
  | cons c s ih =>
      rw [List.flatMap_cons, List.map_append, List.append_assoc, readString_escapeChar, ih]
      simp

/-! ## Numbers -/

/-- No number before this text reaches into it. -/
def EndsValue (rest : WireText) : Prop :=
  ∀ c ∈ rest.head?, c = some ',' ∨ c = some ']' ∨ c = some '\x7d'

theorem EndsValue.nil : EndsValue [] := by simp [EndsValue]

theorem digitOf?_some (c : Char) : digitOf? (some c) = digitValue? c := rfl

theorem EndsValue.head_not_digit {rest : WireText} (hr : EndsValue rest) :
    rest.takeWhile (digitOf? · |>.isSome) = [] ∧
      rest.dropWhile (digitOf? · |>.isSome) = rest := by
  cases rest with
  | nil => simp
  | cons c rest =>
      have hc : digitOf? c = none := by
        rcases hr c rfl with rfl | rfl | rfl <;> decide
      simp [hc]

theorem spanDigits_append {s : List Char} {rest : WireText}
    (hs : ∀ c ∈ s, ∃ d, digitValue? c = some d) (hr : EndsValue rest) :
    spanDigits (s.map some ++ rest) = (digitValues s, rest) := by
  have hall : ∀ c ∈ s.map some, (digitOf? c).isSome = true := by
    intro c hc
    obtain ⟨a, ha, rfl⟩ := List.mem_map.mp hc
    obtain ⟨d, hd⟩ := hs a ha
    rw [digitOf?_some, hd]
    rfl
  obtain ⟨htake, hdrop⟩ := hr.head_not_digit
  rw [spanDigits, List.takeWhile_append_of_pos hall, List.dropWhile_append_of_pos hall, htake,
    hdrop, List.append_nil, List.filterMap_map]
  rfl

theorem eq_zero_of_digitValue?_zero {c : Char} (h : digitValue? c = some 0) : c = '0' := by
  rw [digitValue?] at h
  split at h
  · next hc =>
    have hle : 48 ≤ c.toNat := hc.1
    have hsub : c.toNat - 48 = 0 := Option.some.inj h
    exact Char.toNat_inj.mp (show c.toNat = 48 by omega)
  · cases h

/-- The digits of a number have a value, and no digit follows a zero in front. -/
theorem readWhole_digits (n : Nat) {rest : WireText} (hr : EndsValue rest) :
    readWhole ((digits n).map some ++ rest) = some (digitValues (digits n), rest) := by
  have hdigit := digitValue?_of_mem_digits n
  rw [readWhole, spanDigits_append hdigit hr]
  split
  · next h0 =>
    obtain ⟨c, s, hs⟩ := List.exists_cons_of_ne_nil (digits_ne_nil n)
    obtain ⟨d, hd⟩ := hdigit c (by simp [hs])
    simp [hs, digitValues, hd] at h0
  · next h0 =>
    obtain ⟨h0, -⟩ := Prod.mk.inj h0
    obtain ⟨c, s, hs⟩ := List.exists_cons_of_ne_nil (digits_ne_nil n)
    obtain ⟨d, hd⟩ := hdigit c (by simp [hs])
    have hcons : digitValues (digits n) = d :: digitValues s := by simp [hs, digitValues, hd]
    rw [hcons] at h0
    obtain ⟨rfl, hs'⟩ := List.cons.inj h0
    obtain rfl := eq_zero_of_digitValue?_zero hd
    rcases Nat.eq_zero_or_pos n with rfl | hn
    · obtain rfl : s = [] := by
        rw [show digits 0 = ['0'] from rfl] at hs
        exact (List.cons.inj hs).2.symm
      simp [digitValues] at hs'
    · exact absurd (by rw [hs]; rfl) (head?_digits_ne_zero hn)
  · next h0 =>
    rw [h0]

theorem EndsValue.readFraction_eq {rest : WireText} (hr : EndsValue rest) :
    readFraction rest = some (none, rest) := by
  unfold readFraction
  split
  · rcases hr (some '.') rfl with h | h | h <;> simp at h
  · rfl

theorem EndsValue.readExponent_eq {rest : WireText} (hr : EndsValue rest) :
    readExponent rest = some (none, rest) := by
  unfold readExponent
  split
  · next c _ =>
    rw [if_neg]
    rcases hr (some c) rfl with h | h | h <;> cases h <;> decide
  · rfl

theorem readNumber_digits (n : Nat) {rest : WireText} (hr : EndsValue rest) :
    readNumber ((digits n).map some ++ rest) =
      some (⟨false, digitValues (digits n), [], false, none⟩, rest) := by
  unfold readNumber
  split
  next minus s' hsign =>
    obtain ⟨rfl, rfl⟩ : false = minus ∧ (digits n).map some ++ rest = s' := by
      split at hsign
      · next h =>
        obtain ⟨c, s, hs⟩ := List.exists_cons_of_ne_nil (digits_ne_nil n)
        rw [hs] at h
        obtain rfl := Option.some.inj (List.cons.inj h).1
        exact absurd (by simp [hs]) (not_mem_digits (c := '-') (by decide) n)
      · exact Prod.mk.inj hsign
    simp [readWhole_digits n hr, hr.readFraction_eq, hr.readExponent_eq]

theorem readSignificand_eq {ds : List Nat} :
    ∀ {acc : Nat}, ds.foldl (10 * · + ·) acc < UInt64.size →
      readSignificand acc ds = (ds.foldl (10 * · + ·) acc, []) := by
  induction ds with
  | nil =>
      intro acc _
      rfl
  | cons d ds ih =>
      intro acc h
      rw [List.foldl_cons] at h ⊢
      have hstep : 10 * acc + d < UInt64.size :=
        Nat.lt_of_le_of_lt (le_foldl_digits ds (10 * acc + d)) h
      rw [readSignificand, if_pos hstep]
      exact ih h

theorem value?_digits {n : Nat} (hn : n < UInt64.size) :
    (Spelling.mk false (digitValues (digits n)) [] false none).value? = some (.natural n) := by
  have hread : readSignificand 0 (digitValues (digits n)) = (n, []) := by
    rw [readSignificand_eq (by rwa [foldl_digits]), foldl_digits]
  simp [Spelling.value?, hread]

/-! ## Tokens -/

theorem tokensOnto_nil (acc : List Token) : tokensOnto acc [] = acc.reverse := by
  rw [tokensOnto]
  split
  · rfl
  · next h => simp at h

/-- A token at the front of the text is moved onto those read before. -/
theorem tokensOnto_cons {acc : List Token} {c : Option Char} {rest rest' : WireText} {t : Token}
    (hc : isSpace c = false) (h : readToken c rest = (t, rest')) (ht : t ≠ .broken) :
    tokensOnto acc (c :: rest) = tokensOnto (t :: acc) rest' := by
  have hd : (c :: rest).dropWhile isSpace = c :: rest := by simp [hc]
  rw [tokensOnto]
  split
  · next h0 => rw [hd] at h0; cases h0
  · next h0 =>
    rw [hd] at h0
    obtain ⟨rfl, rfl⟩ := List.cons.inj h0
    split
    · next h1 =>
      rw [h] at h1
      exact absurd (congrArg Prod.fst h1) ht
    · next h1 =>
      rw [h] at h1
      cases h1
      rfl

theorem tokensOnto_printString (s : String) (acc : List Token) (rest : WireText) :
    tokensOnto acc ((printString s).map some ++ rest) =
      tokensOnto (.string (some s) :: acc) rest := by
  have hbody : (printString s).map some ++ rest =
      some '"' :: ((s.toList.flatMap escapeChar).map some ++ some '"' :: rest) := by
    simp [printString]
  rw [hbody]
  exact tokensOnto_cons (by decide) (by simp [readToken, readString_printed]) (by simp)

theorem readToken_digit {c : Char} {d : Nat} (hc : digitValue? c = some d) (rest : WireText) :
    readToken (some c) rest =
      match readNumber (some c :: rest) with
      | some (n, rest) => (.number n.value?, rest)
      | none => (.broken, []) := by
  rw [readToken.eq_def]
  split
  case h_11 => rfl
  all_goals
    next h =>
      cases h
      cases hc

theorem tokensOnto_number {n : Nat} (hn : n < UInt64.size) (acc : List Token) {rest : WireText}
    (hr : EndsValue rest) :
    tokensOnto acc ((digits n).map some ++ rest) =
      tokensOnto (.number (some (.natural n)) :: acc) rest := by
  obtain ⟨c, s, hs⟩ := List.exists_cons_of_ne_nil (digits_ne_nil n)
  obtain ⟨d, hd⟩ := digitValue?_of_mem_digits n c (by simp [hs])
  have hread := readNumber_digits n hr
  rw [hs, List.map_cons, List.cons_append] at hread
  have hspace : isSpace (some c) = false := by
    cases h : isSpace (some c)
    · rfl
    · simp only [isSpace, Bool.or_eq_true, beq_iff_eq] at h
      rcases h with ((rfl | rfl) | rfl) | rfl <;> cases hd
  have htoken : readToken (some c) (s.map some ++ rest) =
      (.number (some (.natural n)), rest) := by
    rw [readToken_digit hd, hread, ← hs]
    simp [value?_digits hn]
  rw [hs, List.map_cons, List.cons_append]
  exact tokensOnto_cons hspace htoken (by simp)

/-! ## Values -/

mutual

/-- All numbers of the value are integers without sign that fit 64 bits. -/
def isPlain : Json → Bool
  | .number (.natural n) => n < UInt64.size
  | .number _ => false
  | .array items => isPlainItems items
  | .object fields => isPlainFields fields
  | _ => true

def isPlainItems : List Json → Bool
  | [] => true
  | v :: items => isPlain v && isPlainItems items

def isPlainFields : List (String × Json) → Bool
  | [] => true
  | f :: fields => isPlain f.2 && isPlainFields fields

end

mutual

/-- The tokens that a value is printed with. -/
def tokensOf : Json → List Token
  | .null => [.null]
  | .bool b => [.bool b]
  | .number n => [.number (some n)]
  | .string s => [.string (some s)]
  | .array items => .openArray :: itemTokens items
  | .object fields => .openObject :: fieldTokens fields

/-- The tokens of the items of an array and its closing bracket. -/
def itemTokens : List Json → List Token
  | [] => [.closeArray]
  | [v] => tokensOf v ++ [.closeArray]
  | v :: items => tokensOf v ++ .comma :: itemTokens items

/-- The tokens of the fields of an object and its closing brace. -/
def fieldTokens : List (String × Json) → List Token
  | [] => [.closeObject]
  | [f] => .string (some f.1) :: .colon :: tokensOf f.2 ++ [.closeObject]
  | f :: fields => .string (some f.1) :: .colon :: tokensOf f.2 ++ .comma :: fieldTokens fields

end

/-- The characters that are tokens by themselves. -/
def markToken? : Char → Option Token
  | '[' => some .openArray
  | ']' => some .closeArray
  | '\x7b' => some .openObject
  | '\x7d' => some .closeObject
  | ':' => some .colon
  | ',' => some .comma
  | _ => none

theorem tokensOnto_mark {c : Char} {t : Token} (h : markToken? c = some t) (acc : List Token)
    (rest : WireText) : tokensOnto acc (some c :: rest) = tokensOnto (t :: acc) rest := by
  unfold markToken? at h
  split at h <;> cases h <;> exact tokensOnto_cons rfl (by simp [readToken]) (by simp)

theorem endsValue_cons {c : Char} (hc : c = ',' ∨ c = ']' ∨ c = '\x7d') (rest : WireText) :
    EndsValue (some c :: rest) := by
  intro a ha
  obtain rfl := Option.some.inj ha
  simpa using hc

mutual

/-- **The tokens of a printed value**: reading its text yields `tokensOf` the
value and goes on with what follows. -/
theorem tokensOnto_print : ∀ (v : Json), v.isPlain = true → ∀ (acc : List Token) {rest : WireText},
    EndsValue rest →
    tokensOnto acc (v.print.map some ++ rest) = tokensOnto ((tokensOf v).reverse ++ acc) rest
  | .null, _, acc, rest, _ => by
      rw [show Json.null.print = ['n', 'u', 'l', 'l'] from rfl]
      exact tokensOnto_cons rfl (by simp [readToken]) (by simp)
  | .bool true, _, acc, rest, _ => by
      rw [show (Json.bool true).print = ['t', 'r', 'u', 'e'] from rfl]
      exact tokensOnto_cons rfl (by simp [readToken]) (by simp)
  | .bool false, _, acc, rest, _ => by
      rw [show (Json.bool false).print = ['f', 'a', 'l', 's', 'e'] from rfl]
      exact tokensOnto_cons rfl (by simp [readToken]) (by simp)
  | .number (.natural n), hv, acc, rest, hr => by
      have hn : n < UInt64.size := by simpa [isPlain] using hv
      have hprint : (Json.number (.natural n)).print = digits n := by
        simp [print, Number.text, digits]
      rw [hprint]
      exact tokensOnto_number hn acc hr
  | .string s, _, acc, rest, _ => by
      simp only [print, tokensOf]
      exact tokensOnto_printString s acc rest
  | .array items, hv, acc, rest, _ => by
      simp only [print, List.map_cons, List.cons_append, tokensOf, List.reverse_cons,
        List.append_assoc, List.nil_append]
      rw [tokensOnto_mark rfl]
      exact tokensOnto_printItems items hv _ rest
  | .object fields, hv, acc, rest, _ => by
      simp only [print, List.map_cons, List.cons_append, tokensOf, List.reverse_cons,
        List.append_assoc, List.nil_append]
      rw [tokensOnto_mark rfl]
      exact tokensOnto_printFields fields hv _ rest

theorem tokensOnto_printItems : ∀ (items : List Json), isPlainItems items = true →
    ∀ (acc : List Token) (rest : WireText),
    tokensOnto acc ((printItems items).map some ++ rest) =
      tokensOnto ((itemTokens items).reverse ++ acc) rest
  | [], _, acc, rest => tokensOnto_mark rfl acc rest
  | [v], hv, acc, rest => by
      have hv : v.isPlain = true := by simpa [isPlainItems] using hv
      simp only [printItems, itemTokens, List.map_append, List.append_assoc, List.map_cons,
        List.map_nil, List.cons_append, List.nil_append, List.reverse_append, List.reverse_cons,
        List.reverse_nil]
      rw [tokensOnto_print v hv acc (endsValue_cons (by simp) rest), tokensOnto_mark rfl]
  | v :: w :: items, hv, acc, rest => by
      have hv : v.isPlain = true ∧ isPlainItems (w :: items) = true := by
        simpa [isPlainItems] using hv
      simp only [printItems, itemTokens, List.map_append, List.append_assoc, List.map_cons,
        List.cons_append, List.reverse_append, List.reverse_cons, List.nil_append]
      rw [tokensOnto_print v hv.1 acc (endsValue_cons (by simp) _), tokensOnto_mark rfl,
        tokensOnto_printItems (w :: items) hv.2]

theorem tokensOnto_printFields : ∀ (fields : List (String × Json)), isPlainFields fields = true →
    ∀ (acc : List Token) (rest : WireText),
    tokensOnto acc ((printFields fields).map some ++ rest) =
      tokensOnto ((fieldTokens fields).reverse ++ acc) rest
  | [], _, acc, rest => tokensOnto_mark rfl acc rest
  | [f], hf, acc, rest => by
      have hf : f.2.isPlain = true := by simpa [isPlainFields] using hf
      simp only [printFields, fieldTokens, List.map_append, List.append_assoc, List.map_cons,
        List.map_nil, List.cons_append, List.nil_append, List.reverse_append, List.reverse_cons,
        List.reverse_nil]
      rw [tokensOnto_printString, tokensOnto_mark rfl,
        tokensOnto_print f.2 hf _ (endsValue_cons (by simp) rest), tokensOnto_mark rfl]
  | f :: g :: fields, hf, acc, rest => by
      have hf : f.2.isPlain = true ∧ isPlainFields (g :: fields) = true := by
        simpa [isPlainFields] using hf
      simp only [printFields, fieldTokens, List.map_append, List.append_assoc, List.map_cons,
        List.cons_append, List.reverse_append, List.reverse_cons, List.nil_append]
      rw [tokensOnto_printString, tokensOnto_mark rfl,
        tokensOnto_print f.2 hf.1 _ (endsValue_cons (by simp) _), tokensOnto_mark rfl,
        tokensOnto_printFields (g :: fields) hf.2]

end

theorem tokens_print {v : Json} (hv : v.isPlain = true) :
    tokens (.ofString v.text) = tokensOf v := by
  have h := tokensOnto_print v hv [] EndsValue.nil
  rw [tokensOnto_nil] at h
  simpa [tokens, WireText.ofString, text] using h

end ProxySync.Json
