import ProxySync.Json.Basic

/-!
# Tokens of a JSON text

A text off the wire is a list of characters in which `none` stands for a
byte that belongs to no character. Such a byte may only occur inside a
string, and then the string has no value.
-/

namespace ProxySync.Json

/-- Characters as received; `none` is a byte that is not UTF-8. -/
abbrev WireText := List (Option Char)

def WireText.ofString (s : String) : WireText := s.toList.map some

inductive Token where
  | openArray
  | closeArray
  | openObject
  | closeObject
  | colon
  | comma
  | null
  | bool (b : Bool)
  | number (n : Option Number)
  | string (s : Option String)
  /-- No token starts here; nothing after it is looked at. -/
  | broken

/-! ## Strings -/

def hexValue? (c : Char) : Option Nat :=
  if '0' ≤ c ∧ c ≤ '9' then some (c.toNat - '0'.toNat)
  else if 'a' ≤ c ∧ c ≤ 'f' then some (c.toNat - 'a'.toNat + 10)
  else if 'A' ≤ c ∧ c ≤ 'F' then some (c.toNat - 'A'.toNat + 10)
  else none

/-- The value of four hexadecimal digits. -/
def hexQuad? (a b c d : Option Char) : Option Nat := do
  let a ← hexValue? (← a)
  let b ← hexValue? (← b)
  let c ← hexValue? (← c)
  let d ← hexValue? (← d)
  pure (((a * 16 + b) * 16 + c) * 16 + d)

def isHighSurrogate (n : Nat) : Bool := 0xD800 ≤ n && n < 0xDC00

def isLowSurrogate (n : Nat) : Bool := 0xDC00 ≤ n && n < 0xE000

/-- The character that a one-letter escape stands for. -/
def escapedChar? : Char → Option Char
  | '"' => some '"'
  | '\\' => some '\\'
  | '/' => some '/'
  | 'b' => some '\x08'
  | 'f' => some '\x0c'
  | 'n' => some '\n'
  | 'r' => some '\r'
  | 't' => some '\t'
  | _ => none

/-- What follows a backslash. -/
inductive Escape where
  | char (c : Char) (rest : WireText)
  /-- Half of a surrogate pair: spelled correctly, but no character. -/
  | half (rest : WireText)
  | invalid

def readUnicode (n : Nat) (rest : WireText) : Escape :=
  if isHighSurrogate n then
    match rest with
    | some '\\' :: some 'u' :: a :: b :: c :: d :: rest' =>
      match hexQuad? a b c d with
      | some m =>
        if isLowSurrogate m then
          .char (Char.ofNat (0x10000 + (n - 0xD800) * 0x400 + (m - 0xDC00))) rest'
        else .half rest
      | none => .half rest
    | _ => .half rest
  else if isLowSurrogate n then .half rest
  else .char (Char.ofNat n) rest

def readEscape : WireText → Escape
  | some 'u' :: a :: b :: c :: d :: rest =>
    match hexQuad? a b c d with
    | some n => readUnicode n rest
    | none => .invalid
  | some c :: rest =>
    match escapedChar? c with
    | some e => .char e rest
    | none => .invalid
  | _ => .invalid

/-- How much text an escape leaves. -/
def Escape.rest : Escape → WireText
  | .char _ rest => rest
  | .half rest => rest
  | .invalid => []

theorem length_rest_readUnicode (n : Nat) (s : WireText) :
    (readUnicode n s).rest.length ≤ s.length := by
  unfold readUnicode
  split
  · split
    · split
      · split
        · simp [Escape.rest]; omega
        · simp [Escape.rest]
      · simp [Escape.rest]
    · simp [Escape.rest]
  · split <;> simp [Escape.rest]

theorem length_rest_readEscape (s : WireText) : (readEscape s).rest.length ≤ s.length := by
  unfold readEscape
  split
  · split
    · exact Nat.le_trans (length_rest_readUnicode _ _) (by simp; omega)
    · simp [Escape.rest]
  · split <;> simp [Escape.rest]
  · simp [Escape.rest]

/-- The rest of a string after its opening quote, read onto `acc`, newest
first, together with the text after the closing quote. `valued` tells whether
every character so far has a value. -/
def readString (acc : List Char) (valued : Bool) :
    WireText → Option (Option String × WireText)
  | [] => none
  | none :: rest => readString acc false rest
  | some '"' :: rest => some (if valued then some (String.ofList acc.reverse) else none, rest)
  | some '\\' :: rest =>
    match h : readEscape rest with
    | .char c rest' =>
      have : rest'.length ≤ rest.length := by
        simpa [h, Escape.rest] using length_rest_readEscape rest
      readString (c :: acc) valued rest'
    | .half rest' =>
      have : rest'.length ≤ rest.length := by
        simpa [h, Escape.rest] using length_rest_readEscape rest
      readString acc false rest'
    | .invalid => none
  | some c :: rest => if c < ' ' then none else readString (c :: acc) valued rest
termination_by s => s.length
decreasing_by all_goals simp <;> omega

theorem length_readString {acc : List Char} {valued : Bool} {s : WireText}
    {r : Option String × WireText} (h : readString acc valued s = some r) :
    r.2.length ≤ s.length := by
  fun_induction readString acc valued s with
  | case1 => simp at h
  | case2 acc valued rest ih => exact Nat.le_succ_of_le (ih h)
  | case3 acc valued rest => cases h; simp
  | case4 acc valued rest c rest' hc hle ih =>
    exact Nat.le_trans (ih h) (Nat.le_succ_of_le hle)
  | case5 acc valued rest rest' hc hle ih =>
    exact Nat.le_trans (ih h) (Nat.le_succ_of_le hle)
  | case6 => simp at h
  | case7 => simp at h
  | case8 acc valued c rest _ _ _ ih => exact Nat.le_succ_of_le (ih h)

/-! ## Numbers -/

def digitOf? (c : Option Char) : Option Nat :=
  match c with
  | some c => if '0' ≤ c ∧ c ≤ '9' then some (c.toNat - '0'.toNat) else none
  | none => none

/-- The digits in front, and the text after them. -/
def spanDigits (s : WireText) : List Nat × WireText :=
  (s.takeWhile (digitOf? · |>.isSome) |>.filterMap digitOf?, s.dropWhile (digitOf? · |>.isSome))

/-- The whole part: no digit follows a leading zero. -/
def readWhole (s : WireText) : Option (List Nat × WireText) :=
  match spanDigits s with
  | ([], _) => none
  | (0 :: _ :: _, _) => none
  | (digits, rest) => some (digits, rest)

def readFraction (s : WireText) : Option (Option (List Nat) × WireText) :=
  match s with
  | some '.' :: rest =>
    match spanDigits rest with
    | ([], _) => none
    | (digits, rest) => some (some digits, rest)
  | _ => some (none, s)

def ofDigits (digits : List Nat) : Nat := digits.foldl (10 * · + ·) 0

def readExponent (s : WireText) : Option (Option Int × WireText) :=
  match s with
  | some c :: rest =>
    if c = 'e' ∨ c = 'E' then
      let (minus, rest) := match rest with
        | some '+' :: rest => (false, rest)
        | some '-' :: rest => (true, rest)
        | _ => (false, rest)
      match spanDigits rest with
      | ([], _) => none
      | (digits, rest) =>
        some (some (if minus then -(ofDigits digits : Int) else ofDigits digits), rest)
    else some (none, s)
  | _ => some (none, s)

def readNumber (s : WireText) : Option (Spelling × WireText) := do
  let (minus, s) := match s with
    | some '-' :: rest => (true, rest)
    | _ => (false, s)
  let (whole, s) ← readWhole s
  let (fraction, s) ← readFraction s
  let (exponent, s) ← readExponent s
  pure (⟨minus, whole, fraction.getD [], fraction.isSome, exponent⟩, s)

theorem length_spanDigits (s : WireText) :
    (spanDigits s).1.length + (spanDigits s).2.length ≤ s.length := by
  unfold spanDigits
  induction s with
  | nil => simp
  | cons c s ih =>
    by_cases h : (digitOf? c).isSome
    · obtain ⟨d, hd⟩ := Option.isSome_iff_exists.1 h
      simp [hd] at ih ⊢
      omega
    · simp [h]

theorem length_readWhole {s : WireText} {r : List Nat × WireText}
    (h : readWhole s = some r) : r.2.length < s.length := by
  have hs := length_spanDigits s
  unfold readWhole at h
  split at h
  · simp at h
  · simp at h
  case h_3 digits rest h0 _ hd =>
    cases h
    rw [hd] at hs
    cases digits with
    | nil => simp at h0
    | cons => simp at hs ⊢; omega

theorem length_readFraction {s : WireText} {r : Option (List Nat) × WireText}
    (h : readFraction s = some r) : r.2.length ≤ s.length := by
  unfold readFraction at h
  split at h
  case h_1 rest =>
    have hs := length_spanDigits rest
    split at h
    · simp at h
    case h_2 hd =>
      cases h
      rw [hd] at hs
      simp at hs ⊢
      omega
  case h_2 => cases h; simp

theorem length_readExponent {s : WireText} {r : Option Int × WireText}
    (h : readExponent s = some r) : r.2.length ≤ s.length := by
  unfold readExponent at h
  split at h
  case h_1 c rest =>
    split at h
    case isTrue =>
      split at h
      rename_i minus rest' hrest
      have hle : rest'.length ≤ rest.length := by
        split at hrest <;> cases hrest <;> simp
      have hs := length_spanDigits rest'
      split at h
      · simp at h
      case h_2 hd =>
        cases h
        rw [hd] at hs
        simp at hs ⊢
        omega
    case isFalse => cases h; simp
  case h_2 => cases h; simp

theorem length_readNumber {s : WireText} {r : Spelling × WireText}
    (h : readNumber s = some r) : r.2.length < s.length := by
  unfold readNumber at h
  split at h
  rename_i minus s' hs'
  have hle : s'.length ≤ s.length := by
    split at hs' <;> cases hs' <;> simp
  simp only [Option.bind_eq_bind, Option.bind_eq_some_iff] at h
  obtain ⟨a, ha, b, hb, c, hc, hr⟩ := h
  cases hr
  have h1 := length_readWhole ha
  have h2 := length_readFraction hb
  have h3 := length_readExponent hc
  simp only at h1 h2 h3 ⊢
  omega

/-! ## Tokens -/

def isSpace : Option Char → Bool
  | some c => c == ' ' || c == '\n' || c == '\t' || c == '\r'
  | none => false

/-- The token at the front of a text that starts with no space. -/
def readToken (c : Option Char) (rest : WireText) : Token × WireText :=
  match c, rest with
  | some '[', rest => (.openArray, rest)
  | some ']', rest => (.closeArray, rest)
  | some '\x7b', rest => (.openObject, rest)
  | some '\x7d', rest => (.closeObject, rest)
  | some ':', rest => (.colon, rest)
  | some ',', rest => (.comma, rest)
  | some 'n', some 'u' :: some 'l' :: some 'l' :: rest => (.null, rest)
  | some 't', some 'r' :: some 'u' :: some 'e' :: rest => (.bool true, rest)
  | some 'f', some 'a' :: some 'l' :: some 's' :: some 'e' :: rest => (.bool false, rest)
  | some '"', rest =>
    match readString [] true rest with
    | some (s, rest) => (.string s, rest)
    | none => (.broken, [])
  | c, rest =>
    match readNumber (c :: rest) with
    | some (n, rest) => (.number n.value?, rest)
    | none => (.broken, [])

/-- Every token takes at least one character. -/
theorem length_readToken (c : Option Char) (rest : WireText) :
    (readToken c rest).2.length ≤ rest.length := by
  unfold readToken
  split
  case h_10 =>
    split
    case h_1 h => exact length_readString h
    case h_2 => simp
  case h_11 =>
    split
    case h_1 h => exact Nat.le_of_lt_succ (length_readNumber h)
    case h_2 => simp
  all_goals simp <;> omega

/-- The tokens of a text, up to the first place where there is none. -/
def tokensOnto (acc : List Token) (s : WireText) : List Token :=
  match h : s.dropWhile isSpace with
  | [] => acc.reverse
  | c :: rest =>
    match h' : readToken c rest with
    | (.broken, _) => (Token.broken :: acc).reverse
    | (t, rest') =>
      have : rest'.length ≤ rest.length := by
        simpa [h'] using length_readToken c rest
      have : (s.dropWhile isSpace).length ≤ s.length := (List.dropWhile_sublist _).length_le
      tokensOnto (t :: acc) rest'
termination_by s.length
decreasing_by
  rw [h] at this
  simp at this
  omega

def tokens (s : WireText) : List Token := tokensOnto [] s

end ProxySync.Json
