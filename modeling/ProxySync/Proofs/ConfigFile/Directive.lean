import ProxySync.ConfigFile.Reader
import ProxySync.Proofs.Text.Digits
import ProxySync.Proofs.Text.Trim

/-!
# Single lines read back

A directive is a word, a blank and a value. Reading finds the value of a
line that was written for its word (`valueAfter?_directive`) and none on a
line that starts differently. The directives that sections know start with
different letters, so each line sets at most one field
(`readListenerLine_eq`).
-/

namespace ProxySync

/-- The part of a member that its server line shows. -/
def Member.shown (m : Member) : Member where
  name := m.name
  host := m.host
  port := m.port

namespace ConfigFile

open ProxySync.Text

/-! ## Directives -/

/-- A word with a value after it. -/
def directive (word value : List Char) : List Char := word ++ ' ' :: value

theorem valueAfter?_eq_some_iff {word : String} {line value : List Char} :
    valueAfter? word line = some value ↔
      value ≠ [] ∧ ∃ rest, line = directive word.toList rest ∧ trim rest = value := by
  have hlead (rest : List Char) :
      dropLead? (word.toList ++ [' ']) line = some rest ↔ line = directive word.toList rest := by
    rw [dropLead?_eq_some_iff, List.append_assoc]
    rfl
  simp only [valueAfter?, Option.filter_eq_some_iff, Option.map_eq_some_iff, hlead]
  rw [and_comm]
  simp

theorem valueAfter?_directive {word : String} {value : List Char} (hvalue : Trimmed value)
    (hne : value ≠ []) : valueAfter? word (directive word.toList value) = some value :=
  valueAfter?_eq_some_iff.mpr ⟨hne, value, rfl, trim_of_trimmed hvalue⟩

theorem head?_directive {word : List Char} (hword : word ≠ []) (value : List Char) :
    (directive word value).head? = word.head? :=
  List.head?_append_of_ne_nil _ hword

/-- Words that start differently are not found on the same line. -/
theorem valueAfter?_eq_none {word other : String} (hword : word.toList ≠ [])
    (hother : other.toList ≠ []) (hhead : other.toList.head? ≠ word.toList.head?)
    (rest : List Char) : valueAfter? word (directive other.toList rest) = none := by
  cases hvalue : valueAfter? word (directive other.toList rest) with
  | none => rfl
  | some value =>
      obtain ⟨-, rest', hline, -⟩ := valueAfter?_eq_some_iff.mp hvalue
      have heq := congrArg List.head? hline
      rw [head?_directive hother, head?_directive hword] at heq
      exact absurd heq hhead

theorem trimmed_directive {word value : List Char} (hword : Trimmed word) (hne : word ≠ [])
    (hvalue : Trimmed value) (hne' : value ≠ []) : Trimmed (directive word value) := by
  have happend : directive word value = word ++ [' '] ++ value := by simp [directive]
  rw [happend]
  exact hword.append hne hvalue hne' [' ']

/-- Indentation is trimmed away. -/
theorem trim_indented {indent line : List Char} (hindent : indent.all isBlank = true)
    (hline : Trimmed line) : trim (indent ++ line) = line := by
  rw [trim_blanks_append hindent, trim_of_trimmed hline]

/-! ## Headers -/

theorem header?_directive (k : Kind) {rest : List Char} (hne : trim rest ≠ []) :
    header? (directive k.noun.toList rest) = some (k, trim rest) := by
  have hvalue : valueAfter? k.noun (directive k.noun.toList rest) = some (trim rest) :=
    valueAfter?_eq_some_iff.mpr ⟨hne, rest, rfl, rfl⟩
  cases k with
  | frontend => rw [header?, hvalue]
  | backend =>
      rw [header?, valueAfter?_eq_none (by decide) (by decide) (by decide), hvalue]
      rfl

/-! ## Listener lines -/

/-- What a line sets a word to: the text after the word and a space, trimmed,
if anything is left of it. -/
def setting? (word : String) (line : List Char) : Option (List Char) :=
  if word.toList ++ [' '] <+: line ∧ trim (line.drop (word.length + 1)) ≠ [] then
    some (trim (line.drop (word.length + 1)))
  else none

theorem drop_directive (word : String) (rest : List Char) :
    (directive word.toList rest).drop (word.length + 1) = rest := by
  have hlength : (word.toList ++ [' ']).length = word.length + 1 := by
    rw [List.length_append, String.length_toList]
    rfl
  have happend : directive word.toList rest = word.toList ++ [' '] ++ rest := by simp [directive]
  rw [happend, List.drop_left' hlength]

/-- Reading finds what is set. -/
theorem valueAfter?_eq_setting? (word : String) (line : List Char) :
    valueAfter? word line = setting? word line := by
  have hprefix : word.toList ++ [' '] <+: line ↔ ∃ rest, line = directive word.toList rest := by
    simp [List.prefix_iff_exists_eq_append, directive]
  refine Option.ext fun value => ?_
  rw [valueAfter?_eq_some_iff, setting?, Option.ite_none_right_eq_some, hprefix]
  constructor
  · rintro ⟨hne, rest, rfl, rfl⟩
    rw [drop_directive]
    exact ⟨⟨⟨rest, rfl⟩, hne⟩, rfl⟩
  · rintro ⟨⟨⟨rest, rfl⟩, hne⟩, hvalue⟩
    rw [drop_directive] at hne hvalue
    obtain rfl := Option.some.inj hvalue
    exact ⟨hne, rest, rfl, rfl⟩

/-- A value after some lines, each line that sets the word in its turn in
place of the value before. -/
def overwritten (word value : String) (lines : List (List Char)) : String :=
  lines.foldl (fun value line => ((setting? word line).map String.ofList).getD value) value

theorem overwritten_append (word value : String) (lines lines' : List (List Char)) :
    overwritten word value (lines ++ lines') =
      overwritten word (overwritten word value lines) lines' :=
  List.foldl_append ..

theorem overwritten_directive {word : String} {text : List Char} (hvalue : Trimmed text)
    (hne : text ≠ []) (value : String) :
    overwritten word value [directive word.toList text] = String.ofList text := by
  rw [overwritten, List.foldl_cons, ← valueAfter?_eq_setting?, valueAfter?_directive hvalue hne]
  rfl

theorem overwritten_of_ne_some {word : String} {line : List Char}
    (h : ∀ text, valueAfter? word line ≠ some text) (value : String) :
    overwritten word value [line] = value := by
  rw [overwritten, List.foldl_cons, ← valueAfter?_eq_setting?,
    Option.eq_none_iff_forall_ne_some.mpr h]
  rfl

theorem overwritten_of_some {word : String} {line text : List Char}
    (h : valueAfter? word line = some text) (value : String) :
    overwritten word value [line] = String.ofList text := by
  rw [overwritten, List.foldl_cons, ← valueAfter?_eq_setting?, h]
  rfl

/-- A listener with the values of its four directives after some lines. -/
def overwriteListener (l : Listener) (lines : List (List Char)) : Listener where
  name := l.name
  bind := overwritten "bind" l.bind lines
  defaultBackend := overwritten "default_backend" l.defaultBackend lines
  mode := overwritten "mode" l.mode lines
  keepAlive := l.keepAlive
  option := overwritten "option" l.option lines
  rules := l.rules
  metadata := l.metadata

/-- A line that sets one word sets none that starts differently. -/
theorem valueAfter?_of_other {word other : String} {line text : List Char}
    (h : valueAfter? other line = some text) (hother : other.toList ≠ [])
    (hword : word.toList ≠ []) (hhead : other.toList.head? ≠ word.toList.head?) :
    valueAfter? word line = none := by
  obtain ⟨-, rest, rfl, -⟩ := valueAfter?_eq_some_iff.mp h
  exact valueAfter?_eq_none hword hother hhead rest

/-- A directive leaves the values of words that start differently alone. -/
theorem overwritten_of_other {word other : String} {line text : List Char}
    (h : valueAfter? other line = some text) (hother : other.toList ≠ [])
    (hword : word.toList ≠ []) (hhead : other.toList.head? ≠ word.toList.head?) (value : String) :
    overwritten word value [line] = value := by
  refine overwritten_of_ne_some (fun text' => ?_) value
  rw [valueAfter?_of_other h hother hword hhead]
  exact nofun

theorem readListenerLine_eq (l : Listener) (line : List Char) :
    readListenerLine l line = overwriteListener l [line] := by
  unfold readListenerLine overwriteListener
  split
  · next v hbind =>
    rw [overwritten_of_some hbind, overwritten_of_other hbind (by decide) (by decide) (by decide),
      overwritten_of_other hbind (by decide) (by decide) (by decide),
      overwritten_of_other hbind (by decide) (by decide) (by decide)]
  · next hbind =>
    rw [overwritten_of_ne_some hbind]
    split
    · next v hmode =>
      rw [overwritten_of_some hmode, overwritten_of_other hmode (by decide) (by decide) (by decide),
        overwritten_of_other hmode (by decide) (by decide) (by decide)]
    · next hmode =>
      rw [overwritten_of_ne_some hmode]
      split
      · next v hdefault =>
        rw [overwritten_of_some hdefault,
          overwritten_of_other hdefault (by decide) (by decide) (by decide)]
      · next hdefault =>
        rw [overwritten_of_ne_some hdefault]
        split
        · next v hoption => rw [overwritten_of_some hoption]
        · next hoption => rw [overwritten_of_ne_some hoption]

theorem foldl_readListenerLine (l : Listener) (lines : List (List Char)) :
    lines.foldl readListenerLine l = overwriteListener l lines := by
  induction lines generalizing l with
  | nil => rfl
  | cons line lines ih =>
      rw [List.foldl_cons, ih, readListenerLine_eq]
      rfl

/-! ## Server lines -/

/-- What a server line says of a member. -/
def serverValue (m : Member) : List Char :=
  m.name.toList ++ ' ' :: (m.host.toList ++ ':' :: digits m.port.toNat) ++
    ' ' :: serverCheck.toList

/-- A member that fits on a server line: blanks would end its name or its
address. -/
@[mk_iff]
structure FitsServerLine (m : Member) : Prop where
  name_ne : m.name ≠ ""
  name : ∀ c ∈ m.name.toList, isBlank c = false
  host : ∀ c ∈ m.host.toList, isBlank c = false

instance (m : Member) : Decidable (FitsServerLine m) :=
  decidable_of_iff (m.name ≠ "" ∧ m.name.toList.all (!isBlank ·) = true ∧
    m.host.toList.all (!isBlank ·) = true) (by simp [fitsServerLine_iff])

theorem FitsServerLine.lacks_blank {m : Member} (h : FitsServerLine m) {c : Char}
    (hc : isBlank c = true) : c ∉ m.name.toList ∧ c ∉ m.host.toList :=
  ⟨not_mem_of_isBlank hc h.name, not_mem_of_isBlank hc h.host⟩

theorem toList_ne_nil {s : String} (h : s ≠ "") : s.toList ≠ [] := fun hnil =>
  h (String.toList_eq_nil_iff.mp hnil)

theorem ofList_ne_empty {s : List Char} (h : s ≠ []) : String.ofList s ≠ "" := fun hempty =>
  h (String.ofList_eq_empty_iff.mp hempty)

theorem FitsServerLine.readServer {m : Member} (h : FitsServerLine m) :
    readServer (serverValue m) = .ok m.shown := by
  have haddress : ∀ c ∈ m.host.toList ++ ':' :: digits m.port.toNat, isBlank c = false := by
    intro c hc
    rcases List.mem_append.mp hc with hc | hc
    · exact h.host c hc
    rcases List.mem_cons.mp hc with rfl | hc
    · decide
    · obtain ⟨d, hd⟩ := digitValue?_of_mem_digits _ c hc
      exact not_isBlank_of_digitValue? hd
  have hfields : fields (serverValue m) =
      [m.name.toList, m.host.toList ++ ':' :: digits m.port.toNat, "check".toList,
        "inter".toList, "2000".toList] := by
    have hcheck : fields serverCheck.toList = ["check".toList, "inter".toList, "2000".toList] := by
      decide
    rw [serverValue, List.append_assoc, List.cons_append,
      fields_word_blank (toList_ne_nil h.name_ne) h.name (by decide),
      fields_word_blank (by simp) haddress (by decide), hcheck]
  have hcut : cutLast? ':' (m.host.toList ++ ':' :: digits m.port.toNat) =
      some (m.host.toList, digits m.port.toNat) := cutLast?_append (not_mem_digits (by decide) _)
  have hport : readNumeral 65535 (digits m.port.toNat) = .ok m.port.toNat :=
    readNumeral_digits (Nat.le_of_lt_succ m.port.toNat_lt)
  rw [ConfigFile.readServer, hfields]
  simp only [hcut, hport]
  simp [Member.shown]

end ConfigFile

end ProxySync
