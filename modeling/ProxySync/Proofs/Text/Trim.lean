import Mathlib.Data.List.Basic
import Mathlib.Data.List.Induction
import Mathlib.Data.List.TakeWhile
import Mathlib.Tactic.MkIffOfInductiveProp
import ProxySync.Text.Blank
import ProxySync.Text.Numeral

/-!
# Trimmed texts, lines and fields

Trimming takes the blanks off both ends and nothing else, so a trimmed text
is one whose ends are not blank (`trim_of_trimmed`, `trimmed_trim`). Lines
that were put together are found again by cutting at line feeds
(`lines_unlines`), and words without blanks by cutting at blanks
(`fields_word_blank`).
-/

namespace ProxySync.Text

/-! ## Blanks -/

theorem not_isBlank_of_digitValue? {c : Char} {d : Nat} (h : digitValue? c = some d) :
    isBlank c = false := by
  unfold digitValue? at h
  split at h
  · next hc =>
    have hlow : 48 ≤ c.toNat := hc.1
    have hhigh : c.toNat ≤ 57 := hc.2
    simp only [isBlank, Bool.or_eq_false_iff, Bool.and_eq_false_iff, decide_eq_false_iff_not,
      beq_eq_false_iff_ne]
    omega
  · cases h

theorem not_mem_of_isBlank {s : List Char} {c : Char} (hc : isBlank c = true)
    (hs : ∀ c ∈ s, isBlank c = false) : c ∉ s := fun hmem =>
  Bool.false_ne_true ((hs c hmem).symm.trans hc)

/-! ## Trimming -/

/-- Neither end of the text is blank. -/
@[mk_iff]
structure Trimmed (s : List Char) : Prop where
  head : ∀ c, s.head? = some c → isBlank c = false
  last : ∀ c, s.getLast? = some c → isBlank c = false

instance (s : List Char) : Decidable (Trimmed s) :=
  decidable_of_iff (s.head?.all (!isBlank ·) = true ∧ s.getLast?.all (!isBlank ·) = true)
    (by simp [trimmed_iff, Option.all_eq_true])

theorem trimmed_nil : Trimmed [] := ⟨nofun, nofun⟩

theorem Trimmed.reverse {s : List Char} (h : Trimmed s) : Trimmed s.reverse :=
  ⟨fun c hc => h.last c (by rwa [← List.head?_reverse]),
    fun c hc => h.head c (by rwa [← List.getLast?_reverse])⟩

/-- A text between two trimmed ones does not matter. -/
theorem Trimmed.append {s t : List Char} (hs : Trimmed s) (hne : s ≠ []) (ht : Trimmed t)
    (hne' : t ≠ []) (u : List Char) : Trimmed (s ++ u ++ t) := by
  constructor
  · intro c hc
    rw [List.append_assoc, List.head?_append_of_ne_nil _ hne] at hc
    exact hs.head c hc
  · intro c hc
    rw [List.getLast?_append_of_ne_nil _ hne'] at hc
    exact ht.last c hc

theorem trimmed_of_forall {s : List Char} (h : ∀ c ∈ s, isBlank c = false) : Trimmed s :=
  ⟨fun c hc => h c (List.mem_of_head? hc), fun c hc => h c (List.mem_of_getLast? hc)⟩

theorem trimStart_of_head {s : List Char} (h : ∀ c, s.head? = some c → isBlank c = false) :
    trimStart s = s := by
  cases s with
  | nil => rfl
  | cons c s => rw [trimStart, List.dropWhile_cons_of_neg (by simp [h c rfl])]

theorem trim_of_trimmed {s : List Char} (h : Trimmed s) : trim s = s := by
  rw [trim, trimEnd, trimStart_of_head h.head, trimStart_of_head h.reverse.head,
    List.reverse_reverse]

theorem head_trimStart {s : List Char} {c : Char} (h : (trimStart s).head? = some c) :
    isBlank c = false := by
  have hnot := List.head?_dropWhile_not isBlank s
  rw [← trimStart, h] at hnot
  simpa using hnot

theorem trimEnd_isPrefix (s : List Char) : trimEnd s <+: s := by
  rw [← List.reverse_suffix, trimEnd, List.reverse_reverse]
  exact List.dropWhile_suffix _

/-- **What was trimmed is trimmed.** -/
theorem trimmed_trim (s : List Char) : Trimmed (trim s) := by
  constructor
  · intro c hc
    -- Trimming the end leaves the start, unless nothing is left.
    obtain ⟨rest, hrest⟩ := trimEnd_isPrefix (trimStart s)
    refine @head_trimStart s c ?_
    rw [← hrest, List.head?_append_of_ne_nil]
    · exact hc
    · rintro hnil
      rw [trim, hnil] at hc
      cases hc
  · intro c hc
    rw [trim, trimEnd, List.getLast?_reverse] at hc
    exact head_trimStart hc

theorem mem_of_mem_trim {s : List Char} {c : Char} (h : c ∈ trim s) : c ∈ s := by
  have hstart : c ∈ trimStart s := (trimEnd_isPrefix _).subset h
  exact (List.dropWhile_suffix _).subset hstart

theorem trim_blanks_append {b : List Char} (hb : b.all isBlank = true) (s : List Char) :
    trim (b ++ s) = trim s := by
  rw [trim, trimStart, List.dropWhile_append_of_pos (List.all_eq_true.mp hb)]
  rfl

theorem trim_append_blanks {b : List Char} (hb : b.all isBlank = true) (s : List Char) :
    trim (s ++ b) = trim s := by
  by_cases hs : trimStart s = []
  · have hblank : (s ++ b).all isBlank = true := by
      rw [List.all_append, hb, List.all_eq_true.mpr (List.dropWhile_eq_nil_iff.mp hs)]
      rfl
    have hnil : trimStart (s ++ b) = [] :=
      List.dropWhile_eq_nil_iff.mpr (List.all_eq_true.mp hblank)
    rw [trim, trim, hs, hnil]
  · have hstart : trimStart (s ++ b) = trimStart s ++ b := by
      rw [trimStart, List.dropWhile_append, if_neg]
      · rfl
      · rwa [List.isEmpty_iff]
    have hblank : ∀ c ∈ b.reverse, isBlank c = true := fun c hc =>
      List.all_eq_true.mp hb c (List.mem_reverse.mp hc)
    rw [trim, trim, hstart, trimEnd, List.reverse_append, trimStart,
      List.dropWhile_append_of_pos hblank]
    rfl

/-- Nothing is left of a text just when all of it is blank. -/
theorem trim_eq_nil_iff {s : List Char} : trim s = [] ↔ s.all isBlank = true := by
  constructor
  · intro h
    by_contra hs
    have hne : trimStart s ≠ [] := fun hnil =>
      hs (List.all_eq_true.mpr (List.dropWhile_eq_nil_iff.mp hnil))
    -- What trimming the start leaves has a character that is not blank, its first.
    obtain ⟨c, rest, hcons⟩ := List.exists_cons_of_ne_nil hne
    have hc : isBlank c = false := head_trimStart (s := s) (by rw [hcons]; rfl)
    have hall := List.dropWhile_eq_nil_iff.mp (List.reverse_eq_nil_iff.mp h)
    have hblank := hall c (List.mem_reverse.mpr (hcons ▸ List.mem_cons_self))
    exact Bool.false_ne_true (hc.symm.trans hblank)
  · intro h
    rw [← List.append_nil s, trim_blanks_append h]
    rfl

theorem trim_ne_nil {s : List Char} {c : Char} (hmem : c ∈ s) (hc : isBlank c = false) :
    trim s ≠ [] := fun hnil =>
  Bool.false_ne_true (hc.symm.trans (List.all_eq_true.mp (trim_eq_nil_iff.mp hnil) c hmem))

/-- A text is its trimmed part between blanks. -/
theorem exists_blanks_trim (s : List Char) :
    ∃ b b', b.all isBlank = true ∧ b'.all isBlank = true ∧ s = b ++ trim s ++ b' := by
  have hend (t : List Char) : t = trimEnd t ++ (t.reverse.takeWhile isBlank).reverse := by
    rw [trimEnd, ← List.reverse_append, trimStart, List.takeWhile_append_dropWhile,
      List.reverse_reverse]
  refine ⟨s.takeWhile isBlank, ((trimStart s).reverse.takeWhile isBlank).reverse, ?_, ?_, ?_⟩
  · exact List.all_takeWhile
  · rw [List.all_reverse]
    exact List.all_takeWhile
  · rw [List.append_assoc, trim, ← hend, trimStart, List.takeWhile_append_dropWhile]

/-! ## Lines -/

/-- No piece of a split contains a character that was split at. -/
theorem not_of_mem_splitOnP {p : Char → Bool} {s piece : List Char} (h : piece ∈ s.splitOnP p) :
    ∀ c ∈ piece, p c = false := by
  induction s generalizing piece with
  | nil =>
      rw [List.splitOnP_nil, List.mem_singleton] at h
      rw [h]
      exact nofun
  | cons a s ih =>
      rw [List.splitOnP_cons_eq_if_modifyHead] at h
      split at h
      · rcases List.mem_cons.mp h with rfl | h
        · exact nofun
        · exact ih h
      · next ha =>
        obtain ⟨first, rest, hsplit⟩ := List.exists_cons_of_ne_nil (List.splitOnP_ne_nil p s)
        rw [hsplit] at ih h
        rcases List.mem_cons.mp h with rfl | h
        · intro c hc
          rcases List.mem_cons.mp hc with rfl | hc
          · simpa using ha
          · exact ih List.mem_cons_self c hc
        · exact ih (List.mem_cons_of_mem _ h)

theorem not_mem_of_mem_lines {s line : List Char} (h : line ∈ lines s) : '\n' ∉ line := by
  rw [lines, List.splitOn_eq_splitOnP] at h
  intro hmem
  simpa using not_of_mem_splitOnP h _ hmem

theorem lines_unlines {ls : List (List Char)} (h : ∀ line ∈ ls, '\n' ∉ line) :
    lines (ls.flatMap (· ++ ['\n'])) = ls ++ [[]] := by
  induction ls with
  | nil => rfl
  | cons line ls ih =>
      obtain ⟨hline, hrest⟩ := List.forall_mem_cons.mp h
      have hcons : (line :: ls).flatMap (· ++ ['\n']) =
          line ++ '\n' :: ls.flatMap (· ++ ['\n']) := by simp
      rw [hcons, lines, List.splitOn_append_cons_self_of_not_mem hline]
      exact congrArg _ (ih hrest)

/-! ## Fields -/

/-- A field is a word without blanks. -/
theorem not_isBlank_of_mem_fields {s word : List Char} (h : word ∈ fields s) :
    word ≠ [] ∧ ∀ c ∈ word, isBlank c = false := by
  obtain ⟨hword, hne⟩ := List.mem_filter.mp h
  exact ⟨by simpa using hne, not_of_mem_splitOnP hword⟩

theorem fields_word_blank {word : List Char} (hne : word ≠ [])
    (hword : ∀ c ∈ word, isBlank c = false) {b : Char} (hb : isBlank b = true) (s : List Char) :
    fields (word ++ b :: s) = word :: fields s := by
  rw [fields, List.splitOnP_append_cons_of_forall_mem hword b hb, List.filter_cons,
    if_pos (by simpa using hne)]
  rfl

theorem fields_append_blank {b : Char} (hb : isBlank b = true) (s t : List Char) :
    fields (s ++ b :: t) = fields s ++ fields t := by
  rw [fields, List.splitOnP_append_cons s t hb, List.filter_append]
  rfl

theorem fields_word {word : List Char} (hne : word ≠ []) (hword : ∀ c ∈ word, isBlank c = false) :
    fields word = [word] := by
  rw [fields, List.splitOnP_eq_singleton hword]
  simp [hne]

theorem fields_blanks_append {b : List Char} (hb : b.all isBlank = true) (s : List Char) :
    fields (b ++ s) = fields s := by
  induction b with
  | nil => rfl
  | cons c b ih =>
      rw [List.all_cons, Bool.and_eq_true] at hb
      exact (fields_append_blank hb.1 [] (b ++ s)).trans (ih hb.2)

theorem fields_append_blanks {b : List Char} (hb : b.all isBlank = true) (s : List Char) :
    fields (s ++ b) = fields s := by
  cases b with
  | nil => rw [List.append_nil]
  | cons c b =>
      rw [List.all_cons, Bool.and_eq_true] at hb
      rw [fields_append_blank hb.1, ← List.append_nil b, fields_blanks_append hb.2]
      exact List.append_nil _

/-- Blanks at the ends belong to no field. -/
theorem fields_trim (s : List Char) : fields (trim s) = fields s := by
  obtain ⟨b, b', hb, hb', hsplit⟩ := exists_blanks_trim s
  have hfields : fields (b ++ trim s ++ b') = fields (trim s) := by
    rw [fields_append_blanks hb', fields_blanks_append hb]
  rw [← hfields, ← hsplit]

/-- The last field of a text keeps what is put behind it. -/
theorem exists_fields_append (s : List Char) {word : List Char} (hne : word ≠ [])
    (hword : ∀ c ∈ word, isBlank c = false) :
    ∃ front stem, fields (s ++ word) = front ++ [stem ++ word] := by
  induction s using List.reverseRecOn generalizing word with
  | nil => exact ⟨[], [], fields_word hne hword⟩
  | append_singleton s c ih =>
      rw [List.append_assoc, List.singleton_append]
      cases hc : isBlank c with
      | true =>
          rw [fields_append_blank hc, fields_word hne hword]
          exact ⟨fields s, [], rfl⟩
      | false =>
          have hcons : ∀ d ∈ c :: word, isBlank d = false := List.forall_mem_cons.mpr ⟨hc, hword⟩
          obtain ⟨front, stem, hfields⟩ := ih (List.cons_ne_nil c word) hcons
          exact ⟨front, stem ++ [c], by rw [hfields, List.append_assoc, List.singleton_append]⟩

/-! ## Cutting at the last separator -/

theorem cutLast?_append {sep : Char} {front back : List Char} (h : sep ∉ back) :
    cutLast? sep (front ++ sep :: back) = some (front, back) := by
  have hback : ∀ c ∈ back.reverse, (c != sep) = true := fun c hc => by
    simpa using fun hsep : c = sep => h (hsep ▸ List.mem_reverse.mp hc)
  have hreverse : (front ++ sep :: back).reverse = back.reverse ++ sep :: front.reverse := by simp
  rw [cutLast?, if_pos (by simp), hreverse]
  simp [List.dropWhile_append_of_pos hback, List.takeWhile_append_of_pos hback]

theorem mem_of_cutLast? {sep : Char} {s front back : List Char}
    (h : cutLast? sep s = some (front, back)) : ∀ c ∈ front, c ∈ s := by
  unfold cutLast? at h
  split at h
  · obtain ⟨rfl, -⟩ := Prod.mk.inj (Option.some.inj h)
    intro c hc
    have hdrop := List.mem_of_mem_drop (List.mem_reverse.mp hc)
    exact List.mem_reverse.mp ((List.dropWhile_suffix _).subset hdrop)
  · cases h

theorem cutLast?_eq_some_iff {sep : Char} {s front back : List Char} :
    cutLast? sep s = some (front, back) ↔ s = front ++ sep :: back ∧ sep ∉ back := by
  constructor
  · intro h
    have hmem : sep ∈ s.reverse := by
      by_contra hsep
      rw [cutLast?, if_neg (by simpa using hsep)] at h
      cases h
    -- The last separator is the first one from behind.
    obtain ⟨after, before, hs, hafter⟩ := List.eq_append_cons_of_mem hmem
    have hs' : s = before.reverse ++ sep :: after.reverse := by
      rw [← List.reverse_reverse s, hs]
      simp
    have hlast : sep ∉ after.reverse := fun hsep => hafter (List.mem_reverse.mp hsep)
    rw [hs', cutLast?_append hlast] at h
    obtain ⟨rfl, rfl⟩ := Prod.mk.inj (Option.some.inj h)
    exact ⟨hs', hlast⟩
  · rintro ⟨rfl, hback⟩
    exact cutLast?_append hback

end ProxySync.Text
