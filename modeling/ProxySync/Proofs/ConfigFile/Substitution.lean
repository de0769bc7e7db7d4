import Mathlib.Data.List.Infix
import ProxySync.ConfigFile.Template

/-!
# Rendering is substitution

Marks of slots do not overlap: a text that goes on with the rest of a mark
starts with no mark (`marks_apart`). So a template can be cut at its slots in
one way only (`cuts_iff`), whatever else it has that looks like half a mark,
and rendering fills exactly these slots. What is filled in plays no part in
where they are. The same text comes from replacing one slot at a time, as
long as the text is split at the first slot before the second is replaced
(`intercalate_map_replaceSlot`).
-/

namespace ProxySync.ConfigFile

open ProxySync.Text

/-! ## Marks -/

/-- A slot as it stands in a text. -/
def mark (k : Kind) : List Char := (slotMark k).toList

theorem mark_ne_nil (k : Kind) : mark k ≠ [] := by
  cases k <;> decide

theorem not_mark_infix_nil (k : Kind) : ¬ mark k <:+: [] := fun h =>
  mark_ne_nil k (List.eq_nil_of_infix_nil h)

theorem length_lt_mark_append (k : Kind) (rest : List Char) :
    rest.length < (mark k ++ rest).length := by
  rw [List.length_append]
  exact Nat.lt_add_of_pos_left (List.length_pos_iff.mpr (mark_ne_nil k))

theorem eq_of_mark_starts {k k' : Kind} {s : List Char} (h : mark k <+: s) (h' : mark k' <+: s) :
    k = k' := by
  have hmarks : mark k <+: mark k' ∨ mark k' <+: mark k := List.prefix_or_prefix_of_prefix h h'
  revert hmarks
  cases k <;> cases k' <;> decide

/-- No rest of a mark starts a mark or starts with one. -/
theorem marks_differ (k k' : Kind) :
    ∀ back ∈ (mark k).tail.tails, back ≠ [] → ¬ mark k' <+: back ∧ ¬ back <+: mark k' := by
  cases k <;> cases k' <;> decide

/-- A text that goes on with the rest of a mark starts with no mark. -/
theorem marks_apart {k : Kind} {front back : List Char} (h : front ++ back = mark k)
    (hfront : front ≠ []) (hback : back ≠ []) {s : List Char} (hs : back <+: s) (k' : Kind) :
    ¬ mark k' <+: s := by
  obtain ⟨c, front, rfl⟩ := List.exists_cons_of_ne_nil hfront
  have hrest : back ∈ (mark k).tail.tails := by
    rw [List.mem_tails, ← h]
    exact List.suffix_append front back
  obtain ⟨hlong, hshort⟩ := marks_differ k k' back hrest hback
  intro hmark
  exact (List.prefix_or_prefix_of_prefix hmark hs).elim hlong hshort

/-- Inside one mark the other does not start. -/
theorem no_mark_inside {k k' : Kind} (hne : k ≠ k') {front back : List Char}
    (h : front ++ back = mark k') (hback : back ≠ []) (rest : List Char) :
    ¬ mark k <+: back ++ rest := by
  cases front with
  | nil =>
      obtain rfl : back = mark k' := h
      exact fun hmark => hne (eq_of_mark_starts hmark (List.prefix_append _ _))
  | cons c front =>
      exact marks_apart h (List.cons_ne_nil _ _) hback (List.prefix_append _ _) k

/-! ## Pieces -/

theorem dropLead?_eq_none_iff {lead s : List Char} : dropLead? lead s = none ↔ ¬ lead <+: s := by
  rw [Option.eq_none_iff_forall_ne_some, List.prefix_iff_exists_eq_append, not_exists]
  exact forall_congr' fun rest => not_congr dropLead?_eq_some_iff

theorem leadingSlot?_mark_append (k : Kind) (rest : List Char) :
    leadingSlot? (mark k ++ rest) = some (k, rest) := by
  have hown : dropLead? (slotMark k).toList (mark k ++ rest) = some rest :=
    dropLead?_eq_some_iff.mpr rfl
  cases k with
  | frontend => rw [leadingSlot?, hown]
  | backend =>
      have hother : dropLead? (slotMark .frontend).toList (mark .backend ++ rest) = none := by
        rw [dropLead?_eq_none_iff]
        exact no_mark_inside (by decide) (List.nil_append _) (mark_ne_nil .backend) rest
      rw [leadingSlot?, hother, hown]

theorem leadingSlot?_eq_none {s : List Char} (h : ∀ k, ¬ mark k <+: s) :
    leadingSlot? s = none := by
  have hnone (k : Kind) : dropLead? (slotMark k).toList s = none :=
    dropLead?_eq_none_iff.mpr (h k)
  rw [leadingSlot?, hnone, hnone]

theorem pieces_nil : pieces [] = [] := by
  rw [pieces]
  rfl

theorem pieces_mark_append (k : Kind) (rest : List Char) :
    pieces (mark k ++ rest) = .slot k :: pieces rest := by
  rw [pieces]
  split
  · next k' rest' h =>
    rw [leadingSlot?_mark_append] at h
    cases h
    rfl
  · next h =>
    rw [leadingSlot?_mark_append] at h
    cases h

theorem pieces_cons {c : Char} {rest : List Char} (h : ∀ k, ¬ mark k <+: c :: rest) :
    pieces (c :: rest) = .char c :: pieces rest := by
  rw [pieces]
  split
  · next k' rest' hslot =>
    rw [leadingSlot?_eq_none h] at hslot
    cases hslot
  · rfl

/-- What a text can start with. -/
theorem slot_induction {motive : List Char → Prop} (nil : motive [])
    (slot : ∀ k rest, motive rest → motive (mark k ++ rest))
    (char : ∀ c rest, (∀ k, ¬ mark k <+: c :: rest) → motive rest → motive (c :: rest))
    (s : List Char) : motive s := by
  induction hlength : s.length using Nat.strongRecOn generalizing s with
  | ind n ih =>
  subst hlength
  by_cases hmark : ∃ k, mark k <+: s
  · obtain ⟨k, rest, rfl⟩ := hmark
    exact slot k rest (ih _ (length_lt_mark_append k rest) rest rfl)
  · cases s with
    | nil => exact nil
    | cons c rest => exact char c rest (not_exists.mp hmark) (ih _ (Nat.lt_succ_self _) rest rfl)

/-! ## Cuts -/

/-- A text cut at slots: what stands before the first of them, and each slot
with what stands behind it. -/
structure Cut where
  lead : List Char
  tail : List (Kind × List Char)
deriving DecidableEq

namespace Cut

/-- The text with something in the place of each slot. -/
def fill (f : Kind → List Char) (c : Cut) : List Char :=
  c.lead ++ c.tail.flatMap fun t => f t.1 ++ t.2

def slots (c : Cut) : List Kind := c.tail.map (·.1)

def literals (c : Cut) : List (List Char) := c.lead :: c.tail.map (·.2)

/-- The text is cut at marks of slots, and at all of them. -/
structure Cuts (c : Cut) (s : List Char) : Prop where
  text : c.fill mark = s
  clean : ∀ literal ∈ c.literals, ∀ k, ¬ mark k <:+: literal

/-- The cut with its literals taken apart. -/
def pieces (c : Cut) : List Piece :=
  c.lead.map .char ++ c.tail.flatMap fun t => .slot t.1 :: t.2.map .char

/-- Pieces with the characters between slots put together. -/
def ofPieces : List Piece → Cut
  | [] => ⟨[], []⟩
  | .char c :: ps => ⟨c :: (ofPieces ps).lead, (ofPieces ps).tail⟩
  | .slot k :: ps => ⟨[], (k, (ofPieces ps).lead) :: (ofPieces ps).tail⟩

theorem ofPieces_literal_append (literal : List Char) (ps : List Piece) :
    ofPieces (literal.map .char ++ ps) = ⟨literal ++ (ofPieces ps).lead, (ofPieces ps).tail⟩ := by
  induction literal with
  | nil => rfl
  | cons c literal ih =>
      rw [List.map_cons, List.cons_append, ofPieces, ih]
      rfl

theorem ofPieces_pieces (c : Cut) : ofPieces c.pieces = c := by
  obtain ⟨lead, tail⟩ := c
  induction tail generalizing lead with
  | nil =>
      rw [pieces, ofPieces_literal_append]
      simp [ofPieces]
  | cons t tail ih =>
      obtain ⟨k, literal⟩ := t
      have hrest : ofPieces (literal.map .char ++
          tail.flatMap fun t => .slot t.1 :: t.2.map .char) = ⟨literal, tail⟩ := ih literal
      rw [pieces, ofPieces_literal_append, List.flatMap_cons, List.cons_append, ofPieces, hrest,
        List.append_nil]

theorem fill_ofPieces (f : Kind → List Char) (ps : List Piece) :
    (ofPieces ps).fill f = ps.flatMap (ConfigFile.fill (f .frontend) (f .backend)) := by
  induction ps with
  | nil => rfl
  | cons p ps ih =>
      rw [List.flatMap_cons, ← ih]
      cases p with
      | char c => rfl
      | slot k => cases k <;> simp [ofPieces, fill, ConfigFile.fill]

theorem mem_slots_ofPieces {k : Kind} {ps : List Piece} (h : .slot k ∈ ps) :
    k ∈ (ofPieces ps).slots := by
  induction ps with
  | nil => cases h
  | cons p ps ih =>
      cases p with
      | char c => exact ih (by simpa using h)
      | slot k' =>
          rcases List.mem_cons.mp h with heq | hrest
          · cases heq
            exact List.mem_cons_self
          · exact List.mem_cons_of_mem _ (ih hrest)

/-- Cutting where reading finds slots leaves none behind. -/
theorem cuts_ofPieces (s : List Char) : (ofPieces (ConfigFile.pieces s)).Cuts s := by
  induction s using slot_induction with
  | nil =>
      rw [pieces_nil]
      exact ⟨rfl, List.forall_mem_singleton.mpr not_mark_infix_nil⟩
  | slot k rest ih =>
      rw [pieces_mark_append]
      constructor
      · have hfill : (ofPieces (.slot k :: ConfigFile.pieces rest)).fill mark =
            mark k ++ (ofPieces (ConfigFile.pieces rest)).fill mark := by
          simp [ofPieces, fill]
        rw [hfill, ih.text]
      · exact List.forall_mem_cons.mpr ⟨not_mark_infix_nil, ih.clean⟩
  | char c rest h ih =>
      rw [pieces_cons h]
      constructor
      · exact congrArg (c :: ·) ih.text
      · obtain ⟨hclean, htail⟩ := List.forall_mem_cons.mp ih.clean
        refine List.forall_mem_cons.mpr ⟨fun k hmark => ?_, htail⟩
        have hlead : (ofPieces (ConfigFile.pieces rest)).lead <+: rest := ⟨_, ih.text⟩
        rcases List.infix_cons_iff.mp hmark with hstart | hinside
        · exact h k (hstart.trans ((List.prefix_cons_inj c).mpr hlead))
        · exact hclean k hinside

/-- No mark starts in a literal: it would end behind it, in the slot that comes
next. -/
theorem no_mark_at_literal {literal : List Char} (hne : literal ≠ [])
    (hclean : ∀ k, ¬ mark k <:+: literal) {rest : List Char}
    (hrest : rest = [] ∨ ∃ k later, rest = mark k ++ later) (k : Kind) :
    ¬ mark k <+: literal ++ rest := by
  intro hmark
  obtain hin | ⟨back, hback⟩ :=
    List.prefix_or_prefix_of_prefix hmark (List.prefix_append literal rest)
  · exact hclean k hin.isInfix
  have hbehind : back <+: rest := by
    rw [← hback] at hmark
    exact (List.prefix_append_right_inj _).mp hmark
  have hback_ne : back ≠ [] := by
    rintro rfl
    rw [List.append_nil] at hback
    exact hclean k (hback ▸ List.infix_rfl)
  rcases hrest with rfl | ⟨k', later, rfl⟩
  · exact hback_ne (List.eq_nil_of_prefix_nil hbehind)
  · exact marks_apart hback hne hback_ne hbehind k' (List.prefix_append _ _)

/-- A literal goes to pieces by itself, whatever slot comes next. -/
theorem pieces_literal_append {literal : List Char} (hclean : ∀ k, ¬ mark k <:+: literal)
    {rest : List Char} (hrest : rest = [] ∨ ∃ k later, rest = mark k ++ later) :
    ConfigFile.pieces (literal ++ rest) = literal.map .char ++ ConfigFile.pieces rest := by
  induction literal with
  | nil => rfl
  | cons c literal ih =>
      have htail : ∀ k, ¬ mark k <:+: literal := fun k hmark =>
        hclean k (List.infix_cons_iff.mpr (Or.inr hmark))
      have hstart : ∀ k, ¬ mark k <+: c :: (literal ++ rest) :=
        no_mark_at_literal (List.cons_ne_nil c literal) hclean hrest
      rw [List.cons_append, pieces_cons hstart, ih htail]
      rfl

/-- The pieces of a text are those of any cut of it. -/
theorem Cuts.pieces_eq {c : Cut} {s : List Char} (h : c.Cuts s) : ConfigFile.pieces s = c.pieces := by
  obtain ⟨lead, tail⟩ := c
  induction tail generalizing lead s with
  | nil =>
      have hlead : ∀ k, ¬ mark k <:+: lead := h.clean lead List.mem_cons_self
      rw [← h.text, fill, pieces]
      exact (pieces_literal_append hlead (Or.inl rfl)).trans (by rw [pieces_nil]; rfl)
  | cons t tail ih =>
      obtain ⟨k, literal⟩ := t
      obtain ⟨hlead, htail⟩ := List.forall_mem_cons.mp h.clean
      have htext : s = lead ++ (mark k ++ (Cut.mk literal tail).fill mark) := by
        rw [← h.text]
        simp [fill]
      rw [htext, pieces_literal_append hlead (Or.inr ⟨k, _, rfl⟩), pieces_mark_append,
        ih literal ⟨rfl, htail⟩]
      rfl

/-- **There is one way to cut a text.** -/
theorem cuts_iff {c : Cut} {s : List Char} :
    c.Cuts s ↔ c = ofPieces (ConfigFile.pieces s) := by
  constructor
  · intro h
    rw [h.pieces_eq, ofPieces_pieces]
  · rintro rfl
    exact cuts_ofPieces s

end Cut

/-! ## One slot at a time -/

/-- What stands between the marks of a slot, looked for from the left. -/
def splitSlot (k : Kind) (s : List Char) : List (List Char) :=
  match h : dropLead? (mark k) s with
  | some rest =>
    have : rest.length < s.length := by
      rw [dropLead?_eq_some_iff.mp h]
      exact length_lt_mark_append k rest
    [] :: splitSlot k rest
  | none =>
    match s with
    | [] => [[]]
    | c :: rest => (splitSlot k rest).modifyHead (c :: ·)
termination_by s.length

/-- A text with another text in the place of one slot. -/
def replaceSlot (k : Kind) (text s : List Char) : List Char := text.intercalate (splitSlot k s)

theorem splitSlot_nil (k : Kind) : splitSlot k [] = [[]] := by
  rw [splitSlot]
  split
  · next rest h =>
    have hempty := List.append_eq_nil_iff.mp (dropLead?_eq_some_iff.mp h).symm
    exact absurd hempty.1 (mark_ne_nil k)
  · rfl

theorem splitSlot_mark_append (k : Kind) (rest : List Char) :
    splitSlot k (mark k ++ rest) = [] :: splitSlot k rest := by
  rw [splitSlot]
  split
  · next rest' h =>
    obtain rfl : rest = rest' := List.append_cancel_left (dropLead?_eq_some_iff.mp h)
    rfl
  · next h => exact absurd (List.prefix_append _ _) (dropLead?_eq_none_iff.mp h)

theorem splitSlot_cons {k : Kind} {c : Char} {rest : List Char} (h : ¬ mark k <+: c :: rest) :
    splitSlot k (c :: rest) = (splitSlot k rest).modifyHead (c :: ·) := by
  rw [splitSlot]
  split
  · next rest' hmark => exact absurd ⟨rest', (dropLead?_eq_some_iff.mp hmark).symm⟩ h
  · rfl

/-- Where no mark starts, nothing is split. -/
theorem splitSlot_append {k : Kind} {front rest : List Char}
    (h : ∀ a b, a ++ b = front → b ≠ [] → ¬ mark k <+: b ++ rest) :
    splitSlot k (front ++ rest) = (splitSlot k rest).modifyHead (front ++ ·) := by
  induction front with
  | nil =>
      rw [List.nil_append]
      cases splitSlot k rest <;> rfl
  | cons c front ih =>
      have hstart : ¬ mark k <+: c :: (front ++ rest) :=
        h [] (c :: front) rfl (List.cons_ne_nil _ _)
      have hlater := ih fun a b hab => h (c :: a) b (congrArg (c :: ·) hab)
      rw [List.cons_append, splitSlot_cons hstart, hlater, List.modifyHead_modifyHead]
      rfl

/-- The mark of the other slot stays whole. -/
theorem splitSlot_other_append {k k' : Kind} (hne : k ≠ k') (rest : List Char) :
    splitSlot k (mark k' ++ rest) = (splitSlot k rest).modifyHead (mark k' ++ ·) :=
  splitSlot_append fun _ _ hsplit hback => no_mark_inside hne hsplit hback rest

/-- The first part is what the text starts with. -/
theorem exists_splitSlot_eq (k : Kind) (s : List Char) :
    ∃ head tail, splitSlot k s = head :: tail ∧ head <+: s := by
  induction s using slot_induction with
  | nil => exact ⟨[], [], splitSlot_nil k, List.nil_prefix⟩
  | slot k' rest ih =>
      by_cases hk : k = k'
      · subst hk
        exact ⟨[], _, splitSlot_mark_append k rest, List.nil_prefix⟩
      · obtain ⟨head, tail, hsplit, hhead⟩ := ih
        refine ⟨mark k' ++ head, tail, ?_, (List.prefix_append_right_inj _).mpr hhead⟩
        rw [splitSlot_other_append hk, hsplit]
        rfl
  | char c rest h ih =>
      obtain ⟨head, tail, hsplit, hhead⟩ := ih
      refine ⟨c :: head, tail, ?_, (List.prefix_cons_inj c).mpr hhead⟩
      rw [splitSlot_cons (h k), hsplit]
      rfl

/-! ## Replacing -/

variable {k k' : Kind} {text : List Char}

theorem replaceSlot_nil (k : Kind) (text : List Char) : replaceSlot k text [] = [] := by
  rw [replaceSlot, splitSlot_nil]
  rfl

theorem replaceSlot_mark_append (k : Kind) (text rest : List Char) :
    replaceSlot k text (mark k ++ rest) = text ++ replaceSlot k text rest := by
  obtain ⟨head, tail, hsplit, -⟩ := exists_splitSlot_eq k rest
  rw [replaceSlot, splitSlot_mark_append, replaceSlot, hsplit]
  simp

theorem replaceSlot_cons {c : Char} {rest : List Char} (h : ¬ mark k <+: c :: rest) :
    replaceSlot k text (c :: rest) = c :: replaceSlot k text rest := by
  obtain ⟨head, tail, hsplit, -⟩ := exists_splitSlot_eq k rest
  rw [replaceSlot, splitSlot_cons h, replaceSlot, hsplit]
  cases tail <;> simp

/-- **The order of the slots does not matter.** Splitting at one of them,
replacing the other in the parts and joining gives what filling all at once
gives. -/
theorem intercalate_map_replaceSlot (hne : k ≠ k') (f : Kind → List Char) (s : List Char) :
    (f k).intercalate ((splitSlot k s).map (replaceSlot k' (f k'))) =
      (pieces s).flatMap (fill (f .frontend) (f .backend)) := by
  have hfill (k : Kind) : fill (f .frontend) (f .backend) (.slot k) = f k := by cases k <;> rfl
  induction s using slot_induction with
  | nil =>
      rw [splitSlot_nil, pieces_nil, List.map_singleton, replaceSlot_nil]
      rfl
  | slot k'' rest ih =>
      obtain ⟨head, tail, hsplit, -⟩ := exists_splitSlot_eq k rest
      rw [pieces_mark_append, List.flatMap_cons, hfill, ← ih]
      by_cases hk : k'' = k
      · subst hk
        rw [splitSlot_mark_append, List.map_cons, replaceSlot_nil, hsplit]
        simp
      · obtain rfl : k'' = k' := by
          revert hne hk
          cases k <;> cases k' <;> cases k'' <;> decide
        rw [splitSlot_other_append hne, hsplit, List.modifyHead_cons, List.map_cons,
          replaceSlot_mark_append, List.map_cons]
        cases tail <;> simp
  | char c rest h ih =>
      obtain ⟨head, tail, hsplit, hhead⟩ := exists_splitSlot_eq k rest
      have hstart : ¬ mark k' <+: c :: head := fun hmark =>
        h k' (hmark.trans ((List.prefix_cons_inj c).mpr hhead))
      rw [pieces_cons h, List.flatMap_cons, ← ih, splitSlot_cons (h k), hsplit,
        List.modifyHead_cons, List.map_cons, replaceSlot_cons hstart, List.map_cons]
      cases tail <;> simp [fill]

/-! ## Templates -/

/-- Where no mark starts, none occurs. -/
theorem mark_infix_append_iff {front rest : List Char}
    (h : ∀ a b, a ++ b = front → b ≠ [] → ¬ mark k <+: b ++ rest) :
    mark k <:+: front ++ rest ↔ mark k <:+: rest := by
  induction front with
  | nil => rfl
  | cons c front ih =>
      have hstart : ¬ mark k <+: c :: (front ++ rest) :=
        h [] (c :: front) rfl (List.cons_ne_nil _ _)
      have hlater := ih fun a b hab => h (c :: a) b (congrArg (c :: ·) hab)
      rw [List.cons_append, List.infix_cons_iff, or_iff_right hstart, hlater]

/-- A slot is found when its mark occurs anywhere. -/
theorem slot_mem_pieces_iff {s : List Char} : .slot k ∈ pieces s ↔ mark k <:+: s := by
  induction s using slot_induction with
  | nil =>
      rw [pieces_nil]
      exact iff_of_false List.not_mem_nil (not_mark_infix_nil k)
  | slot k' rest ih =>
      rw [pieces_mark_append, List.mem_cons, ih]
      by_cases hk : k = k'
      · subst hk
        exact iff_of_true (Or.inl rfl) (List.prefix_append _ _).isInfix
      · have hother : mark k <:+: mark k' ++ rest ↔ mark k <:+: rest :=
          mark_infix_append_iff fun _ _ hsplit hback => no_mark_inside hk hsplit hback rest
        simp [hother, hk]
  | char c rest h ih =>
      rw [pieces_cons h, List.infix_cons_iff, List.mem_cons, ih]
      simp [h k]

theorem source_of_ofString {source : String} {t : Template}
    (h : Template.ofString source = .ok t) : t.source = source := by
  unfold Template.ofString at h
  split at h
  · cases h
    rfl
  · cases h

/-- A text is a template when it has the marks of both slots. -/
theorem exists_ofString_iff {source : String} :
    (∃ t, Template.ofString source = .ok t) ↔ ∀ k, mark k <:+: source.toList := by
  constructor
  · rintro ⟨t, h⟩ k
    rw [← source_of_ofString h]
    exact slot_mem_pieces_iff.mp (t.hasSlots k)
  · intro h
    have hfound : missingSlot? source.toList = none := by
      rw [missingSlot?, List.find?_eq_none]
      intro k _
      simp [slot_mem_pieces_iff, h k]
    unfold Template.ofString
    split
    · exact ⟨_, rfl⟩
    · next k hmissing =>
      rw [hfound] at hmissing
      cases hmissing

/-- What stands for each slot: the blocks of all entities of its kind. -/
def blocks (ls : List Listener) (ps : List Pool) : Kind → List Char
  | .frontend => ls.flatMap fun l => unlines (listenerBlock l)
  | .backend => ps.flatMap fun p => unlines (poolBlock p)

theorem toList_render (t : Template) (ls : List Listener) (ps : List Pool) :
    (t.render ls ps).toList = (pieces t.source.toList).flatMap
      (fill (blocks ls ps .frontend) (blocks ls ps .backend)) := by
  rw [Template.render, String.toList_ofList]
  simp only [unlines, List.flatMap_assoc]
  rfl

/-- **Rendering fills the slots of the template, all at once.** There is one
way to cut the text of a template at its slots; rendering puts the blocks of
the entities in their place, whatever is in these blocks, and leaves the
rest as it is. Filling one slot after the other gives the same text. -/
theorem render_substitutes {source : String} {t : Template}
    (h : Template.ofString source = .ok t) :
    (∃! c : Cut, c.Cuts source.toList) ∧
      ∀ c : Cut, c.Cuts source.toList → (∀ k, k ∈ c.slots) ∧ ∀ ls ps,
        (t.render ls ps).toList = c.fill (blocks ls ps) ∧
          ∀ k k', k ≠ k' → (t.render ls ps).toList = (blocks ls ps k).intercalate
            ((splitSlot k source.toList).map (replaceSlot k' (blocks ls ps k'))) := by
  obtain rfl : t.source = source := source_of_ofString h
  refine ⟨⟨_, Cut.cuts_ofPieces _, fun c hc => Cut.cuts_iff.mp hc⟩, fun c hc => ?_⟩
  obtain rfl := Cut.cuts_iff.mp hc
  refine ⟨fun k => Cut.mem_slots_ofPieces (t.hasSlots k), fun ls ps => ⟨?_, fun k k' hne => ?_⟩⟩
  · rw [toList_render, Cut.fill_ofPieces]
  · rw [toList_render, intercalate_map_replaceSlot hne]

/-- Half marks around the slots, which make a mark when nothing is put between
them, and a mark in a rule. -/
theorem render_substitutes_halves :
    let source := "\x7b\x7bfront\x7b\x7bbackends\x7d\x7dends\x7d\x7d\x7b\x7b\x7bfrontends\x7d\x7d"
    let l : Listener := { name := "a", rules := ["\x7b\x7bbackends\x7d\x7d"] }
    ∃ t, Template.ofString source = .ok t ∧ (t.render [l] []).toList =
      "\x7b\x7bfrontends\x7d\x7d\x7b  frontend a\n    \x7b\x7bbackends\x7d\x7d\n\n".toList := by
  intro source l
  have hmarks : ∀ k, mark k <:+: source.toList := by
    intro k
    cases k <;> decide +kernel
  have hcut : Cut.Cuts ⟨"\x7b\x7bfront".toList,
      [(.backend, "ends\x7d\x7d\x7b".toList), (.frontend, [])]⟩ source.toList :=
    Cut.cuts_iff.mpr (by decide +kernel)
  obtain ⟨t, ht⟩ := exists_ofString_iff.mpr hmarks
  have hrender := (((render_substitutes ht).2 _ hcut).2 [l] []).1
  exact ⟨t, ht, hrender.trans (by decide +kernel)⟩

end ProxySync.ConfigFile
