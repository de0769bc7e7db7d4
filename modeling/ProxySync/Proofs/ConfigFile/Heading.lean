import ProxySync.Entity.Codec
import ProxySync.Entity.Name
import ProxySync.Proofs.ConfigFile.ReadBack

/-!
# Sections stay apart

In a rendered file every block starts with a header line, has no blank line
inside and ends with one. So if the header is recognized, nothing in the block
is taken for a section of its own, whatever texts it was made of
(`Heads`). A header is recognized when the name on it is not all blanks, and
for entities that a change lets through this is the only condition
(`names_of_read_render_iff`).
-/

namespace ProxySync

open ConfigFile Text

/-- A name as it reads on its header line. -/
def trimmedName (name : String) : String := String.ofList (trim name.toList)

theorem trimmedName_eq_empty_iff {name : String} :
    trimmedName name = "" ↔ isBlankText name = true := by
  rw [trimmedName, String.ofList_eq_empty_iff, trim_eq_nil_iff]
  rfl

theorem Listener.Lacks.keepsLines {l : Listener} (h : l.Lacks '\n') : l.KeepsLines :=
  ⟨h.name, h.bind, h.mode, h.defaultBackend, h.option⟩

namespace ConfigFile

/-! ## What heads a section -/

def Section.heading : Section → Kind × String
  | .listener l => (.frontend, l.name)
  | .pool p => (.backend, p.name)

/-- No line of a body touches the name. -/
theorem heading_of_readSection {k : Kind} {name : List Char} {body : List (List Char)} {s : Section}
    (h : readSection k name body = .ok s) : s.heading = (k, String.ofList name) := by
  rcases readSection_cases h with ⟨rfl, rfl⟩ | ⟨p, rfl, rfl, hread⟩
  · rfl
  · have hkeep : ∀ line ∈ body, ∀ p q : Pool, p.name = String.ofList name →
        readPoolLine p line = .ok q → q.name = String.ofList name := by
      intro line _ p q hp hq
      rcases readPoolLine_cases hq with
        ⟨text, -, rfl⟩ | ⟨text, -, rfl⟩ | ⟨text, m, -, -, rfl⟩ | rfl
      · exact hp
      · exact hp
      · exact hp
      · exact hp
    have hname : p.name = String.ofList name := foldlM_readPoolLine_induction hkeep rfl hread
    rw [Section.heading, hname]

/-- A section that was read has a name. -/
theorem heading_ne_empty {ls : List (List Char)} {sections : List Section}
    (h : readSections ls = .ok sections) : ∀ s ∈ sections, s.heading.2 ≠ "" := by
  intro s hs
  obtain ⟨line, -, k, name, body, hheader, -, hread⟩ := exists_header_of_mem_readSections h s hs
  rw [heading_of_readSection hread]
  exact ofList_ne_empty (valueAfter?_eq_some_iff.mp (header?_eq_some hheader)).1

/-! ## Blocks -/

/-- In front of any lines the block is one section with this heading. -/
def Heads (block : List (List Char)) (heading : Kind × String) : Prop :=
  ∀ rest sections, readSections (block.map trim ++ rest) = .ok sections →
    ∃ s later, sections = s :: later ∧ s.heading = heading ∧ readSections rest = .ok later

/-- A header is recognized by any name that is not all blanks. -/
theorem header?_headerLine {name : String} (hname : isBlankText name = false) (k : Kind) :
    header? (trim (headerLine k name)) = some (k, trim name.toList) := by
  have hne : trim name.toList ≠ [] := by
    rw [Ne, trim_eq_nil_iff, ← isBlankText, hname]
    exact Bool.false_ne_true
  have hnoun : Trimmed k.noun.toList ∧ k.noun.toList ≠ [] := by
    cases k <;> decide
  obtain ⟨b, b', hb, hb', hsplit⟩ := exists_blanks_trim name.toList
  have htrimmed : Trimmed (trim name.toList) := trimmed_trim _
  generalize trim name.toList = n at hne hsplit htrimmed ⊢
  have hline : headerLine k name = "  ".toList ++ directive k.noun.toList (b ++ n) ++ b' := by
    rw [headerLine, directive, hsplit]
    simp only [List.append_assoc, List.cons_append]
  have hdirective : Trimmed (directive k.noun.toList (b ++ n)) := by
    have happend : directive k.noun.toList (b ++ n) = k.noun.toList ++ (' ' :: b) ++ n := by
      simp [directive]
    rw [happend]
    exact hnoun.1.append hnoun.2 htrimmed hne _
  have hrest : trim (b ++ n) = n := trim_indented hb htrimmed
  rw [hline, trim_append_blanks hb', trim_indented (by decide) hdirective,
    header?_directive k (hrest.symm ▸ hne), hrest]

/-- The lines of a block: a header line, lines that are not blank and an empty
one. -/
structure Framed (block : List (List Char)) (k : Kind) (name : String)
    (body : List (List Char)) : Prop where
  eq : block = headerLine k name :: body ++ [[]]
  full : ∀ line ∈ body, trim line ≠ []

theorem Framed.heads {block body : List (List Char)} {k : Kind} {name : String}
    (hblock : Framed block k name body) (hname : isBlankText name = false) :
    Heads block (k, trimmedName name) := by
  intro rest sections h
  have hbody' : ∀ line ∈ body.map trim, line ≠ [] := List.forall_mem_map.mpr hblock.full
  have hempty : [[]].map trim = [[]] := by decide
  rw [hblock.eq, List.map_append, List.map_cons, hempty,
    readSections_block (header?_headerLine hname k) hbody'] at h
  cases hs : readSection k (trim name.toList) (body.map trim) with
  | error e =>
      rw [hs] at h
      cases h
  | ok s =>
  cases hlater : readSections rest with
  | error e =>
      rw [hs, hlater] at h
      cases h
  | ok later =>
      rw [hs, hlater] at h
      exact ⟨s, later, (Except.ok.inj h).symm, heading_of_readSection hs, rfl⟩

/-- The line of a directive is not blank: it has its word on it. -/
theorem trim_ne_nil_of_mem_directiveLine {word value : String} {c : Char} (hmem : c ∈ word.toList)
    (hc : isBlank c = false) : ∀ line ∈ directiveLine word value, trim line ≠ [] := by
  intro line hline
  unfold directiveLine at hline
  split at hline
  · cases hline
  · rw [List.mem_singleton.mp hline]
    exact trim_ne_nil (by simp [hmem]) hc

theorem trim_ne_nil_of_mem_ruleLines {rule : String} :
    ∀ line ∈ ruleLines rule, trim line ≠ [] := by
  intro line hline
  have hmem : trim line ∈ ((lines rule.toList).map trim).filter (!·.isEmpty) :=
    map_trim_ruleLines rule ▸ List.mem_map_of_mem hline
  simpa using (List.mem_filter.mp hmem).2

/-- What stands below the header of a listener's block. -/
def listenerLines (l : Listener) : List (List Char) :=
  directiveLine "bind" l.bind ++ directiveLine "mode" l.mode ++
    directiveLine "default_backend" l.defaultBackend ++ directiveLine "option" l.option ++
    l.rules.flatMap ruleLines

/-- What stands below the header of a pool's block. -/
def poolLines (p : Pool) : List (List Char) :=
  directiveLine "mode" p.mode ++ directiveLine "balance" p.balance ++ p.members.map serverLine

theorem framed_listenerBlock (l : Listener) :
    Framed (listenerBlock l) .frontend l.name (listenerLines l) where
  eq := by simp [listenerBlock, listenerLines]
  full := by
    intro line hline
    simp only [listenerLines, List.mem_append] at hline
    rcases hline with (((hline | hline) | hline) | hline) | hline
    · exact trim_ne_nil_of_mem_directiveLine (c := 'b') (by decide) rfl line hline
    · exact trim_ne_nil_of_mem_directiveLine (c := 'm') (by decide) rfl line hline
    · exact trim_ne_nil_of_mem_directiveLine (c := 'd') (by decide) rfl line hline
    · exact trim_ne_nil_of_mem_directiveLine (c := 'o') (by decide) rfl line hline
    · obtain ⟨rule, -, hline⟩ := List.mem_flatMap.mp hline
      exact trim_ne_nil_of_mem_ruleLines line hline

theorem framed_poolBlock (p : Pool) : Framed (poolBlock p) .backend p.name (poolLines p) where
  eq := by simp [poolBlock, poolLines]
  full := by
    intro line hline
    simp only [poolLines, List.mem_append] at hline
    rcases hline with (hline | hline) | hline
    · exact trim_ne_nil_of_mem_directiveLine (c := 'm') (by decide) rfl line hline
    · exact trim_ne_nil_of_mem_directiveLine (c := 'b') (by decide) rfl line hline
    · obtain ⟨m, -, rfl⟩ := List.mem_map.mp hline
      rw [serverLine_eq_directive]
      exact trim_ne_nil (c := 's') (by simp [directive]) rfl

/-- Blocks in a row are a section each. -/
theorem heads_flatMap {α : Type} {block : α → List (List Char)} {heading : α → Kind × String}
    {xs : List α} (h : ∀ x ∈ xs, Heads (block x) (heading x)) {rest : List (List Char)}
    {sections : List Section}
    (hread : readSections ((xs.flatMap block).map trim ++ rest) = .ok sections) :
    ∃ front later, sections = front ++ later ∧ front.map Section.heading = xs.map heading ∧
      readSections rest = .ok later := by
  induction xs generalizing sections with
  | nil => exact ⟨[], sections, rfl, rfl, hread⟩
  | cons x xs ih =>
      obtain ⟨hx, hxs⟩ := List.forall_mem_cons.mp h
      rw [List.flatMap_cons, List.map_append, List.append_assoc] at hread
      obtain ⟨s, later, rfl, hs, hlater⟩ := hx _ _ hread
      obtain ⟨front, later', rfl, hfront, hrest⟩ := ih hxs hlater
      exact ⟨s :: front, later', rfl, by rw [List.map_cons, List.map_cons, hs, hfront], hrest⟩

/-! ## Rendered files -/

/-- **The sections of a rendered file are those that were rendered.** -/
theorem headings_of_render_default {ls : List Listener} {ps : List Pool}
    (hl : ∀ l ∈ ls, l.KeepsLines ∧ isBlankText l.name = false)
    (hp : ∀ p ∈ ps, p.Lacks '\n' ∧ isBlankText p.name = false) {sections : List Section}
    (h : readSections ((lines (Template.default.render ls ps).toList).map trim) = .ok sections) :
    sections.map Section.heading = ls.map (fun l => (.frontend, trimmedName l.name)) ++
      ps.map (fun p => (.backend, trimmedName p.name)) := by
  rw [map_trim_lines_render_default (fun l hmem => (hl l hmem).1) fun p hmem => (hp p hmem).1,
    readSections_of_no_headers header?_preamble] at h
  obtain ⟨front, later, rfl, hfront, hlater⟩ :=
    heads_flatMap (fun l hmem => (framed_listenerBlock l).heads (hl l hmem).2) h
  rw [readSections_of_no_headers (by decide)] at hlater
  obtain ⟨front', last, rfl, hfront', hlast⟩ :=
    heads_flatMap (fun p hmem => (framed_poolBlock p).heads (hp p hmem).2) hlater
  have hend : last = [] := by
    rw [readSections_of_no_header (by decide), readSections_of_no_header (by decide),
      readSections] at hlast
    exact (Except.ok.inj hlast).symm
  rw [hend, List.append_nil, List.map_append, hfront, hfront']

/-- The names of one kind among headings. -/
def namesOf (k : Kind) (headings : List (Kind × String)) : List String :=
  (headings.filter (·.1 = k)).map (·.2)

theorem map_name_listenersOf (sections : List Section) :
    (listenersOf sections).map (·.name) = namesOf .frontend (sections.map Section.heading) := by
  induction sections with
  | nil => rfl
  | cons s sections ih =>
      cases s with
      | listener l => exact congrArg (l.name :: ·) ih
      | pool p => exact ih

theorem map_name_poolsOf (sections : List Section) :
    (poolsOf sections).map (·.name) = namesOf .backend (sections.map Section.heading) := by
  induction sections with
  | nil => rfl
  | cons s sections ih =>
      cases s with
      | listener l => exact ih
      | pool p => exact congrArg (p.name :: ·) ih

theorem namesOf_rendered (k : Kind) (names names' : List String) :
    namesOf k (names.map (.frontend, ·) ++ names'.map (.backend, ·)) =
      match k with
      | .frontend => names
      | .backend => names' := by
  cases k <;> simp [namesOf, List.filter_append, List.filter_map, Function.comp_def]

/-- The file has the names that were rendered, kind by kind. -/
theorem names_of_render_default {ls : List Listener} {ps : List Pool}
    (hl : ∀ l ∈ ls, l.KeepsLines ∧ isBlankText l.name = false)
    (hp : ∀ p ∈ ps, p.Lacks '\n' ∧ isBlankText p.name = false) {sections : List Section}
    (h : readSections ((lines (Template.default.render ls ps).toList).map trim) = .ok sections) :
    (listenersOf sections).map (·.name) = ls.map (fun l => trimmedName l.name) ∧
      (poolsOf sections).map (·.name) = ps.map (fun p => trimmedName p.name) := by
  have hrendered : sections.map Section.heading =
      (ls.map fun l => trimmedName l.name).map (.frontend, ·) ++
        (ps.map fun p => trimmedName p.name).map (.backend, ·) := by
    rw [headings_of_render_default hl hp h, List.map_map, List.map_map]
    rfl
  rw [map_name_listenersOf, map_name_poolsOf, hrendered, namesOf_rendered, namesOf_rendered]
  exact ⟨rfl, rfl⟩

/-- A name that came back was not blank. -/
theorem not_blank_of_map_eq {α : Type} {xs xs' : List α} {name : α → String}
    (h : xs'.map name = xs.map fun x => trimmedName (name x)) (hne : ∀ x ∈ xs', name x ≠ "") :
    ∀ x ∈ xs, isBlankText (name x) = false := by
  intro x hx
  have hin : trimmedName (name x) ∈ xs'.map name := h ▸ List.mem_map_of_mem hx
  obtain ⟨x', hx', hname⟩ := List.mem_map.mp hin
  refine Bool.eq_false_iff.mpr fun hblank => hne x' hx' ?_
  rw [hname]
  exact trimmedName_eq_empty_iff.mpr hblank

/-- **No entity forges a section, or loses its own, unless a name is all
blanks.** Whatever else there is in the texts of entities that a change lets
through: if the rendered file reads, it has the sections that were rendered,
in order and under their trimmed names, just when every name has a character
that is not blank. -/
theorem names_of_read_render_iff {ls : List Listener} {ps : List Pool}
    (hl : ∀ l ∈ ls, Record.brokenField? l = none) (hp : ∀ p ∈ ps, Record.brokenField? p = none)
    {ls' : List Listener} {ps' : List Pool}
    (h : read (Template.default.render ls ps) = .ok (ls', ps')) :
    (ls'.map (·.name) = ls.map (fun l => trimmedName l.name) ∧
        ps'.map (·.name) = ps.map (fun p => trimmedName p.name)) ↔
      (∀ l ∈ ls, isBlankText l.name = false) ∧ ∀ p ∈ ps, isBlankText p.name = false := by
  have hl' (l : Listener) (hmem : l ∈ ls) : l.KeepsLines :=
    (Listener.brokenField?_lineFields_iff.mp (hl l hmem)).1.keepsLines
  have hp' (p : Pool) (hmem : p ∈ ps) : p.Lacks '\n' :=
    (Pool.brokenField?_lineFields_iff.mp (hp p hmem)).1
  obtain ⟨sections, hread, rfl, rfl⟩ := read_eq_ok_iff.mp h
  constructor
  · rintro ⟨hls, hps⟩
    have hnamed := heading_ne_empty hread
    exact ⟨not_blank_of_map_eq hls fun l hmem => hnamed _ (mem_listenersOf.mp hmem),
      not_blank_of_map_eq hps fun p hmem => hnamed _ (mem_poolsOf.mp hmem)⟩
  · rintro ⟨hls, hps⟩
    exact names_of_render_default (fun l hmem => ⟨hl' l hmem, hls l hmem⟩)
      (fun p hmem => ⟨hp' p hmem, hps p hmem⟩) hread

/-- A rule that looks like a header, a directive whose value does, and blanks
around a name. -/
theorem names_of_read_render_lookalikes :
    let l : Listener := { name := "\tweb", bind := "*:80", rules := ["  backend forged", "mode tcp"] }
    let p : Pool := { name := "frontend", mode := "frontend x" }
    (∀ x ∈ [l], Record.brokenField? x = none) ∧ (∀ x ∈ [p], Record.brokenField? x = none) ∧
      ∃ ls ps, read (Template.default.render [l] [p]) = .ok (ls, ps) ∧
        ls.map (·.name) = [trimmedName l.name] ∧ ps.map (·.name) = [trimmedName p.name] := by
  intro l p
  have hl : ∀ x ∈ [l], Record.brokenField? x = none := by decide +kernel
  have hp : ∀ x ∈ [p], Record.brokenField? x = none := by decide +kernel
  have hread : read (Template.default.render [l] [p]) =
      .ok ([{ name := "web", bind := "*:80", mode := "tcp" }],
        [{ name := "frontend", mode := "frontend x" }]) := by decide +kernel
  have hnames := (names_of_read_render_iff hl hp hread).mpr (by decide +kernel)
  exact ⟨hl, hp, _, _, hread, hnames⟩

/-- Under a blank name the rules are read as if they stood in no section. -/
theorem forged_of_blank_name :
    let l : Listener := { name := "\t", rules := ["backend forged", "mode tcp"] }
    Record.brokenField? l = none ∧ normalName? l.name = some l.name ∧
      read (Template.default.render [l] []) = .ok ([], [{ name := "forged", mode := "tcp" }]) := by
  decide +kernel

end ConfigFile

end ProxySync
