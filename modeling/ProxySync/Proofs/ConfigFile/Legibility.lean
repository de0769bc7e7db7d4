import ProxySync.Proofs.ConfigFile.Heading
import ProxySync.Proofs.ConfigFile.ServerLine

/-!
# Rendered files that cannot be read

A change lets an entity through when none of its texts breaks a line. This is
not enough for its section to be read: the name and the address of a member
are words of its server line, so blanks in them, or a name that is empty, make
it a line of other than five words. Each block of a rendered file is a
paragraph of its own (`stanzasOf_blocks`), so the file reads just when every
block does (`exists_read_render_iff`).
-/

namespace ProxySync

open ConfigFile Text

/-- What stands between the word `server` and the health check. -/
def Member.words (m : Member) : List (List Char) :=
  Text.fields (m.name.toList ++ ' ' :: (m.host.toList ++ ':' :: digits m.port.toNat))

/-- A pool that reads again: name and address of each member make two words.
Under a blank name there is no section, and nothing of it is read. -/
def Pool.Legible (p : Pool) : Prop :=
  isBlankText p.name = false → ∀ m ∈ p.members, m.words.length = 2

/-- A listener that reads again. Its own section never fails, but under a
blank name there is none, and its rules are read as if they stood alone. -/
def Listener.Legible (l : Listener) : Prop :=
  isBlankText l.name = true → ∀ s, stanza? l.ruleTexts = some s → ¬ s.Malformed

namespace ConfigFile

/-! ## Server lines -/

theorem fields_serverValue (m : Member) :
    fields (serverValue m) = m.words ++ ["check".toList, "inter".toList, "2000".toList] := by
  have hcheck : fields serverCheck.toList = ["check".toList, "inter".toList, "2000".toList] := by
    decide
  rw [serverValue, fields_append_blank (by decide), hcheck, Member.words]

theorem not_isBlank_of_mem_port (m : Member) :
    ∀ c ∈ ':' :: digits m.port.toNat, isBlank c = false := by
  refine List.forall_mem_cons.mpr ⟨by decide, fun c hc => ?_⟩
  obtain ⟨d, hd⟩ := digitValue?_of_mem_digits _ c hc
  exact not_isBlank_of_digitValue? hd

/-- Two words are enough: the last of them ends in the port. -/
theorem isServerLine_serverValue_iff (m : Member) :
    IsServerLine (trim (serverValue m)) ↔ m.words.length = 2 := by
  constructor
  · rintro ⟨name, host, port, address, check₁, check₂, check₃, numeral, hfields, -⟩
    rw [fields_trim, fields_serverValue] at hfields
    have hlength := congrArg List.length hfields
    rw [List.length_append] at hlength
    exact Nat.add_right_cancel hlength
  · intro hlength
    have hwords : m.words =
        fields ((m.name.toList ++ ' ' :: m.host.toList) ++ ':' :: digits m.port.toNat) := by
      simp [Member.words]
    obtain ⟨front, stem, hfields⟩ := exists_fields_append (m.name.toList ++ ' ' :: m.host.toList)
      (List.cons_ne_nil _ _) (not_isBlank_of_mem_port m)
    rw [hwords, hfields, List.length_append] at hlength
    obtain ⟨name, rfl⟩ := List.length_eq_one_iff.mp (Nat.succ.inj hlength)
    have hfive : fields (trim (serverValue m)) = [name, stem ++ ':' :: digits m.port.toNat,
        "check".toList, "inter".toList, "2000".toList] := by
      rw [fields_trim, fields_serverValue, hwords, hfields]
      rfl
    exact ⟨name, stem, m.port.toNat, _, _, _, _, digits m.port.toNat, hfive, rfl,
      not_mem_digits (by decide) _, isNumeral_digits _, Nat.le_of_lt_succ m.port.toNat_lt⟩

/-! ## Lines of a block -/

theorem prefix_trim {word : List Char} (hword : Trimmed word) (hne : word ≠ []) (s : List Char) :
    word <+: trim (word ++ s) := by
  by_cases hs : s.all isBlank = true
  · have htrim : trim (word ++ s) = word := by
      rw [trim_append_blanks hs, trim_of_trimmed hword]
    exact ⟨[], by rw [htrim, List.append_nil]⟩
  · obtain ⟨b, b', -, hb', hsplit⟩ := exists_blanks_trim s
    have hleft : trim s ≠ [] := fun hnil => hs (trim_eq_nil_iff.mp hnil)
    have hwhole : Trimmed (word ++ b ++ trim s) := hword.append hne (trimmed_trim s) hleft b
    have happend : word ++ s = word ++ b ++ trim s ++ b' := by
      rw [List.append_assoc, List.append_assoc, ← List.append_assoc b, ← hsplit]
    rw [happend, trim_append_blanks hb', trim_of_trimmed hwhole, List.append_assoc]
    exact List.prefix_append _ _

/-- A line that starts with the other word does not set the word. -/
def Apart (word other : String) : Prop :=
  ¬ word.toList ++ [' '] <+: other.toList ∧ ¬ other.toList <+: word.toList ++ [' ']

instance (word other : String) : Decidable (Apart word other) :=
  inferInstanceAs (Decidable (_ ∧ _))

theorem Apart.setting? {word other : String} (h : Apart word other) {line : List Char}
    (hline : other.toList <+: line) : setting? word line = none := by
  refine if_neg fun hset => ?_
  exact (List.prefix_or_prefix_of_prefix hset.1 hline).elim h.1 h.2

theorem prefix_of_mem_directiveLine {word value : String} (hword : Trimmed word.toList)
    (hne : word.toList ≠ []) : ∀ line ∈ (directiveLine word value).map trim, word.toList <+: line := by
  intro line hline
  unfold directiveLine at hline
  split at hline
  · cases hline
  · rw [List.map_singleton, List.mem_singleton, List.append_assoc,
      trim_blanks_append (by decide)] at hline
    rw [hline]
    exact prefix_trim hword hne _

/-- A word that starts no header. -/
def OpensNothing (word : String) : Prop := ∀ k : Kind, Apart k.noun word

instance (word : String) : Decidable (OpensNothing word) :=
  decidable_of_iff (Apart Kind.frontend.noun word ∧ Apart Kind.backend.noun word)
    ⟨fun h k => by cases k; exacts [h.1, h.2], fun h => ⟨h .frontend, h .backend⟩⟩

theorem OpensNothing.opening? {word : String} (hword : OpensNothing word) {line : List Char}
    (hline : word.toList <+: line) : opening? line = none := by
  have hkind (k : Kind) : ConfigFile.setting? k.noun line = none := (hword k).setting? hline
  simp [ConfigFile.opening?, hkind]

theorem opening?_of_mem_directiveLine {word value : String} (hword : Trimmed word.toList)
    (hne : word.toList ≠ []) (hopens : OpensNothing word) :
    ∀ line ∈ (directiveLine word value).map trim, opening? line = none := fun line hline =>
  hopens.opening? (prefix_of_mem_directiveLine hword hne line hline)

/-! ## Paragraphs -/

theorem stanza?_append_of_no_opening {ls : List (List Char)} (h : ∀ line ∈ ls, opening? line = none)
    (later : List (List Char)) : stanza? (ls ++ later) = stanza? later := by
  induction ls with
  | nil => rfl
  | cons line ls ih =>
      obtain ⟨hline, hls⟩ := List.forall_mem_cons.mp h
      rw [List.cons_append, stanza?_of_no_opening hline, ih hls]

theorem trim_headerLine_of_blank {name : String} (hname : isBlankText name = true) (k : Kind) :
    trim (headerLine k name) = k.noun.toList := by
  have hnoun : Trimmed k.noun.toList := by cases k <;> decide
  have hblanks : (' ' :: name.toList).all isBlank = true := by
    rw [List.all_cons, ← isBlankText, hname]
    rfl
  rw [headerLine, List.append_assoc, trim_blanks_append (by decide), trim_append_blanks hblanks,
    trim_of_trimmed hnoun]

/-- The section of a block, if its name is more than blanks. -/
theorem stanza?_headerLine (k : Kind) (name : String) (body : List (List Char)) :
    stanza? ((headerLine k name :: body).map trim) =
      if isBlankText name = true then stanza? (body.map trim)
      else some ⟨k, trim name.toList, body.map trim⟩ := by
  rw [List.map_cons]
  split
  · next hname =>
    have hopening : opening? k.noun.toList = none := by cases k <;> decide
    rw [trim_headerLine_of_blank hname, stanza?_of_no_opening hopening]
  · next hname =>
    have hheader := header?_headerLine (Bool.not_eq_true _ ▸ hname) k
    rw [header?_eq_opening?] at hheader
    rw [stanza?_of_opening hheader]

theorem trim_headerLine_ne_nil (k : Kind) (name : String) : trim (headerLine k name) ≠ [] := by
  cases k
  · exact trim_ne_nil (c := 'f') (by simp [headerLine, Kind.noun]) rfl
  · exact trim_ne_nil (c := 'b') (by simp [headerLine, Kind.noun]) rfl

/-- A block is a paragraph. -/
theorem Framed.stanzasOf_append {block body : List (List Char)} {k : Kind} {name : String}
    (h : Framed block k name body) (rest : List (List Char)) :
    stanzasOf (block.map trim ++ rest) =
      (stanza? ((headerLine k name :: body).map trim)).toList ++ stanzasOf rest := by
  have hfull : ∀ line ∈ headerLine k name :: body, trim line ≠ [] :=
    List.forall_mem_cons.mpr ⟨trim_headerLine_ne_nil k name, h.full⟩
  have hempty : [] ∉ (headerLine k name :: body).map trim := fun hmem => by
    obtain ⟨line, hline, hnil⟩ := List.mem_map.mp hmem
    exact hfull line hline hnil
  have hblock : block.map trim ++ rest = (headerLine k name :: body).map trim ++ [] :: rest := by
    simp [h.eq, trim_of_trimmed trimmed_nil]
  rw [hblock, stanzasOf_paragraph_append hempty]

theorem stanzasOf_of_no_openings {ls : List (List Char)} (h : ∀ line ∈ ls, opening? line = none)
    (rest : List (List Char)) : stanzasOf (ls ++ rest) = stanzasOf rest := by
  induction ls with
  | nil => rfl
  | cons line ls ih =>
      obtain ⟨hline, hls⟩ := List.forall_mem_cons.mp h
      rw [List.cons_append, stanzasOf_of_no_opening hline, ih hls]

theorem stanzasOf_blocks {α : Type} {block body : α → List (List Char)} {k : Kind}
    {name : α → String} (h : ∀ x, Framed (block x) k (name x) (body x)) (xs : List α)
    (rest : List (List Char)) :
    stanzasOf ((xs.flatMap block).map trim ++ rest) =
      xs.filterMap (fun x => stanza? ((headerLine k (name x) :: body x).map trim)) ++
        stanzasOf rest := by
  induction xs with
  | nil => rfl
  | cons x xs ih =>
      rw [List.flatMap_cons, List.map_append, List.append_assoc, (h x).stanzasOf_append, ih,
        List.filterMap_cons]
      cases stanza? ((headerLine k (name x) :: body x).map trim) <;> rfl

/-- The stanzas of a rendered file are those of its blocks. -/
theorem stanzas_render_default {ls : List Listener} {ps : List Pool}
    (hl : ∀ l ∈ ls, l.KeepsLines) (hp : ∀ p ∈ ps, p.Lacks '\n') :
    stanzas (Template.default.render ls ps) =
      ls.filterMap (fun l => stanza? ((headerLine .frontend l.name :: listenerLines l).map trim)) ++
        ps.filterMap fun p => stanza? ((headerLine .backend p.name :: poolLines p).map trim) := by
  have hpreamble : ∀ line ∈ preamble.map trim, opening? line = none := fun line hline => by
    rw [← header?_eq_opening?]
    exact header?_preamble line hline
  rw [stanzas, map_trim_lines_render_default hl hp, stanzasOf_of_no_openings hpreamble,
    stanzasOf_blocks framed_listenerBlock, List.singleton_append, stanzasOf_empty_line,
    stanzasOf_blocks framed_poolBlock, stanzasOf_empty_line, stanzasOf_empty_line, stanzasOf_nil,
    List.append_nil]

/-! ## Which entities are legible -/

theorem settings_directiveLine {word other value : String} (hother : Trimmed other.toList)
    (hne : other.toList ≠ []) (hapart : Apart word other) :
    settings word ((directiveLine other value).map trim) = [] :=
  List.filterMap_eq_nil_iff.mpr fun line hline =>
    hapart.setting? (prefix_of_mem_directiveLine hother hne line hline)

theorem setting?_serverLine (m : Member) :
    setting? "server" (trim (serverLine m)) = some (trim (serverValue m)) := by
  have hleft : trim (serverValue m) ≠ [] :=
    trim_ne_nil (c := ':') (by simp [serverValue]) (by decide)
  rw [trim_serverLine, ← valueAfter?_eq_setting?]
  exact valueAfter?_eq_some_iff.mpr ⟨hleft, _, rfl, rfl⟩

theorem settings_serverLines (ms : List Member) :
    settings "server" ((ms.map serverLine).map trim) = ms.map fun m => trim (serverValue m) := by
  induction ms with
  | nil => rfl
  | cons m ms ih =>
      rw [List.map_cons, List.map_cons, settings, List.filterMap_cons_some (setting?_serverLine m),
        ← settings, ih, List.map_cons]

theorem settings_poolLines (p : Pool) : settings "server" ((poolLines p).map trim) =
    p.members.map fun m => trim (serverValue m) := by
  rw [poolLines, List.map_append, List.map_append, settings_append, settings_append,
    settings_serverLines, settings_directiveLine (by decide) (by decide) (by decide),
    settings_directiveLine (by decide) (by decide) (by decide)]
  rfl

theorem opening?_poolLines (p : Pool) : ∀ line ∈ (poolLines p).map trim, opening? line = none := by
  intro line hline
  simp only [poolLines, List.map_append, List.mem_append, List.map_map] at hline
  rcases hline with (hline | hline) | hline
  · exact opening?_of_mem_directiveLine (by decide) (by decide) (by decide) line hline
  · exact opening?_of_mem_directiveLine (by decide) (by decide) (by decide) line hline
  · obtain ⟨m, -, rfl⟩ := List.mem_map.mp hline
    have hserver : OpensNothing "server" := by decide
    rw [Function.comp_apply, trim_serverLine]
    exact hserver.opening? (List.prefix_append _ _)

/-- The directives of a listener open nothing, so only its rules can. -/
theorem stanza?_listenerLines (l : Listener) :
    stanza? ((listenerLines l).map trim) = stanza? l.ruleTexts := by
  rw [listenerLines, List.map_append, map_trim_rules]
  refine stanza?_append_of_no_opening (fun line hline => ?_) _
  simp only [List.map_append, List.mem_append] at hline
  rcases hline with ((hline | hline) | hline) | hline
  · exact opening?_of_mem_directiveLine (by decide) (by decide) (by decide) line hline
  · exact opening?_of_mem_directiveLine (by decide) (by decide) (by decide) line hline
  · exact opening?_of_mem_directiveLine (by decide) (by decide) (by decide) line hline
  · exact opening?_of_mem_directiveLine (by decide) (by decide) (by decide) line hline

theorem legible_pool_iff (p : Pool) : p.Legible ↔
    ∀ s, stanza? ((headerLine .backend p.name :: poolLines p).map trim) = some s →
      ¬ s.Malformed := by
  rw [stanza?_headerLine, Pool.Legible]
  cases hname : isBlankText p.name with
  | true =>
      have hnone : stanza? ((poolLines p).map trim) = none := by
        rw [← List.append_nil ((poolLines p).map trim),
          stanza?_append_of_no_opening (opening?_poolLines p)]
        rfl
      rw [if_pos rfl, hnone]
      exact iff_of_true nofun nofun
  | false =>
      simp [Stanza.Malformed, settings_poolLines, isServerLine_serverValue_iff]

theorem legible_listener_iff (l : Listener) : l.Legible ↔
    ∀ s, stanza? ((headerLine .frontend l.name :: listenerLines l).map trim) = some s →
      ¬ s.Malformed := by
  rw [stanza?_headerLine, stanza?_listenerLines, Listener.Legible]
  cases isBlankText l.name with
  | true => simp
  | false => simp [Stanza.Malformed]

/-- **Which rendered files can be read.** -/
theorem exists_read_render_iff {ls : List Listener} {ps : List Pool}
    (hl : ∀ l ∈ ls, Record.brokenField? l = none) (hp : ∀ p ∈ ps, Record.brokenField? p = none) :
    (∃ r, read (Template.default.render ls ps) = .ok r) ↔
      (∀ l ∈ ls, l.Legible) ∧ ∀ p ∈ ps, p.Legible := by
  have hl' (l : Listener) (hmem : l ∈ ls) : l.KeepsLines :=
    (Listener.brokenField?_lineFields_iff.mp (hl l hmem)).1.keepsLines
  have hp' (p : Pool) (hmem : p ∈ ps) : p.Lacks '\n' :=
    (Pool.brokenField?_lineFields_iff.mp (hp p hmem)).1
  rw [exists_read_iff, stanzas_render_default hl' hp', List.forall_mem_append]
  simp only [List.forall_mem_filterMap, legible_pool_iff, legible_listener_iff]

/-- A host with a blank in it where the member has no name, and a nameless
listener with a section among its rules. -/
theorem exists_read_render_spaced :
    let l : Listener := { name := "\t", rules := ["backend forged", "mode tcp"] }
    let p : Pool := { name := "app", members := [{ host := "a b", port := 80 }] }
    (∀ x ∈ [l], Record.brokenField? x = none) ∧ (∀ x ∈ [p], Record.brokenField? x = none) ∧
      ∃ r, read (Template.default.render [l] [p]) = .ok r := by
  intro l p
  have hl : ∀ x ∈ [l], Record.brokenField? x = none := by decide +kernel
  have hp : ∀ x ∈ [p], Record.brokenField? x = none := by decide +kernel
  have hstanza : stanza? l.ruleTexts = some ⟨.backend, "forged".toList, ["mode tcp".toList]⟩ := by
    decide +kernel
  have hlistener : l.Legible := by
    have hservers : settings "server" ["mode tcp".toList] = [] := by decide
    rintro - s hs ⟨-, value, hvalue, -⟩
    cases hstanza.symm.trans hs
    rw [hservers] at hvalue
    cases hvalue
  have hpool : p.Legible := by
    unfold Pool.Legible
    decide
  exact ⟨hl, hp, (exists_read_render_iff hl hp).mpr
    ⟨List.forall_mem_singleton.mpr hlistener, List.forall_mem_singleton.mpr hpool⟩⟩

/-- A member without a name leaves its server line one word short. -/
theorem read_render_of_nameless_member :
    let p : Pool := { name := "app", members := [{ host := "10.0.0.1", port := 8080 }] }
    Record.brokenField? p = none ∧ normalName? p.name = some p.name ∧
      read (Template.default.render [] [p]) = .error ⟨"app", .fieldCount 4⟩ := by
  decide +kernel

end ConfigFile

end ProxySync
