import ProxySync.Proofs.ConfigFile.Reading
import ProxySync.Proofs.Traversal

/-!
# Files as paragraphs

A file is cut into paragraphs at its blank lines, and each paragraph holds at
most one section: the first header line of a paragraph opens it, the lines
before are passed over, and all lines after are its body, whatever they look
like (`stanza?`). Reading a file is reading its stanzas one after the other
(`readSections_eq`). So of two files with a blank line between them each is
read as if it stood alone (`stanzas_append`).
-/

namespace ProxySync.ConfigFile

open ProxySync.Text

/-! ## Settings -/

/-- The values that lines set a word to, in their order. -/
def settings (word : String) (lines : List (List Char)) : List (List Char) :=
  lines.filterMap (setting? word)

/-- The last value that lines set a word to; none counts as empty. -/
def lastSetting (word : String) (lines : List (List Char)) : String :=
  ((settings word lines).getLast?.map String.ofList).getD ""

theorem settings_append (word : String) (lines lines' : List (List Char)) :
    settings word (lines ++ lines') = settings word lines ++ settings word lines' :=
  List.filterMap_append

/-- The last line that sets a word wins. -/
theorem overwritten_eq_getLast? (word value : String) (lines : List (List Char)) :
    overwritten word value lines =
      ((settings word lines).getLast?.map String.ofList).getD value := by
  induction lines generalizing value with
  | nil => rfl
  | cons line lines ih =>
      rw [overwritten, List.foldl_cons, ← overwritten, ih]
      cases hline : setting? word line with
      | none =>
          rw [settings, settings, List.filterMap_cons_none hline]
          rfl
      | some text =>
          rw [settings, settings, List.filterMap_cons_some hline, List.getLast?_cons]
          cases (lines.filterMap (setting? word)).getLast? <;> rfl

/-! ## Stanzas -/

/-- A section as it stands in a file: its kind, the name on its header and
the lines below. -/
structure Stanza where
  kind : Kind
  name : List Char
  body : List (List Char)
deriving DecidableEq

/-- The section that a line opens: it sets the noun of a kind to a name. -/
def opening? (line : List Char) : Option (Kind × List Char) :=
  [Kind.frontend, .backend].findSome? fun k => (setting? k.noun line).map (k, ·)

/-- The section of a paragraph. Its first header line opens it; what stands
before is passed over, and all that stands after is its body. -/
def stanza? : List (List Char) → Option Stanza
  | [] => none
  | line :: later =>
    match opening? line with
    | some (k, name) => some ⟨k, name, later⟩
    | none => stanza? later

/-- The sections of lines: paragraphs end at the empty ones. -/
def stanzasOf (lines : List (List Char)) : List Stanza := (lines.splitOn []).filterMap stanza?

/-- The sections of a text, in file order. -/
def stanzas (text : String) : List Stanza := stanzasOf ((lines text.toList).map trim)

/-! ## What a stanza holds -/

namespace Stanza

/-- Each directive of a listener has the value it was set to last. -/
def listener (s : Stanza) : Listener where
  name := String.ofList s.name
  bind := lastSetting "bind" s.body
  mode := lastSetting "mode" s.body
  defaultBackend := lastSetting "default_backend" s.body
  option := lastSetting "option" s.body

/-- Each directive of a pool has the value it was set to last. -/
def pool (s : Stanza) (members : List Member) : Pool where
  name := String.ofList s.name
  mode := lastSetting "mode" s.body
  balance := lastSetting "balance" s.body
  members := members

/-- The members of a pool are its server lines; the first one that is none is
the fault of the section. -/
def read (s : Stanza) : Except FormatFault Section :=
  match s.kind with
  | .frontend => .ok (.listener s.listener)
  | .backend => (((settings "server" s.body).mapM readServer).map (.pool <| s.pool ·)).mapError
      (⟨String.ofList s.name, ·⟩)

end Stanza

/-- A text read paragraph by paragraph. -/
def readStanzas (text : String) : Except FormatFault (List Listener × List Pool) := do
  let sections ← (stanzas text).mapM Stanza.read
  pure (listenersOf sections, poolsOf sections)

/-! ## Bodies -/

theorem settings_singleton_of_none {word : String} {line : List Char}
    (h : valueAfter? word line = none) : settings word [line] = [] := by
  rw [valueAfter?_eq_setting?] at h
  exact List.filterMap_cons_none h

theorem settings_singleton_of_some {word : String} {line text : List Char}
    (h : valueAfter? word line = some text) : settings word [line] = [text] := by
  rw [valueAfter?_eq_setting?] at h
  exact List.filterMap_cons_some h

/-- A line of a pool's section overwrites a directive or adds a member. -/
theorem readPoolLine_eq (p : Pool) (line : List Char) :
    readPoolLine p line = ((settings "server" [line]).mapM readServer).map fun ms =>
      { p with
        mode := overwritten "mode" p.mode [line]
        balance := overwritten "balance" p.balance [line]
        members := p.members ++ ms } := by
  unfold readPoolLine
  split
  · next v hbalance =>
    rw [settings_singleton_of_none
        (valueAfter?_of_other hbalance (by decide) (by decide) (by decide)),
      overwritten_of_some hbalance,
      overwritten_of_other hbalance (by decide) (by decide) (by decide)]
    simp [Except.map, pure, Except.pure]
  next hbalance =>
  rw [overwritten_of_ne_some hbalance]
  split
  · next v hmode =>
    rw [settings_singleton_of_none (valueAfter?_of_other hmode (by decide) (by decide) (by decide)),
      overwritten_of_some hmode]
    simp [Except.map, pure, Except.pure]
  next hmode =>
  rw [overwritten_of_ne_some hmode]
  split
  · next v hserver =>
    rw [settings_singleton_of_some hserver, List.mapM_cons]
    cases readServer v <;> rfl
  next hserver =>
  rw [settings_singleton_of_none (Option.eq_none_iff_forall_ne_some.mpr hserver)]
  simp [Except.map, pure, Except.pure]

/-- **A pool after the lines of a body.** -/
theorem foldlM_readPoolLine (p : Pool) (body : List (List Char)) :
    body.foldlM readPoolLine p = ((settings "server" body).mapM readServer).map fun ms =>
      { p with
        mode := overwritten "mode" p.mode body
        balance := overwritten "balance" p.balance body
        members := p.members ++ ms } := by
  induction body generalizing p with
  | nil => simp [settings, overwritten, Except.map, pure, Except.pure]
  | cons line body ih =>
      have hservers : settings "server" (line :: body) =
          settings "server" [line] ++ settings "server" body := settings_append "server" [line] body
      rw [List.foldlM_cons, readPoolLine_eq, hservers, List.mapM_append]
      cases (settings "server" [line]).mapM readServer with
      | error e => rfl
      | ok ms =>
          refine (ih _).trans ?_
          cases (settings "server" body).mapM readServer with
          | error e => rfl
          | ok ms' =>
              simp only [List.append_assoc]
              rfl

/-- A section is read as its stanza. -/
theorem readSection_eq (s : Stanza) : readSection s.kind s.name s.body = s.read := by
  obtain ⟨k, name, body⟩ := s
  cases k with
  | frontend =>
      rw [readSection, foldl_readListenerLine, overwriteListener]
      simp only [overwritten_eq_getLast?]
      rfl
  | backend =>
      rw [readSection, foldlM_readPoolLine, Stanza.read]
      simp only [overwritten_eq_getLast?]
      cases (settings "server" body).mapM readServer <;> rfl

/-! ## Paragraphs -/

theorem header?_eq_opening? (line : List Char) : header? line = opening? line := by
  unfold header? opening?
  rw [valueAfter?_eq_setting?, valueAfter?_eq_setting?, List.findSome?_cons, List.findSome?_cons]
  cases setting? Kind.frontend.noun line with
  | some name => rfl
  | none => cases setting? Kind.backend.noun line <;> rfl

theorem opening?_nil : opening? [] = none := by decide

theorem stanza?_of_no_opening {line : List Char} (h : opening? line = none)
    (later : List (List Char)) : stanza? (line :: later) = stanza? later := by
  rw [stanza?, h]

theorem stanza?_of_opening {line : List Char} {k : Kind} {name : List Char}
    (h : opening? line = some (k, name)) (later : List (List Char)) :
    stanza? (line :: later) = some ⟨k, name, later⟩ := by
  rw [stanza?, h]

theorem stanzasOf_nil : stanzasOf [] = [] := rfl

theorem stanzasOf_empty_line (rest : List (List Char)) : stanzasOf ([] :: rest) = stanzasOf rest := by
  rw [stanzasOf, ← List.nil_append ([] :: rest), List.splitOn_append_cons_self]
  rfl

theorem stanzasOf_paragraph {ls : List (List Char)} (h : [] ∉ ls) :
    stanzasOf ls = (stanza? ls).toList := by
  rw [stanzasOf, List.splitOn_eq_singleton h, List.filterMap_cons]
  cases stanza? ls <;> rfl

theorem stanzasOf_paragraph_append {ls : List (List Char)} (h : [] ∉ ls)
    (rest : List (List Char)) :
    stanzasOf (ls ++ [] :: rest) = (stanza? ls).toList ++ stanzasOf rest := by
  rw [stanzasOf, List.splitOn_append_cons_self_of_not_mem h, List.filterMap_cons]
  cases stanza? ls <;> rfl

/-- The first paragraph comes first. -/
theorem stanzasOf_eq (ls : List (List Char)) : stanzasOf ls =
    (stanza? (ls.takeWhile (!·.isEmpty))).toList ++ stanzasOf (ls.dropWhile (!·.isEmpty)) := by
  have hsplit := ls.takeWhile_append_dropWhile (p := (!·.isEmpty))
  have htake : [] ∉ ls.takeWhile (!·.isEmpty) := fun h => by simpa using List.mem_takeWhile_imp h
  cases hdrop : ls.dropWhile (!·.isEmpty) with
  | nil =>
      rw [hdrop, List.append_nil] at hsplit
      rw [hsplit] at htake ⊢
      rw [stanzasOf_nil, List.append_nil, stanzasOf_paragraph htake]
  | cons line rest =>
      have hline : line = [] := by
        simpa [hdrop] using List.head_dropWhile_not (!·.isEmpty) (l := ls) (by simp [hdrop])
      rw [hline] at hdrop ⊢
      rw [stanzasOf_empty_line, ← stanzasOf_paragraph_append htake, ← hdrop, hsplit]

theorem stanzasOf_cons {line : List Char} (hne : line ≠ []) (rest : List (List Char)) :
    stanzasOf (line :: rest) = (stanza? (line :: rest.takeWhile (!·.isEmpty))).toList ++
      stanzasOf (rest.dropWhile (!·.isEmpty)) := by
  obtain ⟨c, line, rfl⟩ := List.exists_cons_of_ne_nil hne
  exact stanzasOf_eq _

/-- A line that opens nothing may be left out. -/
theorem stanzasOf_of_no_opening {line : List Char} (h : opening? line = none)
    (rest : List (List Char)) : stanzasOf (line :: rest) = stanzasOf rest := by
  by_cases hempty : line = []
  · rw [hempty, stanzasOf_empty_line]
  · rw [stanzasOf_cons hempty, stanza?_of_no_opening h, ← stanzasOf_eq]

/-- A line that opens a section takes the rest of its paragraph. -/
theorem stanzasOf_of_opening {line : List Char} {k : Kind} {name : List Char}
    (h : opening? line = some (k, name)) (rest : List (List Char)) :
    stanzasOf (line :: rest) =
      ⟨k, name, rest.takeWhile (!·.isEmpty)⟩ :: stanzasOf (rest.dropWhile (!·.isEmpty)) := by
  have hne : line ≠ [] := by
    rintro rfl
    rw [opening?_nil] at h
    cases h
  rw [stanzasOf_cons hne, stanza?_of_opening h]
  rfl

/-- **Reading lines is reading their stanzas one after the other.** -/
theorem readSections_eq (ls : List (List Char)) :
    readSections ls = (stanzasOf ls).mapM Stanza.read := by
  induction ls using readSections.induct with
  | case1 =>
      rw [readSections, stanzasOf_nil]
      rfl
  | case2 line rest hheader ih =>
      rw [readSections, hheader]
      rw [header?_eq_opening?] at hheader
      rw [stanzasOf_of_no_opening hheader]
      exact ih
  | case3 line rest k name hheader ih =>
      rw [readSections, hheader]
      rw [header?_eq_opening?] at hheader
      simp only [stanzasOf_of_opening hheader, List.mapM_cons, ← ih,
        ← readSection_eq ⟨k, name, rest.takeWhile (!·.isEmpty)⟩]

/-- Between two texts with a blank line between them no section is shared. -/
theorem stanzas_append (a b : String) :
    stanzas (a ++ "\n\n" ++ b) = stanzas a ++ stanzas b := by
  have hlines : lines (a ++ "\n\n" ++ b).toList = lines a.toList ++ [] :: lines b.toList := by
    have hfeeds : (a ++ "\n\n" ++ b).toList = a.toList ++ '\n' :: ([] ++ '\n' :: b.toList) := by
      simp
    rw [hfeeds, lines, List.splitOn_append_cons_self, List.splitOn_append_cons_self]
    rfl
  rw [stanzas, hlines, List.map_append, List.map_cons, trim_of_trimmed trimmed_nil, stanzasOf,
    List.splitOn_append_cons_self, List.filterMap_append]
  rfl

theorem readSections_lines (text : String) :
    readSections ((lines text.toList).map trim) = (stanzas text).mapM Stanza.read :=
  readSections_eq _

theorem listenersOf_append (ss ss' : List Section) :
    listenersOf (ss ++ ss') = listenersOf ss ++ listenersOf ss' := List.filterMap_append

theorem poolsOf_append (ss ss' : List Section) :
    poolsOf (ss ++ ss') = poolsOf ss ++ poolsOf ss' := List.filterMap_append

theorem read_eq (text : String) : read text = readStanzas text := by
  rw [read, readStanzas, readSections_lines]

theorem readStanzas_append (a b : String) :
    readStanzas (a ++ "\n\n" ++ b) = (do
      let first ← readStanzas a
      let second ← readStanzas b
      pure (first.1 ++ second.1, first.2 ++ second.2)) := by
  simp only [readStanzas, stanzas_append, List.mapM_append]
  cases (stanzas a).mapM Stanza.read with
  | error e => rfl
  | ok ss =>
      cases (stanzas b).mapM Stanza.read with
      | error e => rfl
      | ok ss' =>
          change Except.ok (listenersOf (ss ++ ss'), poolsOf (ss ++ ss')) = _
          rw [listenersOf_append, poolsOf_append]
          rfl

/-- **A file is read paragraph by paragraph.** The result has the sections of
all paragraphs in file order, or the fault of the first section that has one;
of two files with a blank line between them each is read for itself. -/
theorem read_paragraphs :
    (∀ text, read text = readStanzas text) ∧
      ∀ a b, read (a ++ "\n\n" ++ b) = (do
        let first ← read a
        let second ← read b
        pure (first.1 ++ second.1, first.2 ++ second.2)) := by
  refine ⟨read_eq, fun a b => ?_⟩
  rw [read_eq, read_eq, read_eq, readStanzas_append]

/-- A header without a name, and one below another. -/
example : stanzas "frontend\n mode tcp\n\nglobal\n backend app\r\n frontend x\n \t\nbalance y" =
    [⟨.backend, "app".toList, ["frontend x".toList]⟩] := by decide +kernel

end ProxySync.ConfigFile
