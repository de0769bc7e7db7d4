import ProxySync.ConfigFile.Template
import ProxySync.Proofs.ConfigFile.Block
import ProxySync.Proofs.ConfigFile.Reading
import ProxySync.Proofs.Entity.LineFields

/-!
# Rendered files read back

A file that was rendered with the default template is a list of lines: a
preamble without headers, the listeners' blocks, an empty line, the pools'
blocks and an empty line (`toList_render_default`). Reading it finds one
section for each block (`readSections_render_default`) and gives back what
the sections show.
-/

namespace ProxySync

open ConfigFile Text

namespace ConfigFile

/-! ## The default template -/

/-- The lines of the default template before its first slot. -/
def preamble : List (List Char) :=
  ["global".toList, "  maxconn 256".toList, [], "  defaults".toList,
    "    timeout connect 5000ms".toList, []]

/-- All lines of a file rendered with the default template. -/
def defaultLines (ls : List Listener) (ps : List Pool) : List (List Char) :=
  preamble ++ ls.flatMap listenerBlock ++ [[]] ++ ps.flatMap poolBlock ++ [[]]

theorem pieces_defaultSource : pieces defaultSource.toList =
    (unlines preamble).map .char ++
      [.slot .frontend, .char '\n', .slot .backend, .char '\n'] := by
  decide +kernel

theorem flatMap_fill_chars (frontends backends s : List Char) :
    (s.map Piece.char).flatMap (fill frontends backends) = s := by
  rw [List.flatMap_map]
  exact List.flatMap_singleton' s

theorem toList_render_default (ls : List Listener) (ps : List Pool) :
    (Template.default.render ls ps).toList = unlines (defaultLines ls ps) := by
  rw [Template.render, String.toList_ofList, Template.default, pieces_defaultSource,
    List.flatMap_append, flatMap_fill_chars]
  simp [defaultLines, unlines, fill]

end ConfigFile

/-! ## Line feeds -/

/-- A listener whose name and values keep to single lines; its rules are cut
into lines anyway. -/
structure Listener.KeepsLines (l : Listener) : Prop where
  name : '\n' ∉ l.name.toList
  bind : '\n' ∉ l.bind.toList
  mode : '\n' ∉ l.mode.toList
  defaultBackend : '\n' ∉ l.defaultBackend.toList
  option : '\n' ∉ l.option.toList

theorem Listener.FitsSection.keepsLines {l : Listener} (h : l.FitsSection) : l.KeepsLines :=
  ⟨h.name.noFeed, h.bind.noFeed, h.mode.noFeed, h.defaultBackend.noFeed, h.option.noFeed⟩

theorem Pool.FitsSection.lacks_feed {p : Pool} (h : p.FitsSection) : p.Lacks '\n' where
  name := h.name.noFeed
  mode := h.mode.noFeed
  balance := h.balance.noFeed
  members m hm := (h.members m hm).lacks_blank rfl

namespace ConfigFile

/-- A list of lines none of which is broken. -/
def NoFeed (ls : List (List Char)) : Prop := ∀ line ∈ ls, '\n' ∉ line

theorem noFeed_append {ls ls' : List (List Char)} :
    NoFeed (ls ++ ls') ↔ NoFeed ls ∧ NoFeed ls' := List.forall_mem_append

theorem noFeed_headerLine {name : String} (h : '\n' ∉ name.toList) (k : Kind) :
    NoFeed [headerLine k name] := by
  have hnoun : '\n' ∉ k.noun.toList := by cases k <;> decide
  simp [NoFeed, headerLine, hnoun, h]

theorem noFeed_directiveLine {word value : String} (hword : '\n' ∉ word.toList)
    (h : '\n' ∉ value.toList) : NoFeed (directiveLine word value) := by
  unfold directiveLine
  split
  · exact nofun
  · intro line hline
    rw [List.mem_singleton.mp hline]
    simp [hword, h]

theorem noFeed_ruleLines (rule : String) : NoFeed (ruleLines rule) := by
  intro line hline
  obtain ⟨text, htext, rfl⟩ := List.mem_map.mp hline
  obtain ⟨raw, hraw, rfl⟩ := List.mem_map.mp (List.mem_filter.mp htext).1
  have htrim : '\n' ∉ trim raw := fun h => not_mem_of_mem_lines hraw (mem_of_mem_trim h)
  simp [htrim]

theorem noFeed_serverLine {m : Member} (hname : '\n' ∉ m.name.toList)
    (hhost : '\n' ∉ m.host.toList) : '\n' ∉ serverLine m := by
  have hport : '\n' ∉ digits m.port.toNat := not_mem_digits (by decide) _
  have hcheck : '\n' ∉ serverCheck.toList := by decide
  rw [serverLine_eq_directive]
  simp [directive, serverValue, hname, hhost, hport, hcheck]

theorem noFeed_listenerBlock {l : Listener} (h : l.KeepsLines) : NoFeed (listenerBlock l) := by
  have hrules : NoFeed (l.rules.flatMap ruleLines) := by
    intro line hline
    obtain ⟨rule, -, hline⟩ := List.mem_flatMap.mp hline
    exact noFeed_ruleLines rule line hline
  have hempty : NoFeed [[]] := by simp [NoFeed]
  simp only [listenerBlock, noFeed_append]
  exact ⟨⟨⟨⟨⟨⟨noFeed_headerLine h.name _, noFeed_directiveLine (by decide) h.bind⟩,
    noFeed_directiveLine (by decide) h.mode⟩,
    noFeed_directiveLine (by decide) h.defaultBackend⟩,
    noFeed_directiveLine (by decide) h.option⟩, hrules⟩, hempty⟩

theorem noFeed_poolBlock {p : Pool} (h : p.Lacks '\n') : NoFeed (poolBlock p) := by
  have hservers : NoFeed (p.members.map serverLine) := by
    intro line hline
    obtain ⟨m, hm, rfl⟩ := List.mem_map.mp hline
    exact noFeed_serverLine (h.members m hm).1 (h.members m hm).2
  have hempty : NoFeed [[]] := by simp [NoFeed]
  simp only [poolBlock, noFeed_append]
  exact ⟨⟨⟨⟨noFeed_headerLine h.name _, noFeed_directiveLine (by decide) h.mode⟩,
    noFeed_directiveLine (by decide) h.balance⟩, hservers⟩, hempty⟩

theorem noFeed_defaultLines {ls : List Listener} {ps : List Pool}
    (hl : ∀ l ∈ ls, l.KeepsLines) (hp : ∀ p ∈ ps, p.Lacks '\n') :
    NoFeed (defaultLines ls ps) := by
  have hpreamble : NoFeed preamble := by
    unfold NoFeed
    decide
  have hempty : NoFeed [[]] := by simp [NoFeed]
  have hlisteners : NoFeed (ls.flatMap listenerBlock) := by
    intro line hline
    obtain ⟨l, hmem, hline⟩ := List.mem_flatMap.mp hline
    exact noFeed_listenerBlock (hl l hmem) line hline
  have hpools : NoFeed (ps.flatMap poolBlock) := by
    intro line hline
    obtain ⟨p, hmem, hline⟩ := List.mem_flatMap.mp hline
    exact noFeed_poolBlock (hp p hmem) line hline
  simp only [defaultLines, noFeed_append]
  exact ⟨⟨⟨⟨hpreamble, hlisteners⟩, hempty⟩, hpools⟩, hempty⟩

/-- The lines of a rendered file, trimmed; the last feed leaves an empty one. -/
theorem map_trim_lines_render_default {ls : List Listener} {ps : List Pool}
    (hl : ∀ l ∈ ls, l.KeepsLines) (hp : ∀ p ∈ ps, p.Lacks '\n') :
    (lines (Template.default.render ls ps).toList).map trim =
      preamble.map trim ++ ((ls.flatMap listenerBlock).map trim ++ ([[]] ++
        ((ps.flatMap poolBlock).map trim ++ [[], []]))) := by
  rw [toList_render_default, unlines, lines_unlines (noFeed_defaultLines hl hp)]
  simp [defaultLines, trim_of_trimmed trimmed_nil]

/-! ## Sections of a rendered file -/

theorem readSections_of_no_headers {ls : List (List Char)} (h : ∀ line ∈ ls, header? line = none)
    (rest : List (List Char)) : readSections (ls ++ rest) = readSections rest := by
  induction ls with
  | nil => rfl
  | cons line ls ih =>
      obtain ⟨hline, hls⟩ := List.forall_mem_cons.mp h
      rw [List.cons_append, readSections_of_no_header hline, ih hls]

theorem header?_preamble : ∀ line ∈ preamble.map trim, header? line = none := by decide

theorem header?_fitting {name : String} (hname : IsLine name) (hne : name ≠ "") (k : Kind) :
    header? (directive k.noun.toList name.toList) = some (k, name.toList) := by
  have htrim : trim name.toList = name.toList := trim_of_trimmed hname.trimmed
  have hleft : trim name.toList ≠ [] := by
    rw [htrim]
    exact toList_ne_nil hne
  rw [header?_directive k hleft, htrim]

theorem readSections_listenerBlock {l : Listener} (h : l.FitsSection) (rest : List (List Char)) :
    readSections ((listenerBlock l).map trim ++ rest) =
      (readSections rest).map (.listener l.shown :: ·) := by
  have hheader : header? (directive Kind.frontend.noun.toList l.name.toList) =
      some (.frontend, l.name.toList) := header?_fitting h.name h.name_ne .frontend
  rw [map_trim_listenerBlock h, readSections_block hheader ne_nil_of_mem_listenerBody,
    readSection, String.ofList_toList, foldl_listenerBody h]
  cases readSections rest <;> rfl

theorem readSections_poolBlock {p : Pool} (h : p.FitsSection) (rest : List (List Char)) :
    readSections ((poolBlock p).map trim ++ rest) =
      (readSections rest).map (.pool p.shown :: ·) := by
  have hheader : header? (directive Kind.backend.noun.toList p.name.toList) =
      some (.backend, p.name.toList) := header?_fitting h.name h.name_ne .backend
  rw [map_trim_poolBlock h, readSections_block hheader ne_nil_of_mem_poolBody,
    readSection, String.ofList_toList, foldlM_poolBody h]
  cases readSections rest <;> rfl

/-- Blocks that each read as one section read as one section each. -/
theorem readSections_blocks {α : Type} {block : α → List (List Char)} {shown : α → Section}
    {xs : List α} (h : ∀ x ∈ xs, ∀ rest, readSections ((block x).map trim ++ rest) =
      (readSections rest).map (shown x :: ·)) (rest : List (List Char)) :
    readSections ((xs.flatMap block).map trim ++ rest) =
      (readSections rest).map (xs.map shown ++ ·) := by
  induction xs with
  | nil =>
      change readSections rest = _
      cases readSections rest <;> rfl
  | cons x xs ih =>
      obtain ⟨hx, hxs⟩ := List.forall_mem_cons.mp h
      rw [List.flatMap_cons, List.map_append, List.append_assoc, hx, ih hxs]
      cases readSections rest <;> rfl

/-- The sections of a rendered file, in its order. -/
theorem readSections_render_default {ls : List Listener} {ps : List Pool}
    (hl : ∀ l ∈ ls, l.FitsSection) (hp : ∀ p ∈ ps, p.FitsSection) :
    readSections ((lines (Template.default.render ls ps).toList).map trim) =
      .ok (ls.map (.listener ·.shown) ++ ps.map (.pool ·.shown)) := by
  have hempties : readSections [[], []] = .ok [] := by
    rw [readSections_of_no_header (by decide), readSections_of_no_header (by decide), readSections]
  rw [map_trim_lines_render_default (fun l hmem => (hl l hmem).keepsLines)
      fun p hmem => (hp p hmem).lacks_feed,
    readSections_of_no_headers header?_preamble,
    readSections_blocks fun l hmem => readSections_listenerBlock (hl l hmem),
    readSections_of_no_headers (by decide),
    readSections_blocks fun p hmem => readSections_poolBlock (hp p hmem), hempties]
  simp [Except.map]

/-! ## Entities of a rendered file -/

theorem listenersOf_shown (ls : List Listener) (ps : List Pool) :
    listenersOf (ls.map (.listener ·.shown) ++ ps.map (.pool ·.shown)) = ls.map Listener.shown := by
  simp [listenersOf, List.filterMap_append, List.filterMap_map]

theorem poolsOf_shown (ls : List Listener) (ps : List Pool) :
    poolsOf (ls.map (.listener ·.shown) ++ ps.map (.pool ·.shown)) = ps.map Pool.shown := by
  simp [poolsOf, List.filterMap_append, List.filterMap_map]

/-- **What was rendered reads back.** Whatever the rules hold, each listener
and each pool comes back in its place with what its section shows. -/
theorem read_render_default {ls : List Listener} {ps : List Pool}
    (hl : ∀ l ∈ ls, l.FitsSection) (hp : ∀ p ∈ ps, p.FitsSection) :
    read (Template.default.render ls ps) = .ok (ls.map Listener.shown, ps.map Pool.shown) :=
  read_eq_ok_iff.mpr
    ⟨_, readSections_render_default hl hp, listenersOf_shown ls ps, poolsOf_shown ls ps⟩

/-- Rules that look like a header or break a line open no section; those that
are directives count. -/
theorem read_render_default_rules :
    let l : Listener :=
      { name := "web front", bind := "*:80", mode := "http", keepAlive := "on"
        rules := ["  backend fake\n\n\tmode tcp ", "", "acl x path /\nbind :::81 v6only\r\nmode"] }
    let p : Pool :=
      { name := "api", version := "2", balance := "leastconn"
        members := [{ name := "m1", host := "::1", port := 8080, version := "1" },
          { name := "m2", port := 0 }] }
    ((∀ x ∈ [l], x.FitsSection) ∧ ∀ x ∈ [p], x.FitsSection) ∧
      read (Template.default.render [l] [p]) =
        .ok ([{ name := "web front", bind := ":::81 v6only", mode := "tcp" }],
          [{ name := "api", balance := "leastconn"
             members := [{ name := "m1", host := "::1", port := 8080 }, { name := "m2" }] }]) := by
  intro l p
  have hl : ∀ x ∈ [l], x.FitsSection := by decide +kernel
  have hp : ∀ x ∈ [p], x.FitsSection := by decide +kernel
  refine ⟨⟨hl, hp⟩, (read_render_default hl hp).trans ?_⟩
  decide +kernel

end ConfigFile

end ProxySync
