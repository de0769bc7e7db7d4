import Mathlib.Data.List.Forall2
import ProxySync.Proofs.ConfigFile.Legibility

/-!
# Rendered files line by line

Checking an entity and rendering it go through its texts separately, and
they agree: when no text has a line break, each stays on the line it is
written on. The lines of a section are listed here without the renderer
(`Listener.sectionLines`, `Pool.sectionLines`). Cut at its line feeds, a
rendered file is the default template with these lines before the lines of
its slots (`fileLines_render_default`). What the sections do not show has no
part in the file at all.
-/

namespace ProxySync

open ConfigFile Text

/-! ## Sections -/

/-- The lines of the directives that are set, each under its word. -/
def directiveLines (directives : List (String × String)) : List String :=
  (directives.filter (·.2 ≠ "")).map fun d => "    " ++ d.1 ++ " " ++ d.2

/-- The lines of the rules that are not blank. -/
def ruleTextLines (rules : List String) : List String :=
  (rules.filter (!isBlankText ·)).map fun rule => "    " ++ String.ofList (trim rule.toList)

def Member.line (m : Member) : String :=
  "    server " ++ m.name ++ " " ++ m.host ++ ":" ++ toString m.port ++ " " ++ serverCheck

def Listener.sectionLines (l : Listener) : List String :=
  ["  frontend " ++ l.name] ++
    directiveLines [("bind", l.bind), ("mode", l.mode), ("default_backend", l.defaultBackend),
      ("option", l.option)] ++
    ruleTextLines l.rules ++ [""]

def Pool.sectionLines (p : Pool) : List String :=
  ["  backend " ++ p.name] ++ directiveLines [("mode", p.mode), ("balance", p.balance)] ++
    p.members.map Member.line ++ [""]

theorem directiveLines_cons_cons (d d' : String × String) (ds : List (String × String)) :
    directiveLines (d :: d' :: ds) = directiveLines [d] ++ directiveLines (d' :: ds) := by
  unfold directiveLines
  rw [← List.map_append, ← List.filter_append, List.singleton_append]

theorem ruleTextLines_cons (rule : String) (rules : List String) :
    ruleTextLines (rule :: rules) = ruleTextLines [rule] ++ ruleTextLines rules := by
  unfold ruleTextLines
  rw [← List.map_append, ← List.filter_append, List.singleton_append]

namespace ConfigFile

theorem map_ofList_directiveLine (word value : String) :
    (directiveLine word value).map String.ofList = directiveLines [(word, value)] := by
  -- The indentation is a variable here: as a literal it would be spelled out.
  have hjoin (indent : String) :
      String.ofList (indent.toList ++ word.toList ++ ' ' :: value.toList) =
        indent ++ word ++ " " ++ value := by
    simp [← String.toList_inj]
  unfold directiveLine directiveLines
  by_cases hvalue : value = ""
  · rw [hvalue]
    rfl
  · have hset : ¬ value.isEmpty = true := fun hempty => hvalue (String.isEmpty_iff.mp hempty)
    have hkept : [(word, value)].filter (·.2 ≠ "") = [(word, value)] := by simp [hvalue]
    rw [if_neg hset, hkept]
    exact congrArg (fun line => [line]) (hjoin "    ")

theorem ofList_serverLine (m : Member) : String.ofList (serverLine m) = m.line := by
  have hjoin (lead check : String) (port : List Char) :
      String.ofList (lead.toList ++ m.name.toList ++ ' ' :: m.host.toList ++ ':' :: port ++
        ' ' :: check.toList) =
      lead ++ m.name ++ " " ++ m.host ++ ":" ++ String.ofList port ++ " " ++ check := by
    simp [← String.toList_inj]
  exact hjoin "    server " serverCheck (digits m.port.toNat)

/-- A rule on one line is one line of its section, or none if it is blank. -/
theorem map_ofList_ruleLines {rule : String} (hrule : '\n' ∉ rule.toList) :
    (ruleLines rule).map String.ofList = ruleTextLines [rule] := by
  have hline : lines rule.toList = [rule.toList] := List.splitOn_eq_singleton hrule
  unfold ruleLines ruleTextLines
  rw [hline]
  by_cases hblank : isBlankText rule = true
  · have htrim : trim rule.toList = [] := trim_eq_nil_iff.mpr hblank
    simp [hblank, htrim]
  · have htrim : trim rule.toList ≠ [] := fun hnil => hblank (trim_eq_nil_iff.mp hnil)
    simp [hblank, htrim, ← String.toList_inj]

theorem map_ofList_rules {rules : List String} (hrules : ∀ rule ∈ rules, '\n' ∉ rule.toList) :
    (rules.flatMap ruleLines).map String.ofList = ruleTextLines rules := by
  induction rules with
  | nil => rfl
  | cons rule rules ih =>
      obtain ⟨hrule, hrules⟩ := List.forall_mem_cons.mp hrules
      rw [List.flatMap_cons, List.map_append, map_ofList_ruleLines hrule, ih hrules,
        ← ruleTextLines_cons]

/-- **The block of a listener is its section, line by line.** -/
theorem map_ofList_listenerBlock {l : Listener} (h : l.Lacks '\n') :
    (listenerBlock l).map String.ofList = l.sectionLines := by
  have hheader : String.ofList (headerLine .frontend l.name) = "  frontend " ++ l.name := by
    simp [← String.toList_inj, headerLine, Kind.noun]
  simp only [listenerBlock, List.map_append, List.map_singleton, hheader, map_ofList_directiveLine,
    map_ofList_rules h.rules, Listener.sectionLines, directiveLines_cons_cons]
  simp

theorem map_ofList_poolBlock (p : Pool) :
    (poolBlock p).map String.ofList = p.sectionLines := by
  have hheader : String.ofList (headerLine .backend p.name) = "  backend " ++ p.name := by
    simp [← String.toList_inj, headerLine, Kind.noun]
  have hservers : (p.members.map serverLine).map String.ofList = p.members.map Member.line := by
    rw [List.map_map]
    exact List.map_congr_left fun m _ => ofList_serverLine m
  simp only [poolBlock, List.map_append, List.map_singleton, hheader, map_ofList_directiveLine,
    hservers, Pool.sectionLines, directiveLines_cons_cons]
  simp

/-! ## Files -/

/-- The lines of a text, cut at its line feeds. -/
def fileLines (text : String) : List String := (lines text.toList).map String.ofList

/-- What stands in the place of a line of the template: before the line of a
slot, which is empty then, the sections of its kind. -/
def filledLine (ls : List Listener) (ps : List Pool) (line : String) : List String :=
  if line = slotMark .frontend then ls.flatMap Listener.sectionLines ++ [""]
  else if line = slotMark .backend then ps.flatMap Pool.sectionLines ++ [""]
  else [line]

theorem fileLines_defaultSource : fileLines defaultSource =
    preamble.map String.ofList ++ [slotMark .frontend, slotMark .backend, ""] := by
  decide +kernel

theorem filledLine_preamble (ls : List Listener) (ps : List Pool) :
    (preamble.map String.ofList).flatMap (filledLine ls ps) = preamble.map String.ofList := by
  have hother : ∀ line ∈ preamble.map String.ofList,
      line ≠ slotMark .frontend ∧ line ≠ slotMark .backend := by decide +kernel
  have hkept : ∀ line ∈ preamble.map String.ofList, filledLine ls ps line = [line] := by
    intro line hline
    obtain ⟨hfrontend, hbackend⟩ := hother line hline
    rw [filledLine, if_neg hfrontend, if_neg hbackend]
  rw [List.flatMap_congr hkept]
  exact List.flatMap_singleton' _

/-- Where no text has a line feed, the file is the template filled line by
line. -/
theorem fileLines_render_of_lacks {ls : List Listener} {ps : List Pool}
    (hl : ∀ l ∈ ls, l.Lacks '\n') (hp : ∀ p ∈ ps, p.Lacks '\n') :
    fileLines (Template.default.render ls ps) =
      (fileLines defaultSource).flatMap (filledLine ls ps) := by
  have hlisteners : (ls.flatMap listenerBlock).map String.ofList =
      ls.flatMap Listener.sectionLines := by
    rw [List.map_flatMap]
    exact List.flatMap_congr fun l hmem => map_ofList_listenerBlock (hl l hmem)
  have hpools : (ps.flatMap poolBlock).map String.ofList = ps.flatMap Pool.sectionLines := by
    rw [List.map_flatMap]
    exact List.flatMap_congr fun p _ => map_ofList_poolBlock p
  have hfeeds : NoFeed (defaultLines ls ps) :=
    noFeed_defaultLines (fun l hmem => (hl l hmem).keepsLines) hp
  have hslots : slotMark .backend ≠ slotMark .frontend := by decide
  have hempty : "" ≠ slotMark .frontend ∧ "" ≠ slotMark .backend := by decide
  rw [fileLines, toList_render_default, unlines, lines_unlines hfeeds, fileLines_defaultSource,
    List.flatMap_append, filledLine_preamble]
  simp [defaultLines, hlisteners, hpools, filledLine, hslots, hempty.1.symm, hempty.2.symm]

/-! ## Blank lines -/

/-- Only the last line is empty, and no other is blank. -/
def EndsBlank (section' : List String) : Prop :=
  ∃ front, section' = front ++ [""] ∧ ∀ line ∈ front, isBlankText line = false

theorem Framed.endsBlank {block body : List (List Char)} {k : Kind} {name : String}
    (h : Framed block k name body) : EndsBlank (block.map String.ofList) := by
  have hfull : ∀ line ∈ headerLine k name :: body, trim line ≠ [] :=
    List.forall_mem_cons.mpr ⟨trim_headerLine_ne_nil k name, h.full⟩
  refine ⟨(headerLine k name :: body).map String.ofList, ?_, ?_⟩
  · rw [h.eq, List.map_append]
    rfl
  · intro text htext
    obtain ⟨line, hline, rfl⟩ := List.mem_map.mp htext
    rw [isBlankText, String.toList_ofList, ← Bool.not_eq_true, ← trim_eq_nil_iff]
    exact hfull line hline

end ConfigFile

/-! ## What is not shown -/

/-- Members that differ at most in what is kept for the operators. -/
def Member.SameLine (m m' : Member) : Prop :=
  m' = { m with version := m'.version, lastKnown := m'.lastKnown, metadata := m'.metadata }

def Listener.SameSection (l l' : Listener) : Prop :=
  l' = { l with keepAlive := l'.keepAlive, metadata := l'.metadata }

def Pool.SameSection (p p' : Pool) : Prop :=
  List.Forall₂ Member.SameLine p.members p'.members ∧
    p' = { p with version := p'.version, host := p'.host, members := p'.members,
                  metadata := p'.metadata }

theorem map_eq_of_forall₂ {α β : Type} {same : α → α → Prop} (f : α → β)
    (hf : ∀ ⦃a a'⦄, same a a' → f a' = f a) {as as' : List α} (h : List.Forall₂ same as as') :
    as'.map f = as.map f := by
  induction h with
  | nil => rfl
  | cons ha _ ih => rw [List.map_cons, List.map_cons, hf ha, ih]

namespace ConfigFile

theorem serverLine_of_sameLine {m m' : Member} (h : m.SameLine m') :
    serverLine m' = serverLine m := by
  rw [h]
  rfl

theorem listenerBlock_of_sameSection {l l' : Listener} (h : l.SameSection l') :
    listenerBlock l' = listenerBlock l := by
  rw [h]
  rfl

theorem poolBlock_of_sameSection {p p' : Pool} (h : p.SameSection p') :
    poolBlock p' = poolBlock p := by
  obtain ⟨hmembers, hsame⟩ := h
  have hservers : p'.members.map serverLine = p.members.map serverLine :=
    map_eq_of_forall₂ serverLine (fun _ _ => serverLine_of_sameLine) hmembers
  have hblock : poolBlock p' = poolBlock { p with members := p'.members } := by
    rw [hsame]
    rfl
  rw [hblock, poolBlock, poolBlock, hservers]

/-- What a section does not show leaves every rendering as it is. -/
theorem render_of_sameSection (t : Template) {ls ls' : List Listener} {ps ps' : List Pool}
    (hl : List.Forall₂ Listener.SameSection ls ls') (hp : List.Forall₂ Pool.SameSection ps ps') :
    t.render ls' ps' = t.render ls ps := by
  have hlisteners : ls'.map listenerBlock = ls.map listenerBlock :=
    map_eq_of_forall₂ listenerBlock (fun _ _ => listenerBlock_of_sameSection) hl
  have hpools : ps'.map poolBlock = ps.map poolBlock :=
    map_eq_of_forall₂ poolBlock (fun _ _ => poolBlock_of_sameSection) hp
  simp only [Template.render, List.flatMap_def, hlisteners, hpools]

/-- **No text leaves its line.** The rendering of entities that a change lets
through is the default template, line by line, with the lines of the sections
before those of the slots; of the lines of a section the last is empty and no
other is blank. Changing what is kept for the operators changes nothing. -/
theorem fileLines_render_default {ls : List Listener} {ps : List Pool}
    (hl : ∀ l ∈ ls, Record.brokenField? l = none) (hp : ∀ p ∈ ps, Record.brokenField? p = none) :
    fileLines (Template.default.render ls ps) =
        (fileLines defaultSource).flatMap (filledLine ls ps) ∧
      (∀ l ∈ ls, EndsBlank l.sectionLines) ∧ (∀ p ∈ ps, EndsBlank p.sectionLines) ∧
      ∀ ls' ps', List.Forall₂ Listener.SameSection ls ls' → List.Forall₂ Pool.SameSection ps ps' →
        Template.default.render ls' ps' = Template.default.render ls ps := by
  have hl' : ∀ l ∈ ls, l.Lacks '\n' := fun l hmem =>
    (Listener.brokenField?_lineFields_iff.mp (hl l hmem)).1
  have hp' : ∀ p ∈ ps, p.Lacks '\n' := fun p hmem =>
    (Pool.brokenField?_lineFields_iff.mp (hp p hmem)).1
  refine ⟨fileLines_render_of_lacks hl' hp', ?_, ?_, ?_⟩
  · intro l hmem
    have hblock := (framed_listenerBlock l).endsBlank
    rwa [map_ofList_listenerBlock (hl' l hmem)] at hblock
  · intro p _
    have hblock := (framed_poolBlock p).endsBlank
    rwa [map_ofList_poolBlock] at hblock
  · intro ls' ps' hlisteners hpools
    exact render_of_sameSection .default hlisteners hpools

/-- A rule that looks like a section, one that is a slot of the template, and a
pool of which everything is changed that its section does not show. -/
theorem fileLines_render_default_hidden :
    let l : Listener :=
      { name := "web", bind := "*:80", rules := ["  backend x ", " ", "\x7b\x7bbackends\x7d\x7d"] }
    let p : Pool := { name := "api", members := [{ name := "m", host := "h", port := 80 }] }
    let p' : Pool :=
      { name := "api", version := "2", host := "a\nb"
        members := [{ name := "m", version := "\n", host := "h", port := 80 }] }
    ((∀ x ∈ [l], Record.brokenField? x = none) ∧ ∀ x ∈ [p], Record.brokenField? x = none) ∧
      (fileLines (Template.default.render [l] [p'])).drop (preamble.length) =
        ["  frontend web", "    bind *:80", "    backend x", "    \x7b\x7bbackends\x7d\x7d", "", "",
          "  backend api", "    server m h:80 check inter 2000", "", "", ""] := by
  intro l p p'
  have hl : ∀ x ∈ [l], Record.brokenField? x = none := by decide +kernel
  have hp : ∀ x ∈ [p], Record.brokenField? x = none := by decide +kernel
  have hsame : p.SameSection p' := ⟨.cons rfl .nil, rfl⟩
  obtain ⟨hlines, _, _, hhidden⟩ := fileLines_render_default hl hp
  refine ⟨⟨hl, hp⟩, ?_⟩
  rw [hhidden [l] [p'] (.cons rfl .nil) (.cons hsame .nil), hlines]
  decide +kernel

end ConfigFile

end ProxySync
