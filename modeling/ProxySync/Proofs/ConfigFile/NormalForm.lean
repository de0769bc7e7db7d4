import ProxySync.Proofs.ConfigFile.ReadBack

/-!
# What was read is in normal form

Everything that reading can give fits in a section, and the section shows all
of it: values come trimmed off one line, server lines give words, and fields
that no directive sets keep their defaults (`shownInFull_readSections`). So
a file that was read once, whatever it looked like, is rendered to one that
reads the same.
-/

namespace ProxySync

open ConfigFile Text

/-- A listener that its section shows in full. -/
structure Listener.ShownInFull (l : Listener) : Prop where
  fits : l.FitsSection
  shown_eq : l.shown = l

/-- A pool that its section shows in full. -/
structure Pool.ShownInFull (p : Pool) : Prop where
  fits : p.FitsSection
  shown_eq : p.shown = p

theorem Pool.ShownInFull.setMode {p : Pool} (h : p.ShownInFull) {mode : String}
    (hmode : IsLine mode) : Pool.ShownInFull { p with mode := mode } where
  fits := { h.fits with mode := hmode }
  shown_eq := congrArg (fun q : Pool => { q with mode := mode }) h.shown_eq

theorem Pool.ShownInFull.setBalance {p : Pool} (h : p.ShownInFull) {balance : String}
    (hbalance : IsLine balance) : Pool.ShownInFull { p with balance := balance } where
  fits := { h.fits with balance := hbalance }
  shown_eq := congrArg (fun q : Pool => { q with balance := balance }) h.shown_eq

theorem Pool.ShownInFull.addMember {p : Pool} (h : p.ShownInFull) {m : Member}
    (hm : FitsServerLine m) (hshown : m.shown = m) :
    Pool.ShownInFull { p with members := p.members ++ [m] } where
  fits :=
    { h.fits with
      members := by
        intro m' hmem
        rcases List.mem_append.mp hmem with hmem | hmem
        · exact h.fits.members m' hmem
        · rw [List.mem_singleton.mp hmem]
          exact hm }
  shown_eq := by
    have hmembers : (p.members ++ [m]).map Member.shown = p.members.map Member.shown ++ [m] := by
      rw [List.map_append, List.map_singleton, hshown]
    rw [Pool.shown, hmembers]
    exact congrArg (fun q : Pool => { q with members := q.members ++ [m] }) h.shown_eq

namespace ConfigFile

/-! ## Values -/

/-- The value of a directive can stand on a line of its own. -/
theorem isLine_valueAfter? {word : String} {line value : List Char} (hline : '\n' ∉ line)
    (h : valueAfter? word line = some value) :
    IsLine (String.ofList value) ∧ String.ofList value ≠ "" := by
  have hfeed : '\n' ∉ value := not_mem_valueAfter? hline h
  obtain ⟨hne, rest, -, rfl⟩ := valueAfter?_eq_some_iff.mp h
  refine ⟨?_, ofList_ne_empty hne⟩
  constructor <;> rw [String.toList_ofList]
  · exact hfeed
  · exact trimmed_trim rest

theorem isLine_overwritten {word value : String} {ls : List (List Char)} (hls : NoFeed ls)
    (hvalue : IsLine value) : IsLine (overwritten word value ls) := by
  rcases overwritten_eq_or word value ls with hsame | ⟨line, hline, text, htext, hset⟩
  · rwa [hsame]
  · rw [hset]
    exact (isLine_valueAfter? (hls line hline) htext).1

theorem isLine_empty : IsLine "" := by decide

/-! ## Listeners -/

theorem shownInFull_overwriteListener {name : String} (hname : IsLine name) (hne : name ≠ "")
    {body : List (List Char)} (hbody : NoFeed body) :
    (overwriteListener { name := name } body).ShownInFull where
  fits :=
    { name_ne := hne
      name := hname
      bind := isLine_overwritten hbody isLine_empty
      mode := isLine_overwritten hbody isLine_empty
      defaultBackend := isLine_overwritten hbody isLine_empty
      option := isLine_overwritten hbody isLine_empty }
  shown_eq := rfl

/-! ## Pools -/

theorem shownInFull_readPoolLine {p q : Pool} {line : List Char} (hline : '\n' ∉ line)
    (hp : p.ShownInFull) (h : readPoolLine p line = .ok q) : q.ShownInFull := by
  rcases readPoolLine_cases h with
    ⟨text, hbalance, rfl⟩ | ⟨text, hmode, rfl⟩ | ⟨text, m, -, hread, rfl⟩ | rfl
  · exact hp.setBalance (isLine_valueAfter? hline hbalance).1
  · exact hp.setMode (isLine_valueAfter? hline hmode).1
  · obtain ⟨hm, hshown⟩ := fitsServerLine_of_readServer hread
    exact hp.addMember hm hshown
  · exact hp

/-! ## Sections -/

/-- A section that rendering shows in full. -/
def Section.ShownInFull : Section → Prop
  | .listener l => l.ShownInFull
  | .pool p => p.ShownInFull

theorem shownInFull_readSection {k : Kind} {name : List Char} {body : List (List Char)}
    {s : Section} (hname : IsLine (String.ofList name)) (hne : String.ofList name ≠ "")
    (hbody : NoFeed body) (h : readSection k name body = .ok s) : s.ShownInFull := by
  rcases readSection_cases h with ⟨-, rfl⟩ | ⟨p, -, rfl, hread⟩
  · exact shownInFull_overwriteListener hname hne hbody
  · have hnew : Pool.ShownInFull { name := String.ofList name } :=
      ⟨⟨hne, hname, isLine_empty, isLine_empty, List.forall_mem_nil _⟩, rfl⟩
    refine foldlM_readPoolLine_induction (fun line hline p q hp hq => ?_) hnew hread
    exact shownInFull_readPoolLine (hbody line hline) hp hq

/-- **Every section that can be read is shown in full.** -/
theorem shownInFull_readSections {ls : List (List Char)} {sections : List Section}
    (hls : NoFeed ls) (h : readSections ls = .ok sections) : ∀ s ∈ sections, s.ShownInFull := by
  intro s hs
  obtain ⟨line, hline, k, name, body, hheader, hbody, hread⟩ :=
    exists_header_of_mem_readSections h s hs
  obtain ⟨hname, hne⟩ := isLine_valueAfter? (hls line hline) (header?_eq_some hheader)
  exact shownInFull_readSection hname hne (fun line hmem => hls line (hbody hmem)) hread

/-! ## Whole files -/

theorem noFeed_lines (text : List Char) : NoFeed ((lines text).map trim) := by
  intro line hline hfeed
  obtain ⟨raw, hraw, rfl⟩ := List.mem_map.mp hline
  exact not_mem_of_mem_lines hraw (mem_of_mem_trim hfeed)

theorem shownInFull_of_mem_listenersOf {sections : List Section}
    (h : ∀ s ∈ sections, s.ShownInFull) : ∀ l ∈ listenersOf sections, l.ShownInFull :=
  fun _ hl => h _ (mem_listenersOf.mp hl)

theorem shownInFull_of_mem_poolsOf {sections : List Section}
    (h : ∀ s ∈ sections, s.ShownInFull) : ∀ p ∈ poolsOf sections, p.ShownInFull :=
  fun _ hp => h _ (mem_poolsOf.mp hp)

/-- **One reading reaches a normal form.** What was read from any file is
rendered to a file that reads the same, in every field. -/
theorem read_render_of_read {text : String} {ls : List Listener} {ps : List Pool}
    (h : read text = .ok (ls, ps)) : read (Template.default.render ls ps) = .ok (ls, ps) := by
  obtain ⟨sections, hread, rfl, rfl⟩ := read_eq_ok_iff.mp h
  have hfull : ∀ s ∈ sections, s.ShownInFull := shownInFull_readSections (noFeed_lines _) hread
  have hl := shownInFull_of_mem_listenersOf hfull
  have hp := shownInFull_of_mem_poolsOf hfull
  have hshown : (listenersOf sections).map Listener.shown = listenersOf sections :=
    (List.map_congr_left fun l hmem => (hl l hmem).shown_eq).trans (List.map_id _)
  have hshown' : (poolsOf sections).map Pool.shown = poolsOf sections :=
    (List.map_congr_left fun p hmem => (hp p hmem).shown_eq).trans (List.map_id _)
  refine read_eq_ok_iff.mpr ⟨_, readSections_render_default (fun l hmem => (hl l hmem).fits)
    fun p hmem => (hp p hmem).fits, ?_, ?_⟩
  · rw [listenersOf_shown, hshown]
  · rw [poolsOf_shown, hshown']

/-- Feeds of two kinds, a header among directives, a section without an end, a
repeated name, a signed port, an empty host and colons in a host. -/
theorem read_render_of_read_foreign :
    let text := "frontend  a b\r\n\tbind *:80 \r\n  backend x\n mode\ttcp\nmode http\nbind :81\n" ++
      "\r\n  backend p\r\n server m1 ::1:+80 check inter 5\n server m2 :007 a b c\n\n" ++
      "# note\nbackend p\nbalance first\rlast"
    let ls : List Listener := [{ name := "a b", bind := ":81", mode := "http" }]
    let ps : List Pool :=
      [{ name := "p"
         members := [{ name := "m1", host := "::1", port := 80 }, { name := "m2", port := 7 }] },
        { name := "p", balance := "first\rlast" }]
    read text = .ok (ls, ps) ∧ read (Template.default.render ls ps) = .ok (ls, ps) := by
  intro text ls ps
  have hread : read text = .ok (ls, ps) := by decide +kernel
  exact ⟨hread, read_render_of_read hread⟩

end ConfigFile

end ProxySync
