import Mathlib.Data.List.Induction
import ProxySync.Proofs.ConfigFile.Directive

/-!
# Where what is read comes from

Whatever a file looks like, a section that is read off it has its name from a
header line and its body from lines of the file
(`exists_header_of_mem_readSections`), and each value in the section comes
from the last line that sets it. There is one lemma for each function of the
reader, which says everything that the function can have done.
-/

namespace ProxySync.ConfigFile

open ProxySync.Text

/-! ## Values -/

theorem header?_eq_some {line name : List Char} {k : Kind} (h : header? line = some (k, name)) :
    valueAfter? k.noun line = some name := by
  unfold header? at h
  split at h
  · next hname =>
    cases h
    exact hname
  · obtain ⟨name', hname, heq⟩ := Option.map_eq_some_iff.mp h
    cases heq
    exact hname

/-- A value has no characters but those of its line. -/
theorem not_mem_valueAfter? {word : String} {line value : List Char} {c : Char} (hline : c ∉ line)
    (h : valueAfter? word line = some value) : c ∉ value := by
  obtain ⟨-, rest, rfl, rfl⟩ := valueAfter?_eq_some_iff.mp h
  intro hmem
  have hrest : c ∈ rest := mem_of_mem_trim hmem
  exact hline (List.mem_append_right _ (List.mem_cons_of_mem _ hrest))

/-- A value after some lines is the one before or was set by one of them. -/
theorem overwritten_eq_or (word value : String) (ls : List (List Char)) :
    overwritten word value ls = value ∨
      ∃ line ∈ ls, ∃ text, valueAfter? word line = some text ∧
        overwritten word value ls = String.ofList text := by
  induction ls using List.reverseRecOn with
  | nil => exact Or.inl rfl
  | append_singleton ls line ih =>
      rw [overwritten_append]
      cases htext : valueAfter? word line with
      | some text =>
          rw [overwritten_of_some htext]
          exact Or.inr ⟨line, by simp, text, htext, rfl⟩
      | none =>
          rw [overwritten_of_ne_some (by simp [htext])]
          rcases ih with hsame | ⟨line', hline', text, htext', hset⟩
          · exact Or.inl hsame
          · exact Or.inr ⟨line', List.mem_append_left _ hline', text, htext', hset⟩

/-- A member that was read fits on a server line, which shows all of it. -/
theorem fitsServerLine_of_readServer {value : List Char} {m : Member}
    (h : readServer value = .ok m) : FitsServerLine m ∧ m.shown = m := by
  unfold readServer at h
  split at h
  case h_2 => cases h
  next name address _ _ _ hfields =>
    have hname : name ≠ [] ∧ ∀ c ∈ name, isBlank c = false :=
      not_isBlank_of_mem_fields (by rw [hfields]; exact List.mem_cons_self)
    have haddress : address ≠ [] ∧ ∀ c ∈ address, isBlank c = false :=
      not_isBlank_of_mem_fields (by rw [hfields]; exact List.mem_cons_of_mem _ List.mem_cons_self)
    split at h
    · cases h
    next host port hcut =>
      split at h
      case h_2 => cases h
      cases h
      refine ⟨⟨ofList_ne_empty hname.1, ?_, ?_⟩, rfl⟩
      · rw [String.toList_ofList]
        exact hname.2
      · intro c hc
        rw [String.toList_ofList] at hc
        exact haddress.2 c (mem_of_cutLast? hcut c hc)

/-- What a line of a pool's section can do. -/
theorem readPoolLine_cases {p q : Pool} {line : List Char} (h : readPoolLine p line = .ok q) :
    (∃ text, valueAfter? "balance" line = some text ∧
        q = { p with balance := String.ofList text }) ∨
      (∃ text, valueAfter? "mode" line = some text ∧ q = { p with mode := String.ofList text }) ∨
      (∃ text m, valueAfter? "server" line = some text ∧ readServer text = .ok m ∧
        q = { p with members := p.members ++ [m] }) ∨
      q = p := by
  unfold readPoolLine at h
  split at h
  · next text hbalance => exact Or.inl ⟨text, hbalance, (Except.ok.inj h).symm⟩
  split at h
  · next text hmode => exact Or.inr (Or.inl ⟨text, hmode, (Except.ok.inj h).symm⟩)
  split at h
  · next text hserver =>
    cases hread : readServer text with
    | error e =>
        rw [hread] at h
        cases h
    | ok m =>
        rw [hread] at h
        exact Or.inr (Or.inr (Or.inl ⟨text, m, hserver, hread, (Except.ok.inj h).symm⟩))
  · exact Or.inr (Or.inr (Or.inr (Except.ok.inj h).symm))

/-- What every line of a body keeps, the body keeps. -/
theorem foldlM_readPoolLine_induction {inv : Pool → Prop} {body : List (List Char)}
    (hstep : ∀ line ∈ body, ∀ p q, inv p → readPoolLine p line = .ok q → inv q) {p q : Pool}
    (hp : inv p) (h : body.foldlM readPoolLine p = .ok q) : inv q := by
  induction body generalizing p with
  | nil =>
      cases h
      exact hp
  | cons line body ih =>
      obtain ⟨hline, hrest⟩ := List.forall_mem_cons.mp hstep
      rw [List.foldlM_cons] at h
      cases hread : readPoolLine p line with
      | error e =>
          rw [hread] at h
          cases h
      | ok p' =>
          rw [hread] at h
          exact ih hrest (hline p p' hp hread) h

/-! ## Sections -/

/-- A section is a listener with its values overwritten, or a pool after the
lines of its body. -/
theorem readSection_cases {k : Kind} {name : List Char} {body : List (List Char)} {s : Section}
    (h : readSection k name body = .ok s) :
    (k = .frontend ∧ s = .listener (overwriteListener { name := String.ofList name } body)) ∨
      ∃ p, k = .backend ∧ s = .pool p ∧
        body.foldlM readPoolLine { name := String.ofList name } = .ok p := by
  cases k with
  | frontend =>
      rw [readSection, foldl_readListenerLine] at h
      exact Or.inl ⟨rfl, (Except.ok.inj h).symm⟩
  | backend =>
      rw [readSection] at h
      split at h
      · next p hread => exact Or.inr ⟨p, rfl, (Except.ok.inj h).symm, hread⟩
      · cases h

/-- **Every section was read off a header line and other lines of the file.** -/
theorem exists_header_of_mem_readSections {ls : List (List Char)} {sections : List Section}
    (h : readSections ls = .ok sections) : ∀ s ∈ sections, ∃ line ∈ ls, ∃ k name body,
      header? line = some (k, name) ∧ body ⊆ ls ∧ readSection k name body = .ok s := by
  induction ls using readSections.induct generalizing sections with
  | case1 =>
      rw [readSections] at h
      cases h
      exact List.forall_mem_nil _
  | case2 line rest hheader ih =>
      rw [readSections, hheader] at h
      intro s hs
      obtain ⟨line', hline', k, name, body, hheader', hbody, hread⟩ := ih h s hs
      exact ⟨line', List.mem_cons_of_mem _ hline', k, name, body, hheader',
        List.subset_cons_of_subset _ hbody, hread⟩
  | case3 line rest k name hheader ih =>
      rw [readSections, hheader] at h
      simp only at h
      cases hfirst : readSection k name (rest.takeWhile (!·.isEmpty)) with
      | error e =>
          rw [hfirst] at h
          cases h
      | ok first =>
      cases hlater : readSections (rest.dropWhile (!·.isEmpty)) with
      | error e =>
          rw [hfirst, hlater] at h
          cases h
      | ok later =>
      rw [hfirst, hlater] at h
      cases h
      intro s hs
      rcases List.mem_cons.mp hs with rfl | hs
      · refine ⟨line, List.mem_cons_self, k, name, _, hheader, ?_, hfirst⟩
        exact List.subset_cons_of_subset _ (List.takeWhile_sublist _).subset
      · obtain ⟨line', hline', k', name', body, hheader', hbody, hread⟩ := ih hlater s hs
        have hrest : rest.dropWhile (!·.isEmpty) ⊆ line :: rest :=
          List.subset_cons_of_subset _ (List.dropWhile_sublist _).subset
        exact ⟨line', hrest hline', k', name', body, hheader', List.Subset.trans hbody hrest, hread⟩

/-! ## Whole files -/

theorem mem_listenersOf {sections : List Section} {l : Listener} :
    l ∈ listenersOf sections ↔ .listener l ∈ sections := by
  rw [listenersOf, List.mem_filterMap]
  constructor
  · rintro ⟨s, hs, hsome⟩
    cases s with
    | listener l' =>
        cases hsome
        exact hs
    | pool p => cases hsome
  · intro hs
    exact ⟨_, hs, rfl⟩

theorem mem_poolsOf {sections : List Section} {p : Pool} :
    p ∈ poolsOf sections ↔ .pool p ∈ sections := by
  rw [poolsOf, List.mem_filterMap]
  constructor
  · rintro ⟨s, hs, hsome⟩
    cases s with
    | listener l => cases hsome
    | pool p' =>
        cases hsome
        exact hs
  · intro hs
    exact ⟨_, hs, rfl⟩

theorem read_eq_ok_iff {text : String} {ls : List Listener} {ps : List Pool} :
    read text = .ok (ls, ps) ↔
      ∃ sections, readSections ((lines text.toList).map trim) = .ok sections ∧
        listenersOf sections = ls ∧ poolsOf sections = ps := by
  unfold read
  cases readSections ((lines text.toList).map trim) with
  | error e => exact ⟨nofun, nofun⟩
  | ok sections =>
      constructor
      · intro h
        obtain ⟨hls, hps⟩ := Prod.mk.inj (Except.ok.inj h)
        exact ⟨sections, rfl, hls, hps⟩
      · rintro ⟨sections', hsections, rfl, rfl⟩
        cases hsections
        rfl

theorem read_eq_error_iff {text : String} {e : FormatFault} :
    read text = .error e ↔ readSections ((lines text.toList).map trim) = .error e := by
  unfold read
  cases readSections ((lines text.toList).map trim) with
  | ok sections => exact ⟨nofun, nofun⟩
  | error e' =>
      constructor
      · intro h
        rw [Except.error.inj h]
      · intro h
        rw [Except.error.inj h]
        rfl

end ProxySync.ConfigFile
