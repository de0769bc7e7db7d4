import ProxySync.Proofs.ConfigFile.Reading
import ProxySync.Proofs.Entity.LineFields

/-!
# Characters that reading lets through

A blank that stands inside no line of a file stands in none of the texts that
are read off it (`lacks_of_read`): values come trimmed off one line, and the
names and addresses of members hold no blanks at all. Line feeds are such
blanks in every file; carriage returns only where each of them ends a line.
-/

namespace ProxySync

open ConfigFile Text

namespace ConfigFile

variable {c : Char}

/-! ## Listeners -/

theorem not_mem_overwritten {word value : String} {ls : List (List Char)}
    (hls : ∀ line ∈ ls, c ∉ line) (hvalue : c ∉ value.toList) :
    c ∉ (overwritten word value ls).toList := by
  rcases overwritten_eq_or word value ls with hsame | ⟨line, hline, text, htext, hset⟩
  · rwa [hsame]
  · rw [hset, String.toList_ofList]
    exact not_mem_valueAfter? (hls line hline) htext

theorem lacks_overwriteListener {name : String} (hname : c ∉ name.toList)
    {body : List (List Char)} (hbody : ∀ line ∈ body, c ∉ line) :
    (overwriteListener { name := name } body).Lacks c where
  name := hname
  bind := not_mem_overwritten hbody List.not_mem_nil
  mode := not_mem_overwritten hbody List.not_mem_nil
  defaultBackend := not_mem_overwritten hbody List.not_mem_nil
  option := not_mem_overwritten hbody List.not_mem_nil
  rules := List.forall_mem_nil _

/-! ## Pools -/

theorem lacks_readPoolLine (hc : isBlank c = true) {p q : Pool} {line : List Char}
    (hline : c ∉ line) (hp : p.Lacks c) (h : readPoolLine p line = .ok q) : q.Lacks c := by
  rcases readPoolLine_cases h with
    ⟨text, hbalance, rfl⟩ | ⟨text, hmode, rfl⟩ | ⟨text, m, -, hread, rfl⟩ | rfl
  · refine { hp with balance := ?_ }
    rw [String.toList_ofList]
    exact not_mem_valueAfter? hline hbalance
  · refine { hp with mode := ?_ }
    rw [String.toList_ofList]
    exact not_mem_valueAfter? hline hmode
  · obtain ⟨hm, -⟩ := fitsServerLine_of_readServer hread
    refine { hp with members := List.forall_mem_append.mpr ⟨hp.members, ?_⟩ }
    exact List.forall_mem_singleton.mpr (hm.lacks_blank hc)
  · exact hp

/-! ## Sections -/

def Section.Lacks (c : Char) : Section → Prop
  | .listener l => l.Lacks c
  | .pool p => p.Lacks c

theorem lacks_of_mem_readSections (hc : isBlank c = true) {ls : List (List Char)}
    (hls : ∀ line ∈ ls, c ∉ line) {sections : List Section} (h : readSections ls = .ok sections) :
    ∀ s ∈ sections, s.Lacks c := by
  intro s hs
  obtain ⟨line, hline, k, name, body, hheader, hsub, hread⟩ :=
    exists_header_of_mem_readSections h s hs
  have hbody : ∀ line ∈ body, c ∉ line := fun line hmem => hls line (hsub hmem)
  have hname : c ∉ (String.ofList name).toList := by
    rw [String.toList_ofList]
    exact not_mem_valueAfter? (hls line hline) (header?_eq_some hheader)
  rcases readSection_cases hread with ⟨-, rfl⟩ | ⟨p, -, rfl, hpool⟩
  · exact lacks_overwriteListener hname hbody
  · have hnew : Pool.Lacks { name := String.ofList name } c :=
      ⟨hname, List.not_mem_nil, List.not_mem_nil, List.forall_mem_nil _⟩
    have hkeep : ∀ line ∈ body, ∀ p q : Pool, p.Lacks c → readPoolLine p line = .ok q →
        q.Lacks c := fun line hline p q hp hq => lacks_readPoolLine hc (hbody line hline) hp hq
    exact foldlM_readPoolLine_induction hkeep hnew hpool

/-- **A blank inside no line of a file is in no text that is read off it.** -/
theorem lacks_of_read (hc : isBlank c = true) {text : String}
    (htext : ∀ line ∈ lines text.toList, c ∉ trim line) {ls : List Listener} {ps : List Pool}
    (h : read text = .ok (ls, ps)) : (∀ l ∈ ls, l.Lacks c) ∧ ∀ p ∈ ps, p.Lacks c := by
  obtain ⟨sections, hread, rfl, rfl⟩ := read_eq_ok_iff.mp h
  have hlacks : ∀ s ∈ sections, s.Lacks c :=
    lacks_of_mem_readSections hc (List.forall_mem_map.mpr htext) hread
  exact ⟨fun l hl => hlacks _ (mem_listenersOf.mp hl), fun p hp => hlacks _ (mem_poolsOf.mp hp)⟩

end ConfigFile

end ProxySync
