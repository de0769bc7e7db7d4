import ProxySync.Proofs.ConfigFile.LineBreaks
import ProxySync.Proofs.Sync.Reachable

/-!
# Line breaks in the store

A change is refused when a text that is rendered would break its line; an
entity that is imported is not looked at. What comes in this way has no line
feeds, since it was read off lines, but a carriage return can come with it
from the middle of a line (`brokenField?_imported`). Where the files have
their carriage returns at line ends only, all that is stored passes the check
of a change (`lineFields_of_reachable`).
-/

namespace ProxySync

open ConfigFile Act Text

/-- The texts of an entity that are rendered do without a character. -/
def Entity.Lacks (c : Char) : Entity → Prop
  | .listener l => l.Lacks c
  | .pool p => p.Lacks c

theorem Entity.brokenField?_eq_none_iff {e : Entity} :
    e.brokenField? = none ↔ e.Lacks '\n' ∧ e.Lacks '\r' := by
  cases e with
  | listener l => exact Listener.brokenField?_lineFields_iff
  | pool p => exact Pool.brokenField?_lineFields_iff

/-- Carriage returns stand at the ends of lines only, where they are trimmed. -/
def ReturnsEndLines (text : String) : Prop := ∀ line ∈ lines text.toList, '\r' ∉ trim line

namespace Trial

variable {s : Scene Trial} {imported : String → Prop}

/-- A blank inside no line of a file does not come with what is imported. -/
theorem seedsOnly_lacks {c : Char} (hc : isBlank c = true) {text : String}
    (htext : ∀ line ∈ lines text.toList, c ∉ trim line) : SeedsOnly (Entity.Lacks c) text := by
  have hunderscore : c ≠ '_' := by
    rintro rfl
    cases hc
  intro ls ps hread
  obtain ⟨hls, hps⟩ := lacks_of_read hc htext hread
  refine ⟨fun l hl name hname => ?_, fun p hp name hname => ?_⟩
  · exact { hls l hl with name := not_mem_of_normalName? hname hunderscore (hls l hl).name }
  · exact { hps p hp with name := not_mem_of_normalName? hname hunderscore (hps p hp).name }

theorem SeedsOnly.and_imp {q q' : Entity → Prop} {fact : Prop} {text : String}
    (h : SeedsOnly q text) (h' : fact → SeedsOnly q' text) :
    SeedsOnly (fun e => q e ∧ (fact → q' e)) text := by
  intro ls ps hread
  obtain ⟨hls, hps⟩ := h ls ps hread
  refine ⟨fun l hl name hname => ⟨hls l hl name hname, fun hfact => ?_⟩,
    fun p hp name hname => ⟨hps p hp name hname, fun hfact => ?_⟩⟩
  · exact (h' hfact ls ps hread).1 l hl name hname
  · exact (h' hfact ls ps hread).2 p hp name hname

/-- **Nothing that is stored has a line feed in it, and nothing a carriage
return unless it was imported from the middle of a line.** In a run from an
empty store, with any port calls refused, any entities and patches, and any
files to import. The entity is the one that belongs under the key. -/
theorem lineFields_of_reachable (h : Reachable imported s) {key text : String}
    (hrecord : s.world.store.records.get? key = some text) :
    ∃ e : Entity, key = e.kind.key e.name ∧ Entity.ofText e.kind text = .ok e ∧ e.Lacks '\n' ∧
      ((∀ file, imported file → ReturnsEndLines file) →
        e.Lacks '\r' ∧ e.brokenField? = none) := by
  have hconsists : s.world.store.Consists fun e => e.Lacks '\n' ∧
      ((∀ file, imported file → ReturnsEndLines file) → e.Lacks '\r') := by
    refine consists_of_reachable (fun e hwhole => ?_) (fun file hfile => ?_) h
    · obtain ⟨hfeed, hreturn⟩ := Entity.brokenField?_eq_none_iff.mp hwhole
      exact ⟨hfeed, fun _ => hreturn⟩
    · have hfeed : ∀ line ∈ lines file.toList, '\n' ∉ trim line := fun line hline hmem =>
        not_mem_of_mem_lines hline (mem_of_mem_trim hmem)
      exact (seedsOnly_lacks rfl hfeed).and_imp fun hends => seedsOnly_lacks rfl (hends file hfile)
  obtain ⟨e, hkey, rfl, -, hfeed, hreturn⟩ := hconsists key text hrecord
  refine ⟨e, hkey, e.ofText_text, hfeed, fun hends => ⟨hreturn hends, ?_⟩⟩
  exact Entity.brokenField?_eq_none_iff.mpr ⟨hfeed, hreturn hends⟩

/-- A file with carriage returns before its line feeds. -/
def returning : Trial where
  file := some "frontend web\r\n  bind *:80\r\n"

theorem lineFields_of_reachable_returning :
    let s := (perform ((service .default).answer .importConfig) ⟨returning, []⟩).2
    Reachable (fun file => returning.file = some file) s ∧
      ∃ text e, s.world.store.records.get? "listener/web" = some text ∧
        "listener/web" = e.kind.key e.name ∧ Entity.ofText e.kind text = .ok e ∧
        e.Lacks '\n' ∧ e.Lacks '\r' ∧ e.brokenField? = none := by
  intro s
  have hreachable : Reachable (fun file => returning.file = some file) s :=
    (Reachable.start rfl).call .default .importConfig fun _ file hfile => hfile
  have hends : ∀ file, returning.file = some file → ReturnsEndLines file := by
    intro file hfile
    obtain rfl := Option.some.inj hfile
    unfold ReturnsEndLines
    decide +kernel
  have hsome : (s.world.store.records.get? "listener/web").isSome = true := by decide +kernel
  obtain ⟨text, htext⟩ := Option.isSome_iff_exists.mp hsome
  obtain ⟨e, hkey, hread, hfeed, hwhole⟩ := lineFields_of_reachable hreachable htext
  obtain ⟨hreturn, hnone⟩ := hwhole hends
  exact ⟨hreachable, text, e, htext, hkey, hread, hfeed, hreturn, hnone⟩

/-- A carriage return inside a line of the file. -/
def returningInside : Trial where
  file := some "frontend web\n  bind *:80\rmode tcp\n"

/-- An import stores what saving would refuse. -/
theorem brokenField?_imported :
    let l : Listener := { name := "web", bind := "*:80\rmode tcp" }
    let s := (perform ((service .default).answer .importConfig) ⟨returningInside, []⟩).2
    Reachable (fun _ => True) s ∧ s.world.store.text? .frontend "web" = some (Record.text l) ∧
      Record.brokenField? l = some "bind" ∧
      (perform ((service .default).answer (.save (.listener l))) s).1.map Reply.record? =
        .error (.lineBreak .frontend "bind") := by
  intro l s
  have hreachable : Reachable (fun _ => True) s :=
    (Reachable.start rfl).call .default .importConfig fun _ _ _ => trivial
  refine ⟨hreachable, ?_⟩
  decide +kernel

end Trial

end ProxySync
