import Mathlib.Data.Set.List
import ProxySync.Proofs.Store.Basic
import ProxySync.Proofs.Text.ByteOrder
import ProxySync.Proofs.Traversal

/-!
# Reading all records of a kind

A scan starts at the lead of a kind and stops at the first key that does not
start with it. Keys with a common lead stand next to each other in any list
in key order, so a scan finds all records of its kind (`mem_scan`). When
they are in order, `Store.all` gives the stored entities themselves, by the
bytes of their names (`exists_stock`).
-/

namespace ProxySync

/-! ## Keys with a common lead -/

theorem startsWith_iff {lead key : String} :
    Store.startsWith lead key = true ↔ lead.toList <+: key.toList :=
  List.isPrefixOf_iff_prefix

theorem not_lt_of_prefix {a lead : List Char} (h : lead <+: a) : ¬ a < lead := by
  obtain ⟨rest, rfl⟩ := h
  induction lead with
  | nil => exact List.not_lt_nil _
  | cons c lead ih =>
      intro hlt
      rcases List.cons_lt_cons_iff.mp hlt with hc | ⟨-, htail⟩
      · exact absurd hc (Char.lt_irrefl c)
      · exact ih htail

/-- A text from `lead` upwards that is below one with this lead has it too. -/
theorem prefix_of_lt {lead a b : List Char} (ha : ¬ a < lead) (hab : a < b) (hb : lead <+: b) :
    lead <+: a := by
  induction lead generalizing a b with
  | nil => exact List.nil_prefix
  | cons c lead ih =>
      obtain ⟨rest, rfl⟩ := hb
      cases a with
      | nil => exact absurd (List.nil_lt_cons c lead) ha
      | cons d a =>
          rw [List.cons_lt_cons_iff, not_or, not_and] at ha
          rcases List.cons_lt_cons_iff.mp hab with hdc | ⟨rfl, htail⟩
          · exact absurd hdc ha.1
          · exact List.cons_prefix_cons.mpr
              ⟨rfl, ih (ha.2 rfl) htail (List.prefix_append lead rest)⟩

theorem lt_of_append_lt {lead a b : List Char} (h : lead ++ a < lead ++ b) : a < b := by
  induction lead with
  | nil => exact h
  | cons c lead ih =>
      rcases List.cons_lt_cons_iff.mp h with hc | ⟨-, htail⟩
      · exact absurd hc (Char.lt_irrefl c)
      · exact ih htail

theorem Kind.lt_of_key_lt {k : Kind} {name name' : String} (h : k.key name < k.key name') :
    name < name' := by
  have hlist : (k.key name).toList < (k.key name').toList := h
  simp only [Kind.key, String.toList_append] at hlist
  exact lt_of_append_lt hlist

/-! ## Scans -/

section Entries

variable {β : Type} {l : List (String × β)} {lead : String}

theorem takeWhile_startsWith (hl : InKeyOrder l) (hlead : ∀ e ∈ l, ¬ e.1 < lead) :
    (l.takeWhile fun e => Store.startsWith lead e.1) =
      l.filter fun e => Store.startsWith lead e.1 := by
  induction l with
  | nil => rfl
  | cons a l ih =>
      obtain ⟨ha, htail⟩ := List.pairwise_cons.mp hl
      rw [List.takeWhile_cons, List.filter_cons]
      split
      · rw [ih htail fun e he => hlead e (List.mem_cons_of_mem _ he)]
      · next hstart =>
        -- Past a key without the lead no key has it.
        refine (List.filter_eq_nil_iff.mpr fun e he hstart' => hstart ?_).symm
        exact startsWith_iff.mpr
          (prefix_of_lt (hlead a List.mem_cons_self) (ha e he) (startsWith_iff.mp hstart'))

theorem entriesFrom_eq_filter (hl : InKeyOrder l) :
    Store.entriesFrom lead l = l.filter fun e => Store.startsWith lead e.1 := by
  unfold Store.entriesFrom
  induction l with
  | nil => rfl
  | cons a l ih =>
      obtain ⟨ha, htail⟩ := List.pairwise_cons.mp hl
      rw [List.dropWhile_cons]
      split
      · next hlt =>
        have hstart : ¬ Store.startsWith lead a.1 = true := fun h =>
          not_lt_of_prefix (startsWith_iff.mp h) (of_decide_eq_true hlt)
        rw [List.filter_cons, if_neg hstart, ih htail]
      · next hlt =>
        have hlead : ¬ a.1 < lead := fun h => hlt (decide_eq_true h)
        refine takeWhile_startsWith hl fun e he => ?_
        rcases List.mem_cons.mp he with rfl | he
        · exact hlead
        · exact fun h => hlead (String.lt_trans (ha e he) h)

end Entries

namespace Store

theorem scan_eq_filter (s : Store) (k : Kind) :
    s.scan k = s.records.entries.filter fun e => startsWith k.keyLead e.1 :=
  entriesFrom_eq_filter s.records.inKeyOrder

/-- **A scan finds the records of its kind and no others.** -/
theorem mem_scan {s : Store} {k : Kind} {key text : String} :
    (key, text) ∈ s.scan k ↔ ∃ name, key = k.key name ∧ s.text? k name = some text := by
  rw [scan_eq_filter, List.mem_filter, Dict.mem_entries_iff, startsWith_iff]
  constructor
  · rintro ⟨htext, rest, hrest⟩
    have hkey : key = k.key (String.ofList rest) := by
      rw [← String.toList_inj, ← hrest]
      simp [Kind.key]
    exact ⟨String.ofList rest, hkey, by rw [← htext, hkey]; rfl⟩
  · rintro ⟨name, rfl, htext⟩
    exact ⟨htext, name.toList, by simp [Kind.key]⟩

theorem inKeyOrder_scan (s : Store) (k : Kind) : InKeyOrder (s.scan k) := by
  rw [scan_eq_filter]
  exact s.records.inKeyOrder.filter _

/-! ## Stored entities -/

variable {α : Type} [Record α]

theorem decodeRecordText_eq_ok_iff {key text : String} {a : α} :
    decodeRecordText key text = .ok a ↔ Record.ofText text = .ok a :=
  mapError_eq_ok_iff

/-- Reading all records of a kind goes through when each of them decodes. -/
theorem exists_all_iff {s : Store} :
    (∃ as : List α, s.all = .ok as) ↔
      ∀ name text, s.text? (Record.kind α) name = some text →
        ∃ a : α, Record.ofText text = .ok a := by
  unfold all
  rw [exists_mapM_eq_ok_iff]
  constructor
  · intro h name text htext
    obtain ⟨a, ha⟩ := h _ (mem_scan.mpr ⟨name, rfl, htext⟩)
    exact ⟨a, decodeRecordText_eq_ok_iff.mp ha⟩
  · rintro h ⟨key, text⟩ he
    obtain ⟨name, -, htext⟩ := mem_scan.mp he
    obtain ⟨a, ha⟩ := h name text htext
    exact ⟨a, decodeRecordText_eq_ok_iff.mpr ha⟩

/-- `as` are the stored entities of their kind, each of them once, by the
bytes of their names. -/
structure Stock (s : Store) (as : List α) : Prop where
  inByteOrder :
    as.Pairwise fun a b => Text.utf8Bytes (Record.name a) < Text.utf8Bytes (Record.name b)
  mem_iff : ∀ a : α, a ∈ as ↔ s.text? (Record.kind α) (Record.name a) = some (Record.text a)

theorem scan_eq_map {s : Store} (h : ∀ name, s.Holds α name) :
    ∃ as : List α, s.scan (Record.kind α) = as.map fun a => (Record.key a, Record.text a) := by
  have hscan : s.scan (Record.kind α) ∈
      Set.range (List.map fun a : α => (Record.key a, Record.text a)) := by
    rw [Set.range_list_map]
    rintro ⟨key, text⟩ he
    obtain ⟨name, rfl, htext⟩ := mem_scan.mp he
    obtain ⟨a, rfl, rfl⟩ := h name text htext
    exact ⟨a, rfl⟩
  obtain ⟨as, has⟩ := hscan
  exact ⟨as, has.symm⟩

variable [LawfulRecord α]

/-- **When the records of a kind are in order, reading all of them gives the
stored entities by the bytes of their names.** -/
theorem exists_stock {s : Store} (h : ∀ name, s.Holds α name) :
    ∃ as : List α, s.all = .ok as ∧ s.Stock as := by
  obtain ⟨as, hscan⟩ := scan_eq_map h
  refine ⟨as, ?_, ?_, fun a => ⟨fun ha => ?_, fun ha => ?_⟩⟩
  · rw [all, hscan]
    refine mapM_map_eq_ok (fun a => ?_) as
    exact decodeRecordText_eq_ok_iff.mpr (Record.ofText_text a)
  · have horder := s.inKeyOrder_scan (Record.kind α)
    rw [hscan, InKeyOrder, List.pairwise_map] at horder
    exact horder.imp fun hab => Text.utf8Bytes_lt (Kind.lt_of_key_lt hab)
  · have hmem : (Record.key a, Record.text a) ∈ s.scan (Record.kind α) := by
      rw [hscan]
      exact List.mem_map_of_mem ha
    obtain ⟨name, hkey, htext⟩ := mem_scan.mp hmem
    rwa [← (Kind.key_injective hkey).2] at htext
  · have hmem := mem_scan.mpr ⟨Record.name a, rfl, ha⟩
    rw [hscan] at hmem
    obtain ⟨b, hb, hab⟩ := List.mem_map.mp hmem
    rwa [← Record.text_injective (Prod.mk.inj hab).2]

end Store

end ProxySync
