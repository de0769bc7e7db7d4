import ProxySync.Proofs.Store.Scan
import ProxySync.Proofs.Text.Utf8
import ProxySync.Store.Table

/-!
# Reading a table

Reading all records of a kind goes from the lead of the kind to the first key
without it, and no further than the first record that does not decode. What
that gives is said here of any table and without the scan: the values under
all keys with the lead, by the bytes of the keys (`Dict.Span`), or the fault
under the smallest key that has one (`Dict.FirstFault`). A store is read like
the table of its bytes (`Store.all_eq_table`).
-/

namespace ProxySync

section Entries

variable {α β : Type} {d : Dict β} {lead : String} {decode : β → Except Json.Fault α}
  {l l' : List (String × β)}

namespace Dict

/-! ## What there is to read -/

/-- `l` are the entries whose keys start with `lead`, each of them once, by
the bytes of their keys. -/
structure Span (d : Dict β) (lead : String) (l : List (String × β)) : Prop where
  inByteOrder : l.Pairwise fun e e' => Text.utf8Bytes e.1 < Text.utf8Bytes e'.1
  mem_iff : ∀ key value,
    (key, value) ∈ l ↔ lead.toList <+: key.toList ∧ d.get? key = some value

/-- The value under `key`, which starts with `lead`, does not decode. -/
def FaultAt (d : Dict β) (lead : String) (decode : β → Except Json.Fault α) (key : String)
    (cause : Json.Fault) : Prop :=
  lead.toList <+: key.toList ∧ ∃ value, d.get? key = some value ∧ decode value = .error cause

/-- No key before `key` has a fault. -/
structure FirstFault (d : Dict β) (lead : String) (decode : β → Except Json.Fault α)
    (key : String) (cause : Json.Fault) : Prop where
  fault : d.FaultAt lead decode key cause
  least : ∀ key' cause', d.FaultAt lead decode key' cause' →
    Text.utf8Bytes key ≤ Text.utf8Bytes key'

/-- What reading the entries with `lead` has to answer. -/
structure Answers (d : Dict β) (lead : String) (decode : β → Except Json.Fault α)
    (answer : Except StoreFault (List α)) : Prop where
  ok_iff : ∀ as, answer = .ok as ↔
    ∃ l, d.Span lead l ∧ List.Forall₂ (fun e a => decode e.2 = .ok a) l as
  fails_iff : (∃ fault, answer = .error fault) ↔ ∃ key cause, d.FaultAt lead decode key cause
  error_iff : ∀ fault, answer = .error fault ↔
    ∃ key cause, fault = .undecodable key cause ∧ d.FirstFault lead decode key cause

/-! ## Spans -/

namespace Span

theorem inKeyOrder (h : d.Span lead l) : InKeyOrder l :=
  h.inByteOrder.imp Text.utf8Bytes_lt_iff.mp

theorem unique (h : d.Span lead l) (h' : d.Span lead l') : l = l' :=
  h.inKeyOrder.ext h'.inKeyOrder fun e => (h.mem_iff e.1 e.2).trans (h'.mem_iff e.1 e.2).symm

theorem faultAt_iff (h : d.Span lead l) {key : String} {cause : Json.Fault} :
    d.FaultAt lead decode key cause ↔ ∃ value, (key, value) ∈ l ∧ decode value = .error cause := by
  constructor
  · rintro ⟨hlead, value, hvalue, hcause⟩
    exact ⟨value, (h.mem_iff key value).mpr ⟨hlead, hvalue⟩, hcause⟩
  · rintro ⟨value, hmem, hcause⟩
    obtain ⟨hlead, hvalue⟩ := (h.mem_iff key value).mp hmem
    exact ⟨hlead, value, hvalue, hcause⟩

end Span

/-- **From the lead to the first key without it stand all keys with the lead.** -/
theorem span_entriesFrom (d : Dict β) (lead : String) :
    d.Span lead (Store.entriesFrom lead d.entries) where
  inByteOrder := by
    rw [entriesFrom_eq_filter d.inKeyOrder]
    exact (d.inKeyOrder.filter _).imp Text.utf8Bytes_lt
  mem_iff key value := by
    rw [entriesFrom_eq_filter d.inKeyOrder, List.mem_filter, mem_entries_iff, startsWith_iff,
      and_comm]

example :
    Store.entriesFrom "pool/" [("listener/z", 0), ("pool", 1), ("pool.", 2), ("pool/", 3),
      ("pool/a", 4), ("pool/é", 5), ("pool0", 6)] =
      [("pool/", 3), ("pool/a", 4), ("pool/é", 5)] := by
  decide

end Dict

/-! ## Decoding the values -/

theorem decodeAll_eq_ok_iff {as : List α} :
    decodeAll decode l = .ok as ↔ List.Forall₂ (fun e a => decode e.2 = .ok a) l as := by
  simp only [decodeAll, mapM_eq_ok_iff, mapError_eq_ok_iff]

theorem exists_decodeAll_iff :
    (∃ as, decodeAll decode l = .ok as) ↔ ∀ e ∈ l, ∃ a, decode e.2 = .ok a := by
  simp only [decodeAll, exists_mapM_eq_ok_iff, mapError_eq_ok_iff]

theorem decodeAll_eq_error_iff {fault : StoreFault} :
    decodeAll decode l = .error fault ↔
      ∃ before key value after cause, l = before ++ (key, value) :: after ∧
        (∀ e ∈ before, ∃ a, decode e.2 = .ok a) ∧ decode value = .error cause ∧
        fault = .undecodable key cause := by
  simp only [decodeAll, mapM_eq_error_iff, mapError_eq_ok_iff, mapError_eq_error_iff]
  constructor
  · rintro ⟨before, ⟨key, value⟩, after, hl, hbefore, cause, hcause, hfault⟩
    exact ⟨before, key, value, after, cause, hl, hbefore, hcause, hfault⟩
  · rintro ⟨before, key, value, after, cause, hl, hbefore, hcause, hfault⟩
    exact ⟨before, (key, value), after, hl, hbefore, cause, hcause, hfault⟩

namespace Dict

/-- Where a span is cut at a fault, it is the first one just when all values
in front of it decode. -/
theorem Span.firstFault_iff {before after : List (String × β)} {key : String} {value : β}
    {cause : Json.Fault} (h : d.Span lead (before ++ (key, value) :: after))
    (hcause : decode value = .error cause) :
    d.FirstFault lead decode key cause ↔ ∀ e ∈ before, ∃ a, decode e.2 = .ok a := by
  have horder := List.pairwise_append.mp h.inByteOrder
  constructor
  · intro hfirst e he
    cases hdecode : decode e.2 with
    | ok a => exact ⟨a, rfl⟩
    | error cause' =>
        -- A fault in front of the first one would have a smaller key.
        have hlt := horder.2.2 e he _ List.mem_cons_self
        have hle := hfirst.least e.1 cause'
          (h.faultAt_iff.mpr ⟨e.2, List.mem_append_left _ he, hdecode⟩)
        exact absurd hlt hle
  · intro hbefore
    refine ⟨h.faultAt_iff.mpr ⟨value, by simp, hcause⟩, fun key' cause' hfault => ?_⟩
    obtain ⟨value', hmem, hcause'⟩ := h.faultAt_iff.mp hfault
    rcases List.mem_append.mp hmem with hfront | hrest
    · obtain ⟨a, ha⟩ := hbefore _ hfront
      cases hcause'.symm.trans ha
    · rcases List.mem_cons.mp hrest with hhere | hback
      · rw [(Prod.mk.inj hhere).1]
        exact List.le_refl _
      · have hlt := List.rel_of_pairwise_cons horder.2.1 hback
        exact List.le_of_lt hlt

theorem Span.error_iff (h : d.Span lead l) {fault : StoreFault} :
    decodeAll decode l = .error fault ↔
      ∃ key cause, fault = .undecodable key cause ∧ d.FirstFault lead decode key cause := by
  rw [decodeAll_eq_error_iff]
  constructor
  · rintro ⟨before, key, value, after, cause, rfl, hbefore, hcause, rfl⟩
    exact ⟨key, cause, rfl, (h.firstFault_iff hcause).mpr hbefore⟩
  · rintro ⟨key, cause, rfl, hfirst⟩
    obtain ⟨value, hmem, hcause⟩ := h.faultAt_iff.mp hfirst.fault
    obtain ⟨before, after, rfl⟩ := List.append_of_mem hmem
    exact ⟨before, key, value, after, cause, rfl, (h.firstFault_iff hcause).mp hfirst, hcause, rfl⟩

theorem Span.fails_iff (h : d.Span lead l) :
    (∃ fault, decodeAll decode l = .error fault) ↔
      ∃ key cause, d.FaultAt lead decode key cause := by
  constructor
  · rintro ⟨fault, hfault⟩
    obtain ⟨key, cause, -, hfirst⟩ := h.error_iff.mp hfault
    exact ⟨key, cause, hfirst.fault⟩
  · rintro ⟨key, cause, hfault⟩
    obtain ⟨value, hmem, hcause⟩ := h.faultAt_iff.mp hfault
    cases hanswer : decodeAll decode l with
    | error fault => exact ⟨fault, rfl⟩
    | ok as =>
        obtain ⟨a, ha⟩ := exists_decodeAll_iff.mp ⟨as, hanswer⟩ _ hmem
        cases hcause.symm.trans ha

theorem answers_decodeAll (d : Dict β) (lead : String) (decode : β → Except Json.Fault α) :
    d.Answers lead decode (decodeAll decode (Store.entriesFrom lead d.entries)) where
  ok_iff as := by
    have hspan := d.span_entriesFrom lead
    rw [decodeAll_eq_ok_iff]
    constructor
    · exact fun hall => ⟨_, hspan, hall⟩
    · rintro ⟨l, hl, hall⟩
      rwa [hspan.unique hl]
  fails_iff := (d.span_entriesFrom lead).fails_iff
  error_iff _ := (d.span_entriesFrom lead).error_iff

end Dict

end Entries

/-! ## Tables and stores -/

section Tables

variable {α β γ : Type} [Record α]

theorem Record.ofBytes_utf8Bytes (text : String) :
    (Record.ofBytes (Text.utf8Bytes text) : Except Json.Fault α) = Record.ofText text := by
  rw [Record.ofBytes, Text.readUtf8_utf8Bytes]
  rfl

theorem Store.entriesFrom_map (lead : String) (f : β → γ) (l : List (String × β)) :
    entriesFrom lead (l.map fun e => (e.1, f e.2)) =
      (entriesFrom lead l).map fun e => (e.1, f e.2) := by
  rw [entriesFrom, List.dropWhile_map, List.takeWhile_map]
  rfl

theorem Store.all_eq_table (s : Store) : (s.all : Except StoreFault (List α)) = s.table.all := by
  rw [Table.all, Store.table, Dict.map, Store.entriesFrom_map, decodeAll, List.mapM_map]
  simp only [Function.comp_def, Record.ofBytes_utf8Bytes]
  rfl

/-- **Reading all records of a kind finds exactly the records under the keys
that start with its lead, by the bytes of the keys, and fails under the
smallest of these keys whose record does not decode.** -/
theorem Table.answers_all :
    (∀ t : Table, t.records.Answers (Record.kind α).keyLead Record.ofBytes
      (t.all : Except StoreFault (List α))) ∧
      ∀ s : Store, (s.all : Except StoreFault (List α)) = s.table.all :=
  ⟨fun t => t.records.answers_decodeAll _ _, Store.all_eq_table⟩

end Tables

end ProxySync
