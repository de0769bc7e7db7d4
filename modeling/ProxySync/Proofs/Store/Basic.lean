import ProxySync.Proofs.Entity.RoundTrip
import ProxySync.Store.Basic

/-!
# Reading and writing single records

`Store.get?` decodes the text under a key. A store in which that text is the
encoding of a record of the right name is what the service expects
(`Store.Holds`): the record reads back as it was written, and writing it
back puts the same text in its place.
-/

namespace ProxySync

/-! ## Keys -/

theorem Kind.key_injective {k k' : Kind} {name name' : String} (h : k.key name = k'.key name') :
    k = k' ∧ name = name' := by
  have hlist := congrArg String.toList h
  simp only [Kind.key, Kind.keyLead, String.toList_append] at hlist
  cases k <;> cases k' <;> simp [Kind.tag, String.toList_inj] at hlist
  · exact ⟨rfl, hlist⟩
  · exact ⟨rfl, hlist⟩

namespace Store

/-! ## Texts under keys -/

theorem text?_put (s : Store) (k k' : Kind) (name name' text : String) :
    (s.put k name text).text? k' name' =
      if k = k' ∧ name = name' then some text else s.text? k' name' := by
  rw [text?, put, Dict.get?_insert]
  by_cases h : k'.key name' = k.key name
  · obtain ⟨rfl, rfl⟩ := Kind.key_injective h
    simp
  · rw [if_neg h, if_neg fun hk => h (by rw [hk.1, hk.2])]
    rfl

theorem put_put_of_text? {s : Store} {k : Kind} {name old : String}
    (h : s.text? k name = some old) (text : String) :
    (s.put k name text).put k name old = s :=
  congrArg Store.mk (Dict.insert_insert_of_get? h text)

theorem remove_put_of_text? {s : Store} {k : Kind} {name : String}
    (h : s.text? k name = none) (text : String) : (s.put k name text).remove k name = s :=
  congrArg Store.mk (Dict.erase_insert_of_get? h text)

theorem put_remove_of_text? {s : Store} {k : Kind} {name old : String}
    (h : s.text? k name = some old) : (s.remove k name).put k name old = s :=
  congrArg Store.mk (Dict.insert_erase_of_get? h)

/-! ## Decoded records -/

variable {α : Type} [Record α]

theorem get?_of_none {s : Store} {name : String} (h : s.text? (Record.kind α) name = none) :
    (s.get? name : Except StoreFault (Option α)) = .ok none := by
  rw [get?, h]

theorem get?_of_some {s : Store} {name text : String}
    (h : s.text? (Record.kind α) name = some text) :
    (s.get? name : Except StoreFault (Option α)) =
      (decodeRecordText ((Record.kind α).key name) text).map some := by
  rw [get?, h]

theorem text?_of_get?_none {s : Store} {name : String}
    (h : (s.get? name : Except StoreFault (Option α)) = .ok none) :
    s.text? (Record.kind α) name = none := by
  cases htext : s.text? (Record.kind α) name with
  | none => rfl
  | some text =>
      rw [get?_of_some htext] at h
      cases hdec : (decodeRecordText ((Record.kind α).key name) text : Except StoreFault α) <;>
        rw [hdec] at h <;> cases h

/-- What is stored under the name, if anything, is the encoding of a record
that bears the name. -/
def Holds (α : Type) [Record α] (s : Store) (name : String) : Prop :=
  ∀ text, s.text? (Record.kind α) name = some text →
    ∃ a : α, Record.name a = name ∧ text = Record.text a

variable [LawfulRecord α]

/-- Reading a record that is in order finds the one whose encoding is stored. -/
theorem Holds.get?_eq {s : Store} {name : String} (h : s.Holds α name) :
    (s.text? (Record.kind α) name = none ∧
        (s.get? name : Except StoreFault (Option α)) = .ok none) ∨
      ∃ a : α, Record.name a = name ∧ s.text? (Record.kind α) name = some (Record.text a) ∧
        s.get? name = .ok (some a) := by
  cases htext : s.text? (Record.kind α) name with
  | none => exact Or.inl ⟨rfl, get?_of_none htext⟩
  | some text =>
      obtain ⟨a, hname, rfl⟩ := h text htext
      refine Or.inr ⟨a, hname, rfl, ?_⟩
      rw [get?_of_some htext, decodeRecordText, Record.ofText_text]
      rfl

end Store

end ProxySync
