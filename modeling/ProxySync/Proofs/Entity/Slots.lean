import Mathlib.Data.List.Nodup
import ProxySync.Proofs.Entity.RoundTrip

/-!
# Records by their slots

A record is told by its slots: what stands in each of them is read and
written without regard to the others (`Slot.Lawful`). A record that is
decoded from an object has in each slot what the object has under its name
there, and where the object has nothing, what was there before
(`decodeFields_slots_iff`). So there is at most one such record, and there
is one when all these values decode (`Slot.Lawful.existsUnique_takes`).
-/

namespace ProxySync

open Json

/-! ## Slots -/

/-- A field of a record: the name it has in encodings, the decoder of its
values, and how it is read and written. -/
structure Slot (ρ : Type) where
  {α : Type}
  name : String
  decode : Draft → Except Fault α
  get : ρ → α
  set : ρ → α → ρ

namespace Slot

variable {ρ : Type}

def field (slot : Slot ρ) : Json.Field ρ := fieldOf slot.name slot.decode slot.set

/-- The slot is decoded from a value if there is one, and kept if there is
none. -/
structure Takes (slot : Slot ρ) (value? : Option Json) (r r' : ρ) : Prop where
  taken : ∀ value, value? = some value → slot.decode value.draft = .ok (slot.get r')
  kept : value? = none → slot.get r' = slot.get r

variable {slot : Slot ρ} {value? : Option Json} {value : Json} {r r' r₁ : ρ}

theorem takes_some_iff :
    slot.Takes (some value) r r' ↔ slot.decode value.draft = .ok (slot.get r') :=
  ⟨fun h => h.taken value rfl, fun h => ⟨fun _ hvalue => Option.some.inj hvalue ▸ h, nofun⟩⟩

theorem takes_none_iff : slot.Takes none r r' ↔ slot.get r' = slot.get r :=
  ⟨fun h => h.kept rfl, fun h => ⟨nofun, fun _ => h⟩⟩

/-- What a slot takes depends on nothing else in the record before. -/
theorem takes_congr_left (h : slot.get r₁ = slot.get r) :
    slot.Takes value? r₁ r' ↔ slot.Takes value? r r' := by
  cases value? with
  | none => rw [takes_none_iff, takes_none_iff, h]
  | some value => rw [takes_some_iff, takes_some_iff]

theorem takes_congr_right (h : slot.get r₁ = slot.get r') :
    slot.Takes value? r r₁ ↔ slot.Takes value? r r' := by
  cases value? with
  | none => rw [takes_none_iff, takes_none_iff, h]
  | some value => rw [takes_some_iff, takes_some_iff, h]

theorem Takes.unique (h : slot.Takes value? r r') (h₁ : slot.Takes value? r r₁) :
    slot.get r' = slot.get r₁ := by
  cases value? with
  | none => exact (takes_none_iff.mp h).trans (takes_none_iff.mp h₁).symm
  | some value =>
      exact Except.ok.inj ((takes_some_iff.mp h).symm.trans (takes_some_iff.mp h₁))

/-! ## Records -/

/-- What is written to a slot is read from it, and from no other. -/
structure Independent (slots : List (Slot ρ)) : Prop where
  nodup_names : (slots.map name).Nodup
  get_set : ∀ slot ∈ slots, ∀ r a, slot.get (slot.set r a) = a
  get_set_of_ne : ∀ slot ∈ slots, ∀ slot' ∈ slots, slot.name ≠ slot'.name →
    ∀ r a, slot'.get (slot.set r a) = slot'.get r

/-- The slots are independent, and all there is to a record. -/
structure Lawful (slots : List (Slot ρ)) : Prop extends Independent slots where
  ext : ∀ r r', (∀ slot ∈ slots, slot.get r = slot.get r') → r = r'

variable {slots : List (Slot ρ)}

theorem Independent.of_cons (h : Independent (slot :: slots)) : Independent slots where
  nodup_names := (List.nodup_cons.mp h.nodup_names).2
  get_set slot' hslot' := h.get_set slot' (List.mem_cons_of_mem _ hslot')
  get_set_of_ne slot' hslot' slot'' hslot'' :=
    h.get_set_of_ne slot' (List.mem_cons_of_mem _ hslot') slot'' (List.mem_cons_of_mem _ hslot'')

theorem Independent.eq_of_name_eq (h : Independent slots) {slot slot' : Slot ρ}
    (hslot : slot ∈ slots) (hslot' : slot' ∈ slots) (hname : slot.name = slot'.name) :
    slot = slot' :=
  List.inj_on_of_nodup_map h.nodup_names hslot hslot' hname

/-- Whatever decodes can be taken. -/
theorem Independent.exists_takes (h : Independent slots) {value? : String → Option Json}
    (hvalues : ∀ slot ∈ slots, ∀ value, value? slot.name = some value →
      ∃ a, slot.decode value.draft = .ok a) (r : ρ) :
    ∃ r', ∀ slot ∈ slots, slot.Takes (value? slot.name) r r' := by
  induction slots with
  | nil => exact ⟨r, List.forall_mem_nil _⟩
  | cons slot slots ih =>
      obtain ⟨hslot, hslots⟩ := List.forall_mem_cons.mp hvalues
      obtain ⟨r₁, hr₁⟩ := ih h.of_cons hslots
      obtain ⟨a, ha⟩ : ∃ a, ∀ r', slot.get r' = a → slot.Takes (value? slot.name) r r' := by
        cases hvalue : value? slot.name with
        | none => exact ⟨slot.get r, fun r' hr' => takes_none_iff.mpr hr'⟩
        | some value =>
            obtain ⟨a, ha⟩ := hslot value hvalue
            exact ⟨a, fun r' hr' => takes_some_iff.mpr (hr' ▸ ha)⟩
      -- The slot is written last, also where it is kept: the others cannot have touched it then.
      refine ⟨slot.set r₁ a, List.forall_mem_cons.mpr ⟨?_, fun slot' hslot' => ?_⟩⟩
      · exact ha _ (h.get_set slot List.mem_cons_self r₁ a)
      · have hne : slot.name ≠ slot'.name := fun hname =>
          (List.nodup_cons.mp h.nodup_names).1 (List.mem_map.mpr ⟨slot', hslot', hname.symm⟩)
        have hget : slot'.get (slot.set r₁ a) = slot'.get r₁ :=
          h.get_set_of_ne slot List.mem_cons_self slot' (List.mem_cons_of_mem _ hslot') hne r₁ a
        exact (takes_congr_right hget).mpr (hr₁ slot' hslot')

/-- **There is just one record with the given values in its slots**, when they
decode. -/
theorem Lawful.existsUnique_takes (h : Lawful slots) {value? : String → Option Json}
    (hvalues : ∀ slot ∈ slots, ∀ value, value? slot.name = some value →
      ∃ a, slot.decode value.draft = .ok a) (r : ρ) :
    ∃! r', ∀ slot ∈ slots, slot.Takes (value? slot.name) r r' := by
  obtain ⟨r', hr'⟩ := h.exists_takes hvalues r
  refine ⟨r', hr', fun r₁ hr₁ => ?_⟩
  exact h.ext r₁ r' fun slot hslot => (hr₁ slot hslot).unique (hr' slot hslot)

/-! ## Decoding -/

theorem find?_field_eq_none {key : String} (hkey : ∀ slot ∈ slots, slot.name ≠ key) :
    (slots.map field).find? (·.name == key) = none := by
  rw [List.find?_eq_none, List.forall_mem_map]
  intro slot hslot
  simpa [field, fieldOf] using hkey slot hslot

theorem Independent.find?_field (h : Independent slots) (hslot : slot ∈ slots) :
    (slots.map field).find? (·.name == slot.name) = some slot.field := by
  obtain ⟨found, hfound⟩ : ∃ found, (slots.map field).find? (·.name == slot.name) = some found := by
    rw [← Option.isSome_iff_exists, List.find?_isSome]
    exact ⟨slot.field, List.mem_map_of_mem hslot, by simp [field, fieldOf]⟩
  obtain ⟨slot', hslot', rfl⟩ := List.mem_map.mp (List.mem_of_find?_eq_some hfound)
  have hname : slot'.name = slot.name := by
    simpa [field, fieldOf] using List.find?_some hfound
  rw [hfound, h.eq_of_name_eq hslot' hslot hname]

end Slot

theorem Json.isWhole_draft (value : Json) : value.draft.isWhole = true := by
  cases value <;> rfl

section Decoding

variable {ρ : Type} {slots : List (Slot ρ)} {slot : Slot ρ} {seen : List String} {r r' : ρ}
  {rest : List (Option String × Draft)}

/-- A field that the record does not have is passed over. -/
theorem decodeFields_unknown {key : String} (hkey : ∀ slot ∈ slots, slot.name ≠ key)
    (value : Json) :
    decodeFields (slots.map Slot.field) seen ((some key, value.draft) :: rest) r =
      decodeFields (slots.map Slot.field) seen rest r := by
  rw [decodeFields, Slot.find?_field_eq_none hkey]
  simp only [value.isWhole_draft, if_true]

/-- A field whose value does not decode ends the record. -/
theorem decodeFields_mismatch (h : Slot.Independent slots) (hslot : slot ∈ slots) {d : Draft}
    {fault : Fault} (hd : slot.decode d = .error fault) :
    decodeFields (slots.map Slot.field) seen ((some slot.name, d) :: rest) r ≠ .ok r' := by
  have hput : slot.field.put d r = .error fault := by
    simp only [Slot.field, fieldOf, hd]
    rfl
  rw [decodeFields, h.find?_field hslot]
  simp only [hput]
  split
  · intro heq
    cases heq
  · intro heq
    cases heq

/-- **A record is decoded slot by slot.** -/
theorem decodeFields_slots_iff (h : Slot.Lawful slots) {fields : List (String × Json)}
    (hnodup : (fields.map (·.1)).Nodup) (hseen : ∀ key ∈ seen, key ∉ fields.map (·.1)) :
    decodeFields (slots.map Slot.field) seen (draftFields fields) r = .ok r' ↔
      ∀ slot ∈ slots, slot.Takes (fields.lookup slot.name) r r' := by
  induction fields generalizing seen r with
  | nil =>
      simp only [List.lookup_nil, Slot.takes_none_iff]
      rw [draftFields, decodeFields, Except.ok.injEq]
      constructor
      · rintro rfl slot -
        rfl
      · intro hget
        exact h.ext r r' fun slot hslot => (hget slot hslot).symm
  | cons f fields ih =>
      obtain ⟨key, value⟩ := f
      obtain ⟨hkey, hfields⟩ := List.nodup_cons.mp hnodup
      have hseen' : ∀ key' ∈ seen, key' ∉ fields.map (·.1) := fun key' hmem hmem' =>
        hseen key' hmem (List.mem_cons_of_mem _ hmem')
      simp only [lookup_entry_cons]
      rw [draftFields]
      by_cases hknown : ∃ slot ∈ slots, slot.name = key
      · obtain ⟨slot, hslot, rfl⟩ := hknown
        cases hdecode : slot.decode value.draft with
        | error fault =>
            refine iff_of_false ?_ fun htakes => ?_
            · exact decodeFields_mismatch h.toIndependent hslot hdecode
            have htaken := htakes slot hslot
            rw [if_pos rfl, Slot.takes_some_iff, hdecode] at htaken
            cases htaken
        | ok a =>
            have hfirst : seen.contains slot.name = false := by
              rw [List.contains_eq_mem, decide_eq_false_iff_not]
              exact fun hmem => hseen _ hmem List.mem_cons_self
            rw [decodeFields_known (h.find?_field hslot) hfirst hdecode,
              ih hfields (List.forall_mem_cons.mpr ⟨hkey, hseen'⟩)]
            refine forall₂_congr fun slot' hslot' => ?_
            by_cases hname : slot'.name = slot.name
            -- No later field has this name, so the slot keeps what was decoded here.
            · obtain rfl := h.eq_of_name_eq hslot' hslot hname
              have hnone : fields.lookup slot'.name = none := lookup_eq_none_of_not_mem hkey
              rw [if_pos rfl, hnone, Slot.takes_none_iff, Slot.takes_some_iff, hdecode,
                h.get_set slot' hslot' r a, Except.ok.injEq, eq_comm]
            · have hget : slot'.get (slot.set r a) = slot'.get r :=
                h.get_set_of_ne slot hslot slot' hslot' (Ne.symm hname) r a
              rw [if_neg hname, Slot.takes_congr_left hget]
      · have hunknown : ∀ slot ∈ slots, slot.name ≠ key := fun slot hslot hname =>
          hknown ⟨slot, hslot, hname⟩
        rw [decodeFields_unknown hunknown, ih hfields hseen']
        refine forall₂_congr fun slot hslot => ?_
        rw [if_neg (hunknown slot hslot)]

end Decoding

end ProxySync
