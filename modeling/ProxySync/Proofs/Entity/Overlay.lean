import ProxySync.Proofs.Entity.Slots
import ProxySync.Proofs.Store.Entities
import ProxySync.Sync.Patch

/-!
# Patched entities

A patch is laid over the encoding of an entity, and what comes of it is
decoded. Seen from the fields of the entity this is simple: those that the
patch names are decoded from its values, the others are as they were, and
the name stays (`Record.patched_eq_ok_iff`). Nothing else in a patch matters,
so one patch after the other is one patch (`Record.Overlaid.trans`).
-/

namespace ProxySync

open Json

/-! ## Values under keys -/

/-- The value under a key; of fields with the same key the last stands. -/
def valueOf? (fields : List (String × Json)) (key : String) : Option Json :=
  fields.reverse.lookup key

section Values

variable {fields patch : List (String × Json)} {key : String}

theorem valueOf?_append :
    valueOf? (fields ++ patch) key = (valueOf? patch key).or (valueOf? fields key) := by
  rw [valueOf?, List.reverse_append, List.lookup_append]
  rfl

theorem inOrder_concat (fields : List (String × Json)) (f : String × Json) :
    inOrder (fields ++ [f]) = insertEntry f.1 f.2 (inOrder fields) := by
  rw [inOrder, List.foldl_append]
  rfl

theorem lookup_inOrder (fields : List (String × Json)) (key : String) :
    (inOrder fields).lookup key = valueOf? fields key := by
  induction fields using List.reverseRecOn with
  | nil => rfl
  | append_singleton fields f ih =>
      rw [inOrder_concat, lookup_insertEntry, ih, valueOf?, valueOf?, List.reverse_concat,
        lookup_entry_cons]

theorem inKeyOrder_inOrder (fields : List (String × Json)) : InKeyOrder (inOrder fields) := by
  induction fields using List.reverseRecOn with
  | nil => exact List.Pairwise.nil
  | append_singleton fields f ih =>
      rw [inOrder_concat]
      exact inKeyOrder_insertEntry ih

/-- Where no key comes twice it makes no difference which one stands. -/
theorem valueOf?_of_nodup (h : (fields.map (·.1)).Nodup) :
    valueOf? fields key = fields.lookup key := by
  induction fields with
  | nil => rfl
  | cons f fields ih =>
      obtain ⟨hf, hfields⟩ := List.nodup_cons.mp h
      rw [← List.singleton_append, valueOf?_append, ih hfields, List.lookup_append]
      by_cases hkey : key = f.1
      · rw [hkey, lookup_eq_none_of_not_mem hf]
        simp [valueOf?]
      · have hother : valueOf? [f] key = none := by
          rw [valueOf?, List.reverse_singleton, lookup_entry_cons, if_neg hkey]
          rfl
        have hother' : [f].lookup key = none := hother
        rw [hother, hother', Option.or_none, Option.none_or]

/-- An object with its fields in order has the same values. -/
theorem valueOf?_inOrder : valueOf? (inOrder fields) key = valueOf? fields key := by
  rw [valueOf?_of_nodup (inKeyOrder_inOrder fields).nodup_keys, lookup_inOrder]

end Values

/-! ## The slots of entities -/

def Listener.slots : List (Slot Listener) := [
  ⟨"name", decodeString, Listener.name, fun l s => { l with name := s }⟩,
  ⟨"bind", decodeString, Listener.bind, fun l s => { l with bind := s }⟩,
  ⟨"defaultBackend", decodeString, Listener.defaultBackend,
    fun l s => { l with defaultBackend := s }⟩,
  ⟨"mode", decodeString, Listener.mode, fun l s => { l with mode := s }⟩,
  ⟨"keepalive", decodeString, Listener.keepAlive, fun l s => { l with keepAlive := s }⟩,
  ⟨"option", decodeString, Listener.option, fun l s => { l with option := s }⟩,
  ⟨"rules", decodeList decodeString, Listener.rules, fun l rules => { l with rules := rules }⟩,
  ⟨"meta", decodeMetadata, Listener.metadata, fun l d => { l with metadata := d }⟩]

def Pool.slots : List (Slot Pool) := [
  ⟨"name", decodeString, Pool.name, fun p s => { p with name := s }⟩,
  ⟨"version", decodeString, Pool.version, fun p s => { p with version := s }⟩,
  ⟨"balance", decodeString, Pool.balance, fun p s => { p with balance := s }⟩,
  ⟨"host", decodeString, Pool.host, fun p s => { p with host := s }⟩,
  ⟨"mode", decodeString, Pool.mode, fun p s => { p with mode := s }⟩,
  ⟨"members", decodeList (Member.decode .value), Pool.members,
    fun p ms => { p with members := ms }⟩,
  ⟨"meta", decodeMetadata, Pool.metadata, fun p d => { p with metadata := d }⟩]

theorem Listener.lawful_slots : Slot.Lawful Listener.slots where
  nodup_names := by decide
  get_set := by simp [Listener.slots]
  get_set_of_ne := by simp [Listener.slots]
  ext := by
    rintro ⟨⟩ ⟨⟩ h
    simpa [Listener.slots] using h

theorem Pool.lawful_slots : Slot.Lawful Pool.slots where
  nodup_names := by decide
  get_set := by simp [Pool.slots]
  get_set_of_ne := by simp [Pool.slots]
  ext := by
    rintro ⟨⟩ ⟨⟩ h
    simpa [Pool.slots] using h

/-- A record that is decoded and encoded slot by slot, its name like all else. -/
class SlotRecord (α : Type) [Record α] where
  slots : List (Slot α)
  lawful_slots : Slot.Lawful slots
  exists_decode : ∃ label blank, Record.decode (α := α) .value =
    decodeRecord .value label (slots.map Slot.field) blank
  exists_encode : ∀ a : α, ∃ fields, Record.encode a = .object fields ∧
    fields.map (·.1) = slots.map Slot.name
  get_eq_of_name_eq : ∀ slot ∈ slots, slot.name = "name" →
    ∀ a a' : α, Record.name a = Record.name a' → slot.get a = slot.get a'
  get_rename : ∀ slot ∈ slots, slot.name ≠ "name" →
    ∀ (name : String) (a : α), slot.get (Record.rename name a) = slot.get a

instance : SlotRecord Listener where
  slots := Listener.slots
  lawful_slots := Listener.lawful_slots
  exists_decode := ⟨"Listener", {}, rfl⟩
  exists_encode _ := ⟨_, rfl, rfl⟩
  get_eq_of_name_eq := by simp [Listener.slots, Record.name]
  get_rename := by simp [Listener.slots, Record.rename]

instance : SlotRecord Pool where
  slots := Pool.slots
  lawful_slots := Pool.lawful_slots
  exists_decode := ⟨"BackendPool", {}, rfl⟩
  exists_encode _ := ⟨_, rfl, rfl⟩
  get_eq_of_name_eq := by simp [Pool.slots, Record.name]
  get_rename := by simp [Pool.slots, Record.rename]

/-! ## Overlays -/

namespace Record

section Patched

variable {α : Type} [Record α] {fields patch : List (String × Json)} {a merged : α}

theorem patched_object (hencode : Record.encode a = .object fields)
    (hdecode : Record.decode .value (overlay fields patch).draft = .ok merged) :
    patched a (.object patch) = .ok (Record.rename (Record.name a) merged) := by
  unfold patched
  rw [hencode]
  simp only [hdecode]

end Patched

section Overlay

variable {α : Type} [Record α] [SlotRecord α] {fields patch patch' : List (String × Json)}
  {a a' b : α}

/-- What an object decodes to, where no key comes twice. -/
theorem decode_object_iff (hnodup : (fields.map (·.1)).Nodup) :
    ∃ blank : α, ∀ a : α, Record.decode .value (Json.object fields).draft = .ok a ↔
      ∀ slot ∈ SlotRecord.slots, slot.Takes (fields.lookup slot.name) blank a := by
  obtain ⟨label, blank, hdecode⟩ := SlotRecord.exists_decode (α := α)
  refine ⟨blank, fun a => ?_⟩
  rw [← decodeFields_slots_iff SlotRecord.lawful_slots hnodup (List.forall_mem_nil _), hdecode,
    draft, decodeRecord]
  cases decodeFields (SlotRecord.slots.map Slot.field) [] (draftFields fields) blank with
  | error fault => exact Iff.rfl
  | ok r => exact Iff.rfl

/-- What the patch has for the slots of a record decodes. -/
def Admits (α : Type) [Record α] [SlotRecord α] (patch : List (String × Json)) : Prop :=
  ∀ slot ∈ SlotRecord.slots (α := α), ∀ value, valueOf? patch slot.name = some value →
    ∃ content, slot.decode value.draft = .ok content

/-- The record `a'` is `a` with the fields of the patch in place of its own,
except for the name. -/
structure Overlaid (patch : List (String × Json)) (a a' : α) : Prop where
  name_eq : Record.name a' = Record.name a
  takes : ∀ slot ∈ SlotRecord.slots, slot.name ≠ "name" →
    slot.Takes (valueOf? patch slot.name) a a'

theorem Overlaid.unique (h : Overlaid patch a a') (hb : Overlaid patch a b) : a' = b := by
  refine SlotRecord.lawful_slots.ext a' b fun slot hslot => ?_
  by_cases hname : slot.name = "name"
  · exact SlotRecord.get_eq_of_name_eq slot hslot hname a' b (h.name_eq.trans hb.name_eq.symm)
  · exact (h.takes slot hslot hname).unique (hb.takes slot hslot hname)

/-! ### One patch after the other -/

theorem Admits.append (h : Admits α patch) (h' : Admits α patch') : Admits α (patch ++ patch') := by
  intro slot hslot value hvalue
  rw [valueOf?_append] at hvalue
  rcases Option.or_eq_some_iff.mp hvalue with hlater | ⟨-, hearlier⟩
  · exact h' slot hslot value hlater
  · exact h slot hslot value hearlier

theorem admits_inOrder_iff : Admits α (inOrder patch) ↔ Admits α patch := by
  simp only [Admits, valueOf?_inOrder]

/-- **One patch after the other is one patch**, the later over the earlier. -/
theorem Overlaid.trans (h : Overlaid patch a a') (h' : Overlaid patch' a' b) :
    Overlaid (patch ++ patch') a b where
  name_eq := h'.name_eq.trans h.name_eq
  takes slot hslot hname := by
    have htakes := h.takes slot hslot hname
    have htakes' := h'.takes slot hslot hname
    rw [valueOf?_append]
    cases hvalue : valueOf? patch' slot.name with
    | none =>
        rw [hvalue] at htakes'
        exact (Slot.takes_congr_right (htakes'.kept rfl)).mpr htakes
    | some value =>
        rw [hvalue] at htakes'
        exact Slot.takes_some_iff.mpr (htakes'.taken value rfl)

theorem overlaid_inOrder_iff : Overlaid (inOrder patch) a b ↔ Overlaid patch a b := by
  constructor
  · rintro ⟨hname, htakes⟩
    exact ⟨hname, by simpa only [valueOf?_inOrder] using htakes⟩
  · rintro ⟨hname, htakes⟩
    exact ⟨hname, by simpa only [valueOf?_inOrder] using htakes⟩

/-- A patch that is there already changes nothing. -/
theorem Overlaid.again (h : Overlaid patch a b) : Overlaid patch b b where
  name_eq := rfl
  takes slot hslot hname := by
    have htakes := h.takes slot hslot hname
    exact ⟨htakes.taken, fun _ => rfl⟩

end Overlay

/-! ### Patches of encoded records -/

section Encoded

variable {α : Type} [Record α] [LawfulRecord α] [SlotRecord α]
  {fields patch : List (String × Json)} {a m : α}

/-- The value of a slot in the encoding of a record is what is in the slot. -/
theorem exists_value_encode (hencode : Record.encode a = .object fields) {slot : Slot α}
    (hslot : slot ∈ SlotRecord.slots) :
    ∃ value, valueOf? fields slot.name = some value ∧
      slot.decode value.draft = .ok (slot.get a) := by
  obtain ⟨fields', hencode', hnames⟩ := SlotRecord.exists_encode a
  obtain rfl : fields = fields' := Json.object.inj (hencode.symm.trans hencode')
  have hnodup : (fields.map (·.1)).Nodup := by
    rw [hnames]
    exact SlotRecord.lawful_slots.nodup_names
  obtain ⟨blank, hdecode⟩ := decode_object_iff (α := α) hnodup
  have hself : Record.decode .value (Json.object fields).draft = .ok a := by
    rw [← hencode]
    exact LawfulRecord.decode_encode .value a
  have htakes := (hdecode a).mp hself slot hslot
  rw [valueOf?_of_nodup hnodup]
  have hmem : slot.name ∈ fields.map (·.1) := hnames ▸ List.mem_map_of_mem hslot
  cases hvalue : fields.lookup slot.name with
  | none =>
      obtain ⟨f, hf, hkey⟩ := List.mem_map.mp hmem
      have hother := List.lookup_eq_none_iff.mp hvalue f hf
      simp [hkey] at hother
  | some value =>
      rw [hvalue] at htakes
      exact ⟨value, rfl, htakes.taken value rfl⟩

/-- **An encoding with a patch over it decodes slot by slot**, the name
included. -/
theorem decode_overlay_iff (hencode : Record.encode a = .object fields) :
    Record.decode .value (overlay fields patch).draft = .ok m ↔
      ∀ slot ∈ SlotRecord.slots, slot.Takes (valueOf? patch slot.name) a m := by
  obtain ⟨blank, hdecode⟩ :=
    decode_object_iff (α := α) (inKeyOrder_inOrder (fields ++ patch)).nodup_keys
  rw [overlay, hdecode m]
  refine forall₂_congr fun slot hslot => ?_
  -- The encoding has a value for every slot, so nothing is ever left blank.
  obtain ⟨value, hvalue, hself⟩ := exists_value_encode hencode hslot
  rw [lookup_inOrder, valueOf?_append, hvalue]
  cases valueOf? patch slot.name with
  | none =>
      rw [Option.none_or, Slot.takes_some_iff, Slot.takes_none_iff, hself, Except.ok.injEq, eq_comm]
  | some value' => rw [Option.some_or, Slot.takes_some_iff, Slot.takes_some_iff]

theorem overlaid_rename {merged : α}
    (h : ∀ slot ∈ SlotRecord.slots, slot.Takes (valueOf? patch slot.name) a merged) :
    Overlaid patch a (Record.rename (Record.name a) merged) where
  name_eq := LawfulRecord.name_rename _ _
  takes slot hslot hname :=
    (Slot.takes_congr_right (SlotRecord.get_rename slot hslot hname _ _)).mpr (h slot hslot)

/-- What a patch admits determines the patched record. -/
theorem existsUnique_overlaid (h : Admits α patch) (a : α) : ∃! m, Overlaid patch a m := by
  obtain ⟨merged, htakes, -⟩ := SlotRecord.lawful_slots.existsUnique_takes h a
  have hoverlaid := overlaid_rename htakes
  exact ⟨_, hoverlaid, fun b hb => hb.unique hoverlaid⟩

/-- **A patch is applied field by field.** It must be an object, and what it has
for the fields of the entity, the name included, must decode; then the other
fields are kept, and so is the name. -/
theorem patched_eq_ok_iff {patch : Json} :
    patched a patch = .ok m ↔
      ∃ fields, patch = .object fields ∧ Admits α fields ∧ Overlaid fields a m := by
  obtain ⟨value, hencode, -⟩ := SlotRecord.exists_encode a
  constructor
  · intro h
    cases patch with
    | object fields =>
        cases hdecode : (Record.decode .value (overlay value fields).draft : Except Fault α) with
        | error fault =>
            unfold patched at h
            rw [hencode] at h
            simp only [hdecode] at h
            cases h
        | ok merged =>
            have htakes := (decode_overlay_iff hencode).mp hdecode
            obtain rfl := Except.ok.inj ((patched_object hencode hdecode).symm.trans h)
            refine ⟨fields, rfl, fun slot hslot v hv => ?_, overlaid_rename htakes⟩
            exact ⟨_, (htakes slot hslot).taken v hv⟩
    | _ =>
        unfold patched at h
        rw [hencode] at h
        cases h
  · rintro ⟨fields, rfl, hadmits, hoverlaid⟩
    obtain ⟨merged, htakes, -⟩ := SlotRecord.lawful_slots.existsUnique_takes hadmits a
    rw [patched_object hencode ((decode_overlay_iff hencode).mpr htakes),
      hoverlaid.unique (overlaid_rename htakes)]

end Encoded

end Record

/-! ## Both kinds -/

/-- What the patch has for the fields of entities of this kind decodes. -/
def Kind.Admits : Kind → List (String × Json) → Prop
  | .frontend => Record.Admits Listener
  | .backend => Record.Admits Pool

/-- The second entity is the first with the fields of the patch in place of its
own, except for the name. -/
inductive Entity.Overlaid (patch : List (String × Json)) : Entity → Entity → Prop where
  | listener {l l' : Listener} (h : Record.Overlaid patch l l') :
      Overlaid patch (.listener l) (.listener l')
  | pool {p p' : Pool} (h : Record.Overlaid patch p p') : Overlaid patch (.pool p) (.pool p')

/-- The patch can be applied to the first entity and gives the second. -/
def Entity.Patched (patch : Json) (e e' : Entity) : Prop :=
  ∃ fields, patch = .object fields ∧ e.kind.Admits fields ∧ Overlaid fields e e'

/-- A type of entities whose patches are those of its kind. -/
class PatchRecord (α : Type) [Record α] [EntityRecord α] extends SlotRecord α where
  admits_iff (patch : List (String × Json)) :
    (Record.kind α).Admits patch ↔ Record.Admits α patch
  overlaid_iff (patch : List (String × Json)) (a : α) (e : Entity) :
    Entity.Overlaid patch (EntityRecord.entity a) e ↔
      ∃ a', EntityRecord.entity a' = e ∧ Record.Overlaid patch a a'

instance : PatchRecord Listener where
  admits_iff _ := Iff.rfl
  overlaid_iff patch l e := by
    constructor
    · intro h
      cases h with
      | listener h => exact ⟨_, rfl, h⟩
    · rintro ⟨l', rfl, h⟩
      exact .listener h

instance : PatchRecord Pool where
  admits_iff _ := Iff.rfl
  overlaid_iff patch p e := by
    constructor
    · intro h
      cases h with
      | pool h => exact ⟨_, rfl, h⟩
    · rintro ⟨p', rfl, h⟩
      exact .pool h

theorem PatchRecord.patched_iff {α : Type} [Record α] [EntityRecord α] [PatchRecord α]
    {patch : Json} {a : α} {e : Entity} :
    Entity.Patched patch (EntityRecord.entity a) e ↔
      ∃ m, EntityRecord.entity m = e ∧ patched a patch = .ok m := by
  simp only [Record.patched_eq_ok_iff, Entity.Patched, EntityRecord.kind_entity,
    PatchRecord.admits_iff, PatchRecord.overlaid_iff]
  constructor
  · rintro ⟨fields, hpatch, hadmits, m, hm, hoverlaid⟩
    exact ⟨m, hm, fields, hpatch, hadmits, hoverlaid⟩
  · rintro ⟨m, hm, fields, hpatch, hadmits, hoverlaid⟩
    exact ⟨fields, hpatch, hadmits, m, hm, hoverlaid⟩

theorem Entity.Overlaid.kind_eq {patch : List (String × Json)} {e e' : Entity}
    (h : Overlaid patch e e') : e'.kind = e.kind := by
  cases h <;> rfl

theorem Entity.Overlaid.name_eq {patch : List (String × Json)} {e e' : Entity}
    (h : Overlaid patch e e') : e'.name = e.name := by
  cases h with
  | listener h => exact h.name_eq
  | pool h => exact h.name_eq

/-- What a patch admits determines the patched entity. -/
theorem Entity.existsUnique_overlaid (e : Entity) {patch : List (String × Json)}
    (h : e.kind.Admits patch) : ∃! e', Overlaid patch e e' := by
  cases e with
  | listener l =>
      obtain ⟨l', hl', hunique⟩ := Record.existsUnique_overlaid (α := Listener) h l
      refine ⟨.listener l', .listener hl', fun e' he' => ?_⟩
      cases he' with
      | listener h' => exact congrArg Entity.listener (hunique _ h')
  | pool p =>
      obtain ⟨p', hp', hunique⟩ := Record.existsUnique_overlaid (α := Pool) h p
      refine ⟨.pool p', .pool hp', fun e' he' => ?_⟩
      cases he' with
      | pool h' => exact congrArg Entity.pool (hunique _ h')

end ProxySync
