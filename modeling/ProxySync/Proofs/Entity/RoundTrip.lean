import ProxySync.Entity.Codec
import ProxySync.Proofs.Calendar.InstantText
import ProxySync.Proofs.Dict
import ProxySync.Proofs.Json.Reading

/-!
# Encoded entities read back

Decoding the encoding of a listener, a member or a pool gives it back, every
field included and whether the encoding is read as a text or taken as a
value (`Listener.decode_encode`, `Member.decode_encode`, `Pool.decode_encode`).
`LawfulRecord` states what the store and the service rely on: a record's own
text reads back as the record.
-/

namespace ProxySync

open Json

/-! ## Drafts of lists -/

theorem draftItems_eq_map (items : List Json) : draftItems items = items.map draft := by
  induction items with
  | nil => rfl
  | cons v items ih => rw [draftItems, ih, List.map_cons]

theorem draftFields_eq_map (fields : List (String × Json)) :
    draftFields fields = fields.map fun f => (some f.1, f.2.draft) := by
  induction fields with
  | nil => rfl
  | cons f fields ih => rw [draftFields, ih, List.map_cons]

theorem decodeItems_map {α : Type} {item : Draft → Except Fault α} {encode : α → Draft}
    (h : ∀ a, item (encode a) = .ok a) (as : List α) (i : Nat) :
    decodeItems item i (as.map encode) = .ok as := by
  induction as generalizing i with
  | nil => rfl
  | cons a as ih =>
      rw [List.map_cons, decodeItems, h a, ih]
      rfl

theorem decodeList_map {α : Type} {item : Draft → Except Fault α} {encode : α → Json}
    (h : ∀ a, item (encode a).draft = .ok a) (as : List α) :
    decodeList item (Json.array (as.map encode)).draft = .ok as := by
  have hitems : decodeItems item 0 (as.map fun a => (encode a).draft) = .ok as :=
    decodeItems_map h as 0
  have hdraft : (Json.array (as.map encode)).draft =
      .array (as.map fun a => (encode a).draft) true := by
    rw [draft, draftItems_eq_map, List.map_map]
    rfl
  rw [hdraft, decodeList, hitems]
  rfl

/-! ## Metadata -/

/-- Entries in key order are put back one after the other. -/
theorem decodeEntries_strings (l : List (String × String)) :
    ∀ (acc : Dict String), InKeyOrder (acc.entries ++ l) →
      ∃ d, decodeEntries decodeString acc (l.map fun e => (some e.1, .string (some e.2))) = .ok d
        ∧ d.entries = acc.entries ++ l := by
  induction l with
  | nil =>
      intro acc _
      exact ⟨acc, rfl, (List.append_nil _).symm⟩
  | cons e l ih =>
      intro acc h
      have hlt : ∀ a ∈ acc.entries, a.1 < e.1 := fun a ha =>
        (List.pairwise_append.mp h).2.2 a ha e List.mem_cons_self
      have hentries : (acc.insert e.1 e.2).entries = acc.entries ++ [e] :=
        insertEntry_of_forall_lt hlt
      have happend : acc.entries ++ e :: l = (acc.insert e.1 e.2).entries ++ l := by
        rw [hentries, List.append_assoc]
        rfl
      obtain ⟨d, hd, hde⟩ := ih (acc.insert e.1 e.2) (happend ▸ h)
      exact ⟨d, hd, hde.trans happend.symm⟩

theorem decodeMetadata_encode (d : Dict String) :
    decodeMetadata (encodeMetadata d).draft = .ok d := by
  obtain ⟨d', hd', hentries⟩ := decodeEntries_strings d.entries ∅ d.inKeyOrder
  have hd : d' = d := Dict.ext_get? fun key => congrArg (·.lookup key) hentries
  have hdraft : (encodeMetadata d).draft =
      .object (d.entries.map fun e => (some e.1, .string (some e.2))) true := by
    rw [encodeMetadata, draft, draftFields_eq_map, List.map_map]
    rfl
  rw [hdraft, decodeMetadata, decodeDict, hd', hd]
  rfl

theorem decodeInstant_encode (t : Option Calendar.Instant) :
    decodeInstant (encodeInstant t).draft = .ok t := by
  cases t with
  | none => rfl
  | some t =>
      have hread : Calendar.Instant.read t.text.toList = .ok t := by
        rw [Calendar.Instant.text, String.toList_ofList, t.read_print]
      simp [encodeInstant, draft, decodeInstant, hread]

/-! ## Records -/

theorem decodeString_draft (s : String) : decodeString (Json.string s).draft = .ok s := rfl

theorem decodePort_draft (port : UInt16) :
    decodePort (Json.number (.natural port.toNat)).draft = .ok port := by
  simp [draft, decodePort, port.toNat_lt]

/-- A field that is met for the first time enters the record. -/
theorem decodeFields_known {α ρ : Type} {known : List (Json.Field ρ)} {seen : List String}
    {key : String} {decode : Draft → Except Fault α} {set : ρ → α → ρ} {d : Draft} {a : α}
    {rest : List (Option String × Draft)} {r : ρ}
    (hfind : known.find? (·.name == key) = some (fieldOf key decode set))
    (hseen : seen.contains key = false) (hd : decode d = .ok a) :
    decodeFields known seen ((some key, d) :: rest) r =
      decodeFields known (key :: seen) rest (set r a) := by
  have hput : (fieldOf key decode set).put d r = .ok (set r a) := by
    simp only [fieldOf, hd]
    rfl
  rw [decodeFields, hfind]
  simp only [hseen, hput]
  rfl

theorem decodeRecord_object {ρ : Type} {origin : Origin} {name : String}
    {known : List (Json.Field ρ)} {default r : ρ} {fields : List (String × Json)}
    (h : decodeFields known [] (draftFields fields) default = .ok r) :
    decodeRecord origin name known default (Json.object fields).draft = .ok r := by
  rw [draft, decodeRecord, h]
  rfl

theorem Listener.decode_encode (origin : Origin) (l : Listener) :
    Listener.decode origin l.encode.draft = .ok l := by
  have hrules : decodeList decodeString (Json.array (l.rules.map .string)).draft = .ok l.rules :=
    decodeList_map decodeString_draft l.rules
  refine decodeRecord_object ?_
  simp only [draftFields]
  rw [Listener.fields,
    decodeFields_known rfl rfl (decodeString_draft l.name),
    decodeFields_known rfl rfl (decodeString_draft l.bind),
    decodeFields_known rfl rfl (decodeString_draft l.defaultBackend),
    decodeFields_known rfl rfl (decodeString_draft l.mode),
    decodeFields_known rfl rfl (decodeString_draft l.keepAlive),
    decodeFields_known rfl rfl (decodeString_draft l.option),
    decodeFields_known rfl rfl hrules,
    decodeFields_known rfl rfl (decodeMetadata_encode l.metadata)]
  rfl

theorem Member.decode_encode (origin : Origin) (m : Member) :
    Member.decode origin m.encode.draft = .ok m := by
  refine decodeRecord_object ?_
  simp only [draftFields]
  rw [Member.fields,
    decodeFields_known rfl rfl (decodeString_draft m.name),
    decodeFields_known rfl rfl (decodeString_draft m.version),
    decodeFields_known rfl rfl (decodeString_draft m.host),
    decodeFields_known rfl rfl (decodePort_draft m.port),
    decodeFields_known rfl rfl (decodeInstant_encode m.lastKnown),
    decodeFields_known rfl rfl (decodeMetadata_encode m.metadata)]
  rfl

theorem Pool.decode_encode (origin : Origin) (p : Pool) :
    Pool.decode origin p.encode.draft = .ok p := by
  have hmembers : decodeList (Member.decode origin)
      (Json.array (p.members.map Member.encode)).draft = .ok p.members :=
    decodeList_map (Member.decode_encode origin) p.members
  refine decodeRecord_object ?_
  simp only [draftFields]
  rw [Pool.fields,
    decodeFields_known rfl rfl (decodeString_draft p.name),
    decodeFields_known rfl rfl (decodeString_draft p.version),
    decodeFields_known rfl rfl (decodeString_draft p.balance),
    decodeFields_known rfl rfl (decodeString_draft p.host),
    decodeFields_known rfl rfl (decodeString_draft p.mode),
    decodeFields_known rfl rfl hmembers,
    decodeFields_known rfl rfl (decodeMetadata_encode p.metadata)]
  rfl

/-! ## Plain encodings -/

theorem isPlainItems_map {α : Type} {encode : α → Json} (h : ∀ a, (encode a).isPlain = true)
    (as : List α) : isPlainItems (as.map encode) = true := by
  induction as with
  | nil => rfl
  | cons a as ih => rw [List.map_cons, isPlainItems, h a, ih, Bool.and_self]

theorem isPlain_encodeMetadata (d : Dict String) : (encodeMetadata d).isPlain = true := by
  rw [encodeMetadata, isPlain]
  induction d.entries with
  | nil => rfl
  | cons e l ih =>
      have he : (Json.string e.2).isPlain = true := rfl
      rw [List.map_cons, isPlainFields, he, ih, Bool.and_self]

theorem isPlain_encodeInstant (t : Option Calendar.Instant) : (encodeInstant t).isPlain = true := by
  cases t <;> rfl

theorem Listener.isPlain_encode (l : Listener) : l.encode.isPlain = true := by
  simp [Listener.encode, isPlain, isPlainFields, isPlain_encodeMetadata,
    isPlainItems_map (fun s => (rfl : (Json.string s).isPlain = true))]

theorem Member.isPlain_encode (m : Member) : m.encode.isPlain = true := by
  have hport : m.port.toNat < UInt64.size := Nat.lt_trans m.port.toNat_lt (by decide)
  simp [Member.encode, isPlain, isPlainFields, isPlain_encodeMetadata, isPlain_encodeInstant,
    hport]

theorem Pool.isPlain_encode (p : Pool) : p.encode.isPlain = true := by
  simp [Pool.encode, isPlain, isPlainFields, isPlain_encodeMetadata,
    isPlainItems_map Member.isPlain_encode]

/-! ## What the store and the service rely on -/

/-- Records that are the same after encoding and decoding, and that bear the
name they are given. -/
class LawfulRecord (α : Type) [Record α] : Prop where
  isPlain_encode : ∀ a : α, (Record.encode a).isPlain = true
  decode_encode : ∀ (origin : Origin) (a : α), Record.decode origin (Record.encode a).draft = .ok a
  name_rename : ∀ (name : String) (a : α), Record.name (Record.rename name a) = name

instance : LawfulRecord Listener where
  isPlain_encode := Listener.isPlain_encode
  decode_encode := Listener.decode_encode
  name_rename _ _ := rfl

instance : LawfulRecord Pool where
  isPlain_encode := Pool.isPlain_encode
  decode_encode := Pool.decode_encode
  name_rename _ _ := rfl

namespace Record

variable {α : Type} [Record α] [LawfulRecord α]

/-- **A record's own text reads back as the record.** -/
theorem ofText_text (a : α) : ofText (text a) = .ok a := by
  rw [ofText, text, decodeText_text (LawfulRecord.isPlain_encode a)]
  exact LawfulRecord.decode_encode .text a

theorem text_injective {a b : α} (h : text a = text b) : a = b := by
  have hb := ofText_text b
  rw [← h, ofText_text a] at hb
  exact Except.ok.inj hb

end Record

end ProxySync
