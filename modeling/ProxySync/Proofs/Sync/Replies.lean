import ProxySync.Proofs.Store.Writes
import ProxySync.Proofs.Sync.CallRecord
import ProxySync.Proofs.Sync.ReadSaved
import ProxySync.Proofs.Sync.Tape

/-!
# Replies and the store

A read that is not refused replies with what the store has (`answer_get`,
`answer_list`). A save that succeeds has looked its entity up first, so its
reply says whether one was there (`answer_save`).
-/

namespace ProxySync

open ConfigFile Act

namespace Trial

variable {template : Template} {s s' : Scene Trial} {k : Kind} {name : String}
  {r : Except ServiceFault Reply}

/-! ## Reads -/

section Records

variable {α : Type} [Record α]

theorem get_of_open (hopen : s.world.Open) {found : Option α}
    (hfound : s.world.store.get? name = .ok found) {x : Except ServiceFault (Option α)}
    (h : perform ((service template).get α name) s = (x, s')) : x = .ok found := by
  obtain ⟨y, hlookup, rfl⟩ := perform_blaming h
  rcases asked_entity hlookup with ⟨hclosed, -⟩ | ⟨-, rfl, -⟩
  · exact absurd hopen hclosed
  · rw [hfound]
    rfl

theorem list_of_open (hopen : s.world.Open) {as : List α} (has : s.world.store.all = .ok as)
    {x : Except ServiceFault (List α)}
    (h : perform ((service template).list α) s = (x, s')) : x = .ok as := by
  obtain ⟨y, hlist, rfl⟩ := perform_blaming h
  rcases asked_entities hlist with ⟨hclosed, -⟩ | ⟨-, rfl, -⟩
  · exact absurd hopen hclosed
  · rw [has]
    rfl

end Records

theorem eq_ok_of_map {ε α β : Type} {f : α → β} {x : Except ε α} {b : β} (h : x.map f = .ok b) :
    ∃ a, x = .ok a ∧ f a = b := by
  cases x with
  | ok a => exact ⟨a, rfl, Except.ok.inj h⟩
  | error fault => cases h

/-- A read that is not refused replies with the entity that is stored. -/
theorem answer_get (hopen : s.world.Open) {found : Option Entity}
    (hfound : s.world.store.entity? k name = .ok found)
    (h : perform ((service template).answer (.get k name)) s = (r, s')) :
    r = .ok (.found found) := by
  obtain ⟨α, _, _, _, rfl⟩ := k.exists_record
  rw [CallRecord.entity?_eq] at hfound
  rw [CallRecord.answer_get] at h
  obtain ⟨a?, hget, rfl⟩ := eq_ok_of_map hfound
  obtain ⟨x, hact, rfl⟩ := perform_bind_pure h
  rw [get_of_open hopen hget hact]
  rfl

theorem answer_list (hopen : s.world.Open) {es : List Entity}
    (hes : s.world.store.entities k = .ok es)
    (h : perform ((service template).answer (.list k)) s = (r, s')) :
    r = .ok (.entities es) := by
  obtain ⟨α, _, _, _, rfl⟩ := k.exists_record
  rw [CallRecord.entities_eq] at hes
  rw [CallRecord.answer_list] at h
  obtain ⟨as, hall, rfl⟩ := eq_ok_of_map hes
  obtain ⟨x, hact, rfl⟩ := perform_bind_pure h
  rw [list_of_open hopen hall hact]
  rfl

/-! ## Saves -/

section Records

variable {α : Type} [Record α] [EntityRecord α]

omit [Record α] [EntityRecord α] in
theorem yields_fact {fact : Prop} (act : Act Trial ServiceFault α) :
    Yields (fun _ => fact) act fun _ _ => fact := by
  intro s r s' hfact _
  cases r with
  | ok a => exact hfact
  | error fault => exact trivial

/-- What the reply to a save says of what was there before. -/
theorem yields_created (s : Scene Trial) (hs : s.world.store.Canonical) (a : α) :
    Yields (fun s₁ => s₁ = s) ((service template).saveAs a) fun saved _ =>
      s.world.Open ∧
        saved.created = (s.world.store.text? (Record.kind α) (Record.name a)).isNone := by
  unfold Service.saveAs
  split
  · exact ensures_throw fun _ _ => trivial
  have hlook : Yields (fun s₁ => s₁ = s) ((service template).get α (Record.name a))
      fun previous _ => s.world.Open ∧
        previous.isNone = (s.world.store.text? (Record.kind α) (Record.name a)).isNone := by
    rintro s₁ x s₂ rfl hget
    obtain ⟨y, hlookup, rfl⟩ := perform_blaming hget
    rcases asked_entity hlookup with ⟨-, rfl, -⟩ | ⟨hopen, rfl, -⟩
    · exact trivial
    rcases (hs.holds (Record.name a)).get?_eq (α := α) with
      ⟨hnone, hget⟩ | ⟨a', -, htext, hget⟩
    · rw [hget, hnone]
      exact ⟨hopen, rfl⟩
    · rw [hget, htext]
      exact ⟨hopen, rfl⟩
  refine hlook.bind fun previous => (yields_fact _).bind fun _ => ?_
  cases previous with
  | none => exact (yields_fact _).bind fun _ => ensures_pure fun _ hsaid => hsaid
  | some old => exact (yields_fact _).bind fun _ => ensures_pure fun _ hsaid => hsaid

omit [EntityRecord α] in
/-- A save that succeeds has saved the entity under its normal name. -/
theorem saveAs_of_save {a : α} {saved : Saved α}
    (h : perform ((service template).save a) s = (.ok saved, s')) :
    ∃ name s₁, normalName? (Record.name a) = some name ∧
      perform ((service template).saveAs (Record.rename name a)) s = (.ok saved, s₁) ∧
      s'.world = s₁.world := by
  obtain ⟨s₁, hact, rfl⟩ := perform_counted h
  rcases perform_bind hact with ⟨fault, -, hfault⟩ | ⟨name, s₂, hname, hsave⟩
  · cases hfault
  · obtain ⟨hnormal, rfl⟩ := normalize_ok hname
    exact ⟨name, s₁, hnormal, hsave, rfl⟩

theorem save_ok {a : α} (hs : s.world.store.Canonical) {saved : Saved α}
    (h : perform ((service template).save a) s = (.ok saved, s')) :
    s.world.Open ∧ ∃ name, normalName? (Record.name a) = some name ∧
      saved.entity = Record.rename name a ∧
      saved.created = (s.world.store.text? (Record.kind α) name).isNone ∧
      s'.world.store = s.world.store.save (Record.rename name a) := by
  obtain ⟨name, s₁, hnormal, hsave, hworld⟩ := saveAs_of_save h
  obtain ⟨hopen, hcreated⟩ := yields_created s hs _ rfl hsave
  obtain ⟨hentity, -⟩ := yields_saveAs _ trivial hsave
  rw [LawfulRecord.name_rename] at hcreated
  obtain ⟨uses, events, rfl, hchanging⟩ := saveAs_changes (hs _ _) hsave
  have hstore := (hchanging.settled fun k name _ => hs k name).1
  rw [hworld]
  exact ⟨hopen, name, hnormal, hentity, hcreated, (Option.some.inj hstore).symm⟩

end Records

/-- **What a save that succeeds replies**: the entity under its normal name,
and whether none was there. -/
theorem answer_save {e : Entity} (hs : s.world.store.Canonical) {reply : Reply}
    (h : perform ((service template).answer (.save e)) s = (.ok reply, s')) :
    s.world.Open ∧ ∃ name, normalName? e.name = some name ∧
      reply = .saved (e.rename name) (s.world.store.text? e.kind name).isNone ∧
      s'.world.store = s.world.store.saveEntity (e.rename name) := by
  obtain ⟨α, _, _, _, a, rfl⟩ := e.exists_record
  rw [CallRecord.answer_save] at h
  obtain ⟨x, hsave, hreply⟩ := perform_bind_pure h
  obtain ⟨saved, rfl, rfl⟩ := eq_ok_of_map hreply.symm
  obtain ⟨hopen, name, hnormal, hentity, hcreated, hstore⟩ := save_ok hs hsave
  rw [EntityRecord.name_entity, EntityRecord.kind_entity]
  refine ⟨hopen, name, hnormal, ?_, ?_⟩
  · rw [hentity, hcreated, CallRecord.rename_entity]
  · rw [hstore, CallRecord.rename_entity, CallRecord.saveEntity_eq]

end Trial

end ProxySync
