import ProxySync.Proofs.Store.Writes
import ProxySync.Proofs.Sync.CallRecord
import ProxySync.Proofs.Sync.Outcome
import ProxySync.Proofs.Sync.Tape

/-!
# Changes that no port hinders

Where no port call is refused and all records are in order, a save fails only
for its name or its texts, and a deletion only for its name or because there
is nothing to delete. Otherwise the change is made and shown in the file. So
what a save or a deletion makes of the store is a function of the store
(`Call.effect?`).
-/

namespace ProxySync

open ConfigFile Act

/-- What saving an entity writes, if its name and its texts are in order. -/
def Entity.write? (e : Entity) : Option Write :=
  (normalName? e.name).bind fun name =>
    if (e.rename name).brokenField? = none then some ⟨e.kind, name, some (e.rename name).text⟩
    else none

namespace Call

/-- Saving and deleting. -/
def isWrite : Call → Bool
  | .save _ | .delete .. => true
  | _ => false

/-- What a save or a deletion writes, if anything. -/
def write? : Call → Option Write
  | .save e => e.write?
  | .delete k name => (normalName? name).map fun normal => ⟨k, normal, none⟩
  | _ => none

/-- What a save or a deletion makes of a store, if it can be done in it. -/
def effect? (c : Call) (s : Store) : Option Store := c.write?.bind (·.onStore? s)

variable {s : Store}

theorem effect?_save (e : Entity) :
    effect? (.save e) s = (normalName? e.name).bind fun name =>
      if (e.rename name).brokenField? = none then some (s.saveEntity (e.rename name))
      else none := by
  rw [effect?, write?, Entity.write?, Option.bind_assoc]
  refine Option.bind_congr fun name _ => ?_
  rw [Store.saveEntity_eq, Entity.kind_rename, Entity.name_rename]
  split
  · exact Write.onStore?_some ..
  · rfl

theorem effect?_delete (k : Kind) (name : String) :
    effect? (.delete k name) s = (normalName? name).bind fun normal =>
      if s.text? k normal = none then none else some (s.remove k normal) := by
  rw [effect?, write?, Option.bind_map]
  exact Option.bind_congr fun normal _ => Write.onStore?_none ..

end Call

namespace Trial

/-- The store is `store`, and no call to come is refused. -/
structure Calm (store : Store) (s : Scene Trial) : Prop where
  store_eq : s.world.store = store
  refusals_eq : s.world.refusals = []

variable {template : Template} {store : Store} {s : Scene Trial}

theorem Calm.isOpen (h : Calm store s) : s.world.Open := by
  rw [Open, h.refusals_eq]
  rfl

theorem Calm.after (h : Calm store s) (use : PortUse) (events : List Event) :
    Calm (use.onStore store) (s.after [(use, true)] events) where
  store_eq := congrArg use.onStore h.store_eq
  refusals_eq := congrArg List.tail h.refusals_eq

theorem Calm.count (h : Calm store s) (e : Event) : Calm store { s with events := e :: s.events } :=
  ⟨h.store_eq, h.refusals_eq⟩

theorem Calm.asked {ε α : Type} {use : PortUse} {refusal : ε} {answer : α} {r : Except ε α}
    {s' : Scene Trial} (h : Calm store s) (hasked : Asked s use refusal answer r s') :
    r = .ok answer ∧ s' = s.after [(use, true)] [] := by
  rcases hasked with ⟨hclosed, -⟩ | ⟨-, hdone⟩
  · exact absurd h.isOpen hclosed
  · exact hdone

/-- From every scene with `pre` the step succeeds, with `post`. -/
abbrev Achieves {ε α : Type} (pre : Scene Trial → Prop) (act : Act Trial ε α)
    (post : α → Scene Trial → Prop) : Prop :=
  Ensures pre act post fun _ _ => False

/-- A step that cannot fail may go before any other. -/
theorem achieves_bind {ε α β : Type} {pre : Scene Trial → Prop} {act : Act Trial ε α}
    {next : α → Act Trial ε β} {mid : α → Scene Trial → Prop} {post : β → Scene Trial → Prop}
    {fail : ε → Scene Trial → Prop} (h : Achieves pre act mid)
    (hnext : ∀ a, Ensures (mid a) (next a) post fail) : Ensures pre (act >>= next) post fail := by
  intro s r s' hpre hbind
  rcases perform_bind hbind with ⟨fault, hact, -⟩ | ⟨a, s₁, hact, hrest⟩
  · exact (h hpre hact).elim
  · exact hnext a (h hpre hact) hrest

/-! ## Rendering and reloading -/

section Reading

variable {α : Type} [Record α]

theorem achieves_listAll {as : List α} (hall : store.all = .ok as) {ε : Type}
    (place : StoreFault → ε) :
    Achieves (Calm store) (blaming place ((service template).listAll α))
      fun found s => Calm store s ∧ found = as := by
  refine Ensures.blaming fun s r s' hcalm hact => ?_
  rcases asked_entities hact with ⟨hclosed, -⟩ | ⟨-, rfl, rfl⟩
  · exact absurd hcalm.isOpen hclosed
  · rw [hcalm.store_eq, hall]
    exact ⟨hcalm.after (.scan _) [], rfl⟩

theorem achieves_get {found : Option α} {name : String} (hget : store.get? name = .ok found) :
    Achieves (Calm store) ((service template).get α name)
      fun found' s => Calm store s ∧ found' = found := by
  refine Ensures.blaming fun s r s' hcalm hact => ?_
  rcases asked_entity hact with ⟨hclosed, -⟩ | ⟨-, rfl, rfl⟩
  · exact absurd hcalm.isOpen hclosed
  · rw [hcalm.store_eq, hget]
    exact ⟨hcalm.after (.lookup _ _) [], rfl⟩

end Reading

theorem achieves_writeConfig {ε : Type} (place : ConfigFault → ε) (text : String) :
    Achieves (Calm store) (blaming place (ask (ports.writeConfig text)))
      fun _ s => Calm store s ∧ s.world.file = some text := by
  refine Ensures.blaming fun s r s' hcalm hask => ?_
  obtain ⟨rfl, rfl⟩ := hcalm.asked (asked_writeConfig hask)
  exact ⟨hcalm.after (.writeConfig text) [], rfl⟩

/-- A file that is there stays as it is. -/
theorem achieves_reload {text : String} :
    Achieves (fun s => Calm store s ∧ s.world.file = some text) (service template).reload
      fun _ s => Calm store s ∧ s.world.file = some text := by
  intro s r s' ⟨hcalm, hfile⟩ h
  unfold Service.reload at h
  obtain ⟨x, s₁, hask, hnext⟩ := perform_attempt_bind h
  obtain ⟨rfl, rfl⟩ := hcalm.asked (asked_reload hask)
  obtain ⟨rfl, rfl⟩ := perform_count hnext
  exact ⟨hcalm.after .reload [.reload true], hfile⟩

/-- The store is `store` and shown in the file, and no call to come is
refused. -/
def Settles (template : Template) (store : Store) (s : Scene Trial) : Prop :=
  Calm store s ∧ Rendered template store s.world.file

theorem achieves_renderAndReload (hstore : store.Canonical) :
    Achieves (Calm store) (service template).renderAndReload fun _ => Settles template store := by
  obtain ⟨⟨ls, hls⟩, ps, hps⟩ := Store.decodable_iff.mp hstore.decodable
  have hrender : Achieves (Calm store) (service template).renderCurrent
      fun _ s => Calm store s ∧ s.world.file = some (template.render ls ps) := by
    unfold Service.renderCurrent
    refine (achieves_listAll hls _).bind fun listeners => ensures_of_and fun hlisteners => ?_
    refine (achieves_listAll hps _).bind fun pools => ensures_of_and fun hpools => ?_
    subst hlisteners hpools
    exact achieves_writeConfig _ _
  intro s r s' hcalm h
  unfold Service.renderAndReload at h
  have hends := hrender.bind (fun _ => achieves_reload) (hcalm.count .sync) (perform_count_bind h)
  cases r with
  | ok _ => exact ⟨hends.1, ls, ps, hls, hps, hends.2⟩
  | error failure => exact hends

theorem achieves_synchronize (hstore : store.Canonical) (undo : Act Trial StoreFault Unit) :
    Achieves (Calm store) ((service template).synchronize undo)
      fun _ => Settles template store := by
  intro s r s' hcalm h
  unfold Service.synchronize at h
  obtain ⟨x, s₁, hsync, hnext⟩ := perform_attempt_bind h
  have hends := achieves_renderAndReload hstore hcalm hsync
  cases x with
  | ok _ =>
      obtain ⟨rfl, rfl⟩ := perform_pure hnext
      exact hends
  | error failure => exact hends.elim

theorem achieves_write {write : Act Trial StoreFault Unit} {use : PortUse}
    (hwrite : Writing write use) :
    Achieves (Calm store) (blaming ServiceFault.storage write)
      fun _ => Calm (use.onStore store) := by
  refine Ensures.blaming fun s r s' hcalm hact => ?_
  obtain ⟨rfl, rfl⟩ := hcalm.asked (hwrite.asked hact)
  exact hcalm.after use []

/-! ## Saving and deleting -/

/-- The step turns the store into `effect?`, and shows it in the file; or it
fails, where there is no effect, and leaves the store as it is. -/
def Decides {α : Type} (template : Template) (store : Store) (act : Act Trial ServiceFault α)
    (effect? : Option Store) : Prop :=
  Ensures (Calm store) act
    (fun _ s => ∃ changed, effect? = some changed ∧ Settles template changed s)
    fun _ s => effect? = none ∧ Calm store s

section Decides

variable {α β : Type} {effect? : Option Store}

theorem Decides.counted {k : Kind} {op : Operation} {act : Act Trial ServiceFault α}
    (h : Decides template store act effect?) :
    Decides template store (Service.counted k op act) effect? := by
  refine Ensures.counted h (fun a s e => ?_) fun fault s e => ?_
  · rintro ⟨changed, heffect, hcalm, hrendered⟩
    exact ⟨changed, heffect, hcalm.count e, hrendered⟩
  · rintro ⟨heffect, hcalm⟩
    exact ⟨heffect, hcalm.count e⟩

theorem Decides.bind_pure {act : Act Trial ServiceFault α}
    (h : Decides template store act effect?) (f : α → β) :
    Decides template store (act >>= fun a => pure (f a)) effect? :=
  Ensures.bind h fun _ => ensures_pure fun _ hsettles => hsettles

theorem decides_throw {fault : ServiceFault} :
    Decides template store (throw fault : Act Trial ServiceFault α) none :=
  ensures_throw fun _ hcalm => ⟨rfl, hcalm⟩

theorem decides_normalize {name : String} {next : String → Act Trial ServiceFault β}
    {effect? : String → Option Store}
    (h : ∀ normal, Decides template store (next normal) (effect? normal)) :
    Decides template store (Service.normalize name >>= next) ((normalName? name).bind effect?) := by
  unfold Service.normalize
  split
  · next normal hnormal =>
    rw [hnormal]
    exact h normal
  · next hnone =>
    rw [hnone]
    exact decides_throw

variable [Record α] [EntityRecord α]

theorem decides_saveAs (hstore : store.Canonical) {a : α} :
    Decides template store ((service template).saveAs a)
      (if Record.brokenField? a = none then some (store.save a) else none) := by
  unfold Service.saveAs
  split
  · next field hbroken =>
    rw [hbroken, if_neg (Option.some_ne_none field)]
    exact decides_throw
  next hwhole =>
  rw [if_pos hwhole]
  obtain ⟨found, hget⟩ : ∃ found : Option α, store.get? (Record.name a) = .ok found := by
    rcases (hstore.holds (α := α) (Record.name a)).get?_eq with ⟨-, hnone⟩ | ⟨b, -, -, hsome⟩
    · exact ⟨none, hnone⟩
    · exact ⟨some b, hsome⟩
  refine achieves_bind (achieves_get hget) fun previous => ensures_of_and fun _ => ?_
  refine achieves_bind (achieves_write (writing_store a)) fun _ => ?_
  cases previous with
  | none =>
      refine achieves_bind (achieves_synchronize (hstore.save a) _) fun _ => ?_
      exact ensures_pure fun s hsettles => ⟨_, rfl, hsettles⟩
  | some old =>
      refine achieves_bind (achieves_synchronize (hstore.save a) _) fun _ => ?_
      exact ensures_pure fun s hsettles => ⟨_, rfl, hsettles⟩

/-- Saving makes the write of the entity. -/
theorem decides_save (hstore : store.Canonical) (a : α) :
    Decides template store ((service template).save a)
      ((normalName? (Record.name a)).bind fun name =>
        if Record.brokenField? (Record.rename name a) = none then
          some (store.save (Record.rename name a))
        else none) :=
  .counted (decides_normalize fun _ => decides_saveAs hstore)

theorem decides_delete (hstore : store.Canonical) (name : String) :
    Decides template store ((service template).delete α name)
      ((normalName? name).bind fun normal =>
        if store.text? (Record.kind α) normal = none then none
        else some (store.remove (Record.kind α) normal)) := by
  refine .counted (decides_normalize fun normal => ?_)
  rcases (hstore.holds (α := α) normal).get?_eq with ⟨hnone, hget⟩ | ⟨b, -, htext, hget⟩
  · rw [if_pos hnone]
    refine achieves_bind (achieves_get hget) fun found => ensures_of_and fun hfound => ?_
    subst hfound
    exact decides_throw
  · rw [if_neg (by rw [htext]; exact Option.some_ne_none _)]
    refine achieves_bind (achieves_get hget) fun found => ensures_of_and fun hfound => ?_
    subst hfound
    refine achieves_bind (achieves_write (writing_discard normal)) fun _ => ?_
    intro s r s' hcalm hact
    have hsettles := achieves_synchronize (hstore.remove _ normal) _ hcalm hact
    cases r with
    | ok _ => exact ⟨_, rfl, hsettles⟩
    | error fault => exact hsettles.elim

end Decides

/-- **Where nothing is refused, a save or a deletion has its effect on the
store or is turned down.** -/
theorem decides_answer (hstore : store.Canonical) {c : Call} (hc : c.isWrite = true) :
    Decides template store ((service template).answer c) (c.effect? store) := by
  cases c with
  | save e =>
      obtain ⟨α, _, _, _, a, rfl⟩ := e.exists_record
      rw [CallRecord.answer_save, Call.effect?_save, EntityRecord.name_entity]
      simp only [CallRecord.rename_entity, CallRecord.brokenField?_entity,
        CallRecord.saveEntity_eq]
      exact (decides_save hstore a).bind_pure _
  | delete k name =>
      obtain ⟨α, _, _, _, rfl⟩ := k.exists_record
      rw [CallRecord.answer_delete, Call.effect?_delete]
      exact (decides_delete hstore name).bind_pure _
  | _ => cases hc

end Trial

end ProxySync
