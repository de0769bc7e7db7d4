import ProxySync.Proofs.Sync.Outcome
import ProxySync.Proofs.Sync.Seeding

/-!
# Keeping file and store in line

The file and the store are in sync when the file shows all that is stored.
In a run from an empty store every record stays in order
(`answerAll_canonical`), so taking a change back restores what was rendered.
A change that succeeds always ends in sync, and what is in sync stays so but
for the calls that `Unsettling` lists.
-/

namespace ProxySync

open ConfigFile Act

/-- The file is the rendering of all stored listeners and all stored pools,
each by the bytes of their names. -/
def InSync (template : Template) (t : Trial) : Prop :=
  ∃ (listeners : List Listener) (pools : List Pool),
    t.store.Stock listeners ∧ t.store.Stock pools ∧
      t.file = some (template.render listeners pools)

theorem InSync.of_eq {template : Template} {t t' : Trial} (h : InSync template t)
    (hstore : t'.store = t.store) (hfile : t'.file = t.file) : InSync template t' := by
  unfold InSync
  rwa [hstore, hfile]

/-- A record is stored that was not there before. -/
def Store.Gains (s s' : Store) : Prop :=
  ∃ k name, s.text? k name = none ∧ s'.text? k name ≠ none

/-- The calls after which file and store may differ: those that say so, those
that could not restore the file after a failed reload, and imports that add
a record. -/
inductive Unsettling (c : Call) (t t' : Trial) (uses : List Use) :
    Except ServiceFault Reply → Prop where
  | outOfSync (cause : SyncFailure) (rollback : StoreFault) :
      Unsettling c t t' uses (.error (.outOfSync cause rollback))
  | unrestored (hc : c.isChange = true) (fault : ReloadFault) (h : RestoreRefused uses) :
      Unsettling c t t' uses (.error (.sync (.reload fault)))
  | imported (hc : c = .importConfig) (h : t.store.Gains t'.store)
      (r : Except ServiceFault Reply) : Unsettling c t t' uses r

namespace Trial

variable {template : Template} {t t' : Trial} {s s' : Scene Trial} {c : Call}
  {r : Except ServiceFault Reply}

theorem inSync_of_rendered (h : Rendered template t.store t.file) (hs : t.store.Canonical) :
    InSync template t := by
  obtain ⟨listeners, pools, hl, hp, hfile⟩ := h
  obtain ⟨listeners', hl', hstock⟩ := Store.exists_stock (α := Listener) hs.holds
  obtain ⟨pools', hp', hstock'⟩ := Store.exists_stock (α := Pool) hs.holds
  obtain rfl := Except.ok.inj (hl.symm.trans hl')
  obtain rfl := Except.ok.inj (hp.symm.trans hp')
  exact ⟨listeners, pools, hstock, hstock', hfile⟩

/-! ## Records stay in order -/

section Records

variable {α : Type} [Record α] [EntityRecord α] {store store' : Store}

theorem canonical_of_saved? {a : α} (hs : store.Canonical) (h : store.saved? a = some store') :
    store'.Canonical := by
  obtain ⟨name, -, rfl⟩ := Option.map_eq_some_iff.mp h
  exact hs.save (Record.rename name a)

theorem canonical_of_merged? {name : String} {patch : Json} (hs : store.Canonical)
    (h : store.merged? α name patch = some store') : store'.Canonical := by
  unfold Store.merged? at h
  split at h
  · split at h
    · next merged _ =>
      obtain rfl := Option.some.inj h
      exact hs.save merged
    · cases h
  · cases h

end Records

theorem canonical_of_changed? {store store' : Store} (hs : store.Canonical)
    (h : c.changed? store = some store') : store'.Canonical := by
  cases c with
  | save e => cases e with
    | listener l => exact canonical_of_saved? hs h
    | pool p => exact canonical_of_saved? hs h
  | merge k name patch => cases k with
    | frontend => exact canonical_of_merged? hs h
    | backend => exact canonical_of_merged? hs h
  | delete k name =>
      obtain ⟨normal, -, rfl⟩ := Option.map_eq_some_iff.mp h
      exact hs.remove k normal
  | _ => cases h

theorem store_of_settled {target? : Option (Kind × String)} {changed? : Option Store}
    {uses : List Use} {x : Except ServiceFault (Option String)}
    (h : Settled template target? changed? t t' uses x) :
    t'.store = t.store ∨ changed? = some t'.store := by
  unfold Settled at h
  split at h
  · exact Or.inr h.1
  · exact Or.inl h.1
  · exact Or.inl h.1
  · exact Or.inr h.1
  · exact Or.inr h.1
  · exact Or.inl h.1

/-- Reading, listing and reloading leave store and file alone, and importing
adds at most. -/
theorem seeded_of_not_change (hc : c.isChange = false)
    (h : perform ((service template).answer c) s = (r, s')) :
    Seeded s s' ∧ (c = .importConfig ∨ Untouched s s') := by
  suffices c = .importConfig ∧ Seeded s s' ∨ Untouched s s' by
    rcases this with ⟨hc, hseeded⟩ | huntouched
    · exact ⟨hseeded, Or.inl hc⟩
    · exact ⟨huntouched.seeded, Or.inr huntouched⟩
  cases c with
  | save | merge | delete => cases hc
  | get k name =>
      cases k with
      | frontend =>
          obtain ⟨x, hget, -⟩ := perform_bind_pure h
          exact Or.inr (get_untouched hget).1
      | backend =>
          obtain ⟨x, hget, -⟩ := perform_bind_pure h
          exact Or.inr (get_untouched hget).1
  | list k =>
      cases k with
      | frontend =>
          obtain ⟨x, hlist, -⟩ := perform_bind_pure h
          exact Or.inr (list_untouched hlist)
      | backend =>
          obtain ⟨x, hlist, -⟩ := perform_bind_pure h
          exact Or.inr (list_untouched hlist)
  | members pool =>
      obtain ⟨x, hmembers, -⟩ := perform_bind_pure h
      exact Or.inr (members_untouched hmembers)
  | readConfig =>
      obtain ⟨x, hread, -⟩ := perform_bind_pure h
      obtain ⟨y, hask, -⟩ := perform_blaming hread
      exact Or.inr (ask_readConfig_untouched hask)
  | reload =>
      obtain ⟨x, hreload, -⟩ := perform_bind_pure h
      exact Or.inr (reloadProxy_untouched hreload)
  | importConfig =>
      obtain ⟨x, himport, -⟩ := perform_bind_pure h
      exact Or.inl ⟨rfl, importConfig_seeded himport⟩

theorem answer_canonical (hs : s.world.store.Canonical)
    (h : perform ((service template).answer c) s = (r, s')) : s'.world.store.Canonical := by
  cases hc : c.isChange with
  | true =>
      obtain ⟨uses, events, rfl, hchanging⟩ := answer_changes hc (fun k name _ => hs k name) h
      have hsettled := hchanging.settled fun k name _ => hs k name
      rcases store_of_settled hsettled with hstore | hchanged
      · rwa [Scene.after, hstore]
      · exact canonical_of_changed? hs hchanged
  | false => exact (seeded_of_not_change hc h).1.canonical hs

theorem answerAll_canonical (calls : List Call) {rs : List (Except ServiceFault Reply)}
    (hs : s.world.store.Canonical) (h : (service template).answerAll calls s = (rs, s')) :
    s'.world.store.Canonical := by
  induction calls generalizing s rs with
  | nil =>
      obtain ⟨-, rfl⟩ := Prod.mk.inj h
      exact hs
  | cons c calls ih =>
      obtain ⟨-, rfl⟩ := Prod.mk.inj h
      exact ih (answer_canonical hs Prod.mk.eta.symm) Prod.mk.eta.symm

/-! ## Ending and staying in sync -/

theorem inSync_of_change {target? : Option (Kind × String)} {changed? : Option Store}
    {uses : List Use} {record : Option String}
    (h : Settled template target? changed? t t' uses (.ok record)) (hs : t'.store.Canonical) :
    InSync template t' :=
  inSync_of_rendered h.2.2.1 hs

/-- A change that fails keeps what was in sync, unless it says otherwise or
could not restore the file. -/
theorem inSync_of_settled {target? : Option (Kind × String)} {changed? : Option Store}
    {uses : List Use} (hc : c.isChange = true)
    (h : Settled template target? changed? t t' uses (r.map Reply.record?))
    (hs : t'.store.Canonical) (hin : InSync template t)
    (hun : ¬ Unsettling c t t' uses r) : InSync template t' := by
  cases r with
  | ok reply => exact inSync_of_change h hs
  | error fault =>
      cases fault with
      | sync failure =>
          cases failure with
          | reload fault =>
              obtain ⟨hstore, hrestored, -⟩ := h
              have hrefused : ¬ RestoreRefused uses := fun h => hun (.unrestored hc fault h)
              have hrendered := hrestored hrefused
              rw [← hstore] at hrendered
              exact inSync_of_rendered hrendered hs
          | read cause => exact hin.of_eq h.1 h.2
          | render cause => exact hin.of_eq h.1 h.2
      | outOfSync cause rollback => exact absurd (.outOfSync cause rollback) hun
      | _ => exact hin.of_eq h.1 h.2.1

/-- **Successful changes end in sync, and what is in sync stays so.** At any
point of any run from an empty store, with any port calls refused and any
text in the file at the start. -/
theorem answer_inSync (template : Template) (calls : List Call) (c : Call) {t : Trial}
    (ht : t.store = .empty) (events : List Event) {rs : List (Except ServiceFault Reply)}
    {s s' : Scene Trial} {r : Except ServiceFault Reply} {uses : List Use}
    (hrun : (service template).answerAll calls ⟨t, events⟩ = (rs, s))
    (h : perform ((service template).answer c) s = (r, s'))
    (huses : s'.world.log = uses.reverse ++ s.world.log) :
    (c.isChange = true → ∀ reply, r = .ok reply → InSync template s'.world) ∧
      (InSync template s.world → ¬ Unsettling c s.world s'.world uses r →
        InSync template s'.world) := by
  have hcanonical : s.world.store.Canonical :=
    answerAll_canonical calls (ht ▸ Store.canonical_empty) hrun
  have hcanonical' : s'.world.store.Canonical := answer_canonical hcanonical h
  cases hc : c.isChange with
  | true =>
      obtain ⟨uses', events', rfl, hchanging⟩ :=
        answer_changes hc (fun k name _ => hcanonical k name) h
      have hsettled := hchanging.settled fun k name _ => hcanonical k name
      obtain rfl : uses' = uses := by
        have hlog := (log_replay s.world uses').symm.trans huses
        exact List.reverse_inj.mp (List.append_cancel_right hlog)
      refine ⟨fun _ reply hr => ?_, inSync_of_settled hc hsettled hcanonical'⟩
      subst hr
      exact inSync_of_change hsettled hcanonical'
  | false =>
      refine ⟨nofun, fun hin hun => ?_⟩
      obtain ⟨hseeded, rfl | huntouched⟩ := seeded_of_not_change hc h
      · rcases hseeded.added with hstore | hgains
        · exact hin.of_eq hstore hseeded.file_eq
        · exact absurd (.imported rfl hgains r) hun
      · exact hin.of_eq huntouched.1 huntouched.2

/-- Nothing is stored, and the twelfth call will be refused: the reload of the
second change. -/
def rejecting : Trial where
  refusals := List.replicate 11 false ++ [true]

def openingListener : Call := .save (.listener { name := "web", bind := "*:80" })

def openingPool : Call := .save (.pool { name := "api", balance := "roundrobin" })

theorem answer_inSync_rejecting :
    rejecting.store = .empty ∧ ∃ rs s r s', ∃ uses : List Use,
      (service .default).answerAll [openingListener] ⟨rejecting, []⟩ = (rs, s) ∧
        perform ((service .default).answer openingPool) s = (r, s') ∧
        s'.world.log = uses.reverse ++ s.world.log ∧
        r.map Reply.record? = .error (.sync (.reload (.failed "" "refused"))) ∧
        InSync .default s.world ∧ InSync .default s'.world := by
  obtain ⟨first, hfirst⟩ :
      ∃ p, p = perform ((service .default).answer openingListener) ⟨rejecting, []⟩ := ⟨_, rfl⟩
  obtain ⟨second, hsecond⟩ :
      ∃ p, p = perform ((service .default).answer openingPool) first.2 := ⟨_, rfl⟩
  have hends : first.1.map Reply.record? = .ok (some (Entity.listener
        { name := "web", bind := "*:80" }).text) ∧
      second.1.map Reply.record? = .error (.sync (.reload (.failed "" "refused"))) ∧
      second.2.world.log.head?.map (·.2) = some true := by
    rw [hsecond, hfirst]
    decide +kernel
  obtain ⟨hok, hfailed, hlast⟩ := hends
  have hcanonical : first.2.world.store.Canonical :=
    answer_canonical Store.canonical_empty hfirst.symm
  obtain ⟨uses, events, hs, -⟩ :=
    answer_changes (c := openingListener) rfl (fun k name _ => Store.canonical_empty k name)
      hfirst.symm
  obtain ⟨uses', events', hs', -⟩ :=
    answer_changes (c := openingPool) rfl (fun k name _ => hcanonical k name) hsecond.symm
  have hlog : first.2.world.log = uses.reverse ++ rejecting.log := hs ▸ log_replay _ uses
  have hlog' : second.2.world.log = uses'.reverse ++ first.2.world.log := hs' ▸ log_replay _ uses'
  have hin : InSync .default first.2.world := by
    cases hr : first.1 with
    | ok reply =>
        exact (answer_inSync .default [] openingListener rfl [] rfl hfirst.symm hlog).1 rfl reply hr
    | error fault => rw [hr] at hok; cases hok
  have hrun : (service .default).answerAll [openingListener] ⟨rejecting, []⟩ =
      ([first.1], first.2) := by rw [hfirst]; rfl
  refine ⟨rfl, _, _, second.1, _, uses', hrun, hsecond.symm, hlog', hfailed, hin, ?_⟩
  refine (answer_inSync .default _ openingPool rfl [] hrun hsecond.symm hlog').2 hin fun hun => ?_
  generalize second.1 = r at hun hfailed
  cases hun with
  | outOfSync cause rollback => cases hfailed
  | unrestored hc fault hrefused =>
      obtain ⟨use, hgetLast, -⟩ := hrefused
      rw [hlog', List.head?_append, List.head?_reverse, hgetLast] at hlast
      cases hlast
  | imported hc hgains r => cases hc

end Trial

end ProxySync
