import ProxySync.Proofs.Sync.Change

/-!
# Where a change leaves store and file

The outcome of saving, merging or deleting tells what has become of the
store and the configuration file, whichever port calls were refused on the
way (`answer_settled`). Nothing is assumed of the store but that the record
the call is about is in order; others may not even decode.
-/

namespace ProxySync

open ConfigFile Act

/-- The file is the rendering of the whole store. -/
def Rendered (template : Template) (store : Store) (file : Option String) : Prop :=
  ∃ (listeners : List Listener) (pools : List Pool),
    store.all = .ok listeners ∧ store.all = .ok pools ∧
      file = some (template.render listeners pools)

/-- Part of writing the configuration file from the store. -/
def PortUse.isRendering : PortUse → Bool
  | .scan _ | .writeConfig _ => true
  | _ => false

/-- The last call was part of a rendering and was refused. When a reload has
failed before, this is the rendering that was to restore the file. -/
def RestoreRefused (uses : List Use) : Prop :=
  ∃ use, uses.getLast? = some (use, false) ∧ use.isRendering = true

/-- What a change leaves behind in each of its outcomes. The change is about
the record `target?` and would turn the store into `changed?`; from `t` to
`t'` it made the calls `uses`. -/
def Settled (template : Template) (target? : Option (Kind × String)) (changed? : Option Store)
    (t t' : Trial) (uses : List Use) : Except ServiceFault (Option String) → Prop
  -- The store differs in one key, the file shows it, and the proxy has read the file.
  | .ok record =>
      changed? = some t'.store ∧
        (∃ k name, target? = some (k, name) ∧ ∀ key, t'.store.records.get? key =
          if key = k.key name then record else t.store.records.get? key) ∧
        Rendered template t'.store t'.file ∧
        uses.filter (fun u => u.1 = .reload) = [(.reload, true)]
  -- The store is as before; the file may have been written twice.
  | .error (.sync (.reload _)) =>
      t'.store = t.store ∧ (¬ RestoreRefused uses → Rendered template t.store t'.file) ∧
        (RestoreRefused uses →
          ∃ rejected, changed? = some rejected ∧ Rendered template rejected t'.file)
  | .error (.sync _) => t'.store = t.store ∧ t'.file = t.file
  -- The store holds the change, and the file shows it if it was written.
  | .error (.outOfSync (.reload _) _) =>
      changed? = some t'.store ∧ Rendered template t'.store t'.file
  | .error (.outOfSync _ _) => changed? = some t'.store ∧ t'.file = t.file
  -- Nothing happened but look-ups and a write that was refused.
  | .error _ =>
      t'.store = t.store ∧ t'.file = t.file ∧ ∀ u ∈ uses, u.1 ≠ .reload ∧ u.1.isRendering = false

namespace Trial

variable {template : Template} {store : Store} {uses : List Use}

/-! ## Renderings -/

theorem Rendering.rendered_replay (h : Rendering template store (.ok ()) uses) (t : Trial) :
    Rendered template store (t.replay uses).file := by
  cases h with
  | written hl hp => exact ⟨_, _, hl, hp, rfl⟩

theorem Rendering.file_replay {failure : SyncFailure}
    (h : Rendering template store (.error failure) uses) (t : Trial) :
    (t.replay uses).file = t.file := by
  cases h <;> rfl

theorem Rendering.filter_reload {r : Except SyncFailure Unit}
    (h : Rendering template store r uses) : uses.filter (fun u => u.1 = .reload) = [] := by
  cases h <;> rfl

theorem Rendering.decodable (h : Rendering template store (.ok ()) uses) : store.Decodable := by
  cases h with
  | written hl hp => exact Store.decodable_iff.mpr ⟨⟨_, hl⟩, _, hp⟩

theorem Rendering.not_restoreRefused (h : Rendering template store (.ok ()) uses)
    (earlier : List Use) : ¬ RestoreRefused (earlier ++ uses) := by
  cases h with
  | written hl hp =>
      rintro ⟨use, hlast, -⟩
      simp at hlast

/-- When all records decode, only a refused call stops a rendering. -/
theorem Rendering.restoreRefused {failure : SyncFailure}
    (h : Rendering template store (.error failure) uses) (hdec : store.Decodable)
    (earlier : List Use) : RestoreRefused (earlier ++ uses) := by
  obtain ⟨⟨ls, hls⟩, ps, hps⟩ := Store.decodable_iff.mp hdec
  cases h with
  | listenersRefused fault => exact ⟨.scan .frontend, by simp, rfl⟩
  | listenersUndecodable h => rw [hls] at h; cases h
  | poolsRefused fault => exact ⟨.scan .backend, by simp, rfl⟩
  | poolsUndecodable h => rw [hps] at h; cases h
  | unwritten hl hp fault => exact ⟨.writeConfig _, by simp; rfl, rfl⟩

/-! ## Changes -/

variable {target? : Option (Kind × String)} {changed? : Option Store}

theorem ne_of_idle {u : Use} (h : Idle u) : u.1 ≠ .reload ∧ u.1.isRendering = false := by
  cases h <;> exact ⟨nofun, rfl⟩

theorem filter_reload_idle (h : ∀ u ∈ uses, Idle u) :
    uses.filter (fun u => u.1 = .reload) = [] :=
  List.filter_eq_nil_iff.mpr fun u hu => by simpa using (ne_of_idle (h u hu)).1

/-- The trial `t₁` is `t` once a write has gone through. -/
structure Wrote (t t₁ : Trial) (edit : PortUse) : Prop where
  store_eq : t₁.store = edit.onStore t.store
  file_eq : t₁.file = t.file

section Written

variable {t t₁ : Trial} {k : Kind} {name : String} {record : Option String} {edit undo : PortUse}
  {reads : List Use}

theorem Wrote.of_idle (hidle : ∀ u ∈ reads, Idle u)
    (hedit : Revision t.store k name record edit undo) :
    Wrote t ((t.replay reads).after (edit, true)) edit := by
  obtain ⟨hstore, hfile⟩ := replay_idle hidle t
  refine ⟨?_, ?_⟩
  · rw [← hstore]
    rfl
  · rw [← hfile]
    exact (hedit.onFile_eq _).1

/-- A rendering leaves the change in the store. -/
theorem Wrote.store_kept (hw : Wrote t t₁ edit) {r : Except SyncFailure Unit}
    (hr : Rendering template store r uses) :
    (t₁.replay uses).store = edit.onStore t.store := by
  rw [hr.store_replay, hw.store_eq]

/-- After a rendering the change can be taken back. -/
theorem Wrote.store_undone (hw : Wrote t t₁ edit)
    (hedit : Revision t.store k name record edit undo) {r : Except SyncFailure Unit}
    (hr : Rendering template store r uses) :
    undo.onStore (t₁.replay uses).store = t.store := by
  rw [hw.store_kept hr, hedit.undo_edit]

theorem settled_synchronized (hw : Wrote t t₁ edit)
    (hedit : Revision t.store k name record edit undo) (htarget : target? = some (k, name))
    (hchanged : changed? = some (edit.onStore t.store)) (hidle : ∀ u ∈ reads, Idle u)
    (hr : Rendering template (edit.onStore t.store) (.ok ()) uses) :
    Settled template target? changed? t (t₁.replay (uses ++ [(.reload, true)]))
      (reads ++ (edit, true) :: (uses ++ [(.reload, true)])) (.ok record) := by
  have hstore : (t₁.replay (uses ++ [(.reload, true)])).store = edit.onStore t.store := by
    rw [replay_append]
    exact hw.store_kept hr
  refine ⟨by rw [hstore, hchanged], ⟨k, name, htarget, fun key => ?_⟩, ?_, ?_⟩
  · rw [hstore, hedit.get?_records]
  · rw [hstore, replay_append]
    exact hr.rendered_replay t₁
  · have hother : ¬ edit = .reload := hedit.ne_reload.1
    rw [List.filter_append, filter_reload_idle hidle, List.filter_cons,
      if_neg (by simpa using hother), List.filter_append, hr.filter_reload]
    rfl

theorem settled_renderingUndone (hw : Wrote t t₁ edit)
    (hedit : Revision t.store k name record edit undo) {failure : SyncFailure}
    (hr : Rendering template (edit.onStore t.store) (.error failure) uses) (earlier : List Use) :
    Settled template target? changed? t (t₁.replay (uses ++ [(undo, true)])) earlier
      (.error (.sync failure)) := by
  have hstore : (t₁.replay (uses ++ [(undo, true)])).store = t.store := by
    rw [replay_append]
    exact hw.store_undone hedit hr
  have hfile : (t₁.replay (uses ++ [(undo, true)])).file = t.file := by
    rw [replay_append]
    change undo.onFile (t₁.replay uses).file = t.file
    rw [(hedit.onFile_eq _).2, hr.file_replay, hw.file_eq]
  cases failure with
  | reload fault => exact hr.not_reload.elim
  | read cause => exact ⟨hstore, hfile⟩
  | render cause => exact ⟨hstore, hfile⟩

theorem settled_renderingStuck (hw : Wrote t t₁ edit)
    (hchanged : changed? = some (edit.onStore t.store)) {failure : SyncFailure}
    (hr : Rendering template (edit.onStore t.store) (.error failure) uses)
    (rollback : StoreFault) (earlier : List Use) :
    Settled template target? changed? t (t₁.replay (uses ++ [(undo, false)])) earlier
      (.error (.outOfSync failure rollback)) := by
  have hstore : (t₁.replay (uses ++ [(undo, false)])).store = edit.onStore t.store := by
    rw [replay_append]
    exact hw.store_kept hr
  have hfile : (t₁.replay (uses ++ [(undo, false)])).file = t.file := by
    rw [replay_append]
    exact (hr.file_replay t₁).trans hw.file_eq
  cases failure with
  | reload fault => exact hr.not_reload.elim
  | read cause => exact ⟨by rw [hstore, hchanged], hfile⟩
  | render cause => exact ⟨by rw [hstore, hchanged], hfile⟩

/-- A second rendering, from the old store, follows when the change has been
taken back after a failed reload. -/
theorem settled_reloadUndone (hw : Wrote t t₁ edit)
    (hedit : Revision t.store k name record edit undo)
    (hchanged : changed? = some (edit.onStore t.store)) (hs : t.store.HoldsEntity k name)
    (hr : Rendering template (edit.onStore t.store) (.ok ()) uses) (fault : ReloadFault)
    {uses' : List Use} {r : Except SyncFailure Unit} (hr' : Rendering template t.store r uses')
    (earlier : List Use) :
    Settled template target? changed? t
      (t₁.replay (uses ++ [(.reload, false), (undo, true)] ++ uses')) (earlier ++ uses')
      (.error (.sync (.reload fault))) := by
  have hdec : t.store.Decodable := hedit.decodable hs hr.decodable
  rw [replay_append, replay_append]
  refine ⟨?_, fun hrefused => ?_, fun hrefused => ?_⟩
  · rw [hr'.store_replay]
    exact hw.store_undone hedit hr
  · cases r with
    | ok _ => exact hr'.rendered_replay _
    | error failure => exact absurd (hr'.restoreRefused hdec _) hrefused
  · cases r with
    | ok _ => exact absurd hrefused (hr'.not_restoreRefused _)
    | error failure =>
        refine ⟨edit.onStore t.store, hchanged, ?_⟩
        rw [hr'.file_replay]
        change Rendered template _ (undo.onFile (t₁.replay uses).file)
        rw [(hedit.onFile_eq _).2]
        exact hr.rendered_replay t₁

theorem settled_reloadStuck (hw : Wrote t t₁ edit)
    (hchanged : changed? = some (edit.onStore t.store))
    (hr : Rendering template (edit.onStore t.store) (.ok ()) uses) (fault : ReloadFault)
    (rollback : StoreFault) (earlier : List Use) :
    Settled template target? changed? t
      (t₁.replay (uses ++ [(.reload, false), (undo, false)])) earlier
      (.error (.outOfSync (.reload fault) rollback)) := by
  have hstore : (t₁.replay (uses ++ [(.reload, false), (undo, false)])).store =
      edit.onStore t.store := by
    rw [replay_append]
    exact hw.store_kept hr
  refine ⟨by rw [hstore, hchanged], ?_⟩
  rw [hstore, replay_append]
  exact hr.rendered_replay t₁

end Written

/-- **Every way a change can go leaves what its outcome says.** -/
theorem Changing.settled {t : Trial} {r : Except ServiceFault (Option String)}
    (h : Changing template t.store target? changed? r uses)
    (hs : ∀ k name, target? = some (k, name) → t.store.HoldsEntity k name) :
    Settled template target? changed? t (t.replay uses) uses r := by
  cases h with
  | @givenUp fault hfault uses hidle =>
      obtain ⟨hstore, hfile⟩ := replay_idle hidle t
      have hne : ∀ u ∈ uses, u.1 ≠ .reload ∧ u.1.isRendering = false :=
        fun u hu => ne_of_idle (hidle u hu)
      cases fault <;> first | exact ⟨hstore, hfile, hne⟩ | cases hfault
  | @written k name htarget record edit undo hedit hchanged reads hidle r uses events hsync =>
      have hw := Wrote.of_idle hidle hedit
      rw [replay_append, replay_cons]
      cases hsync with
      | synchronized hr => exact settled_synchronized hw hedit htarget hchanged hidle hr
      | renderingUndone hr => exact settled_renderingUndone hw hedit hr _
      | renderingStuck hr rollback => exact settled_renderingStuck hw hchanged hr rollback _
      | @reloadUndone uses uses' r hr fault hr' =>
          have hsplit :
              reads ++ (edit, true) :: (uses ++ [(.reload, false), (undo, true)] ++ uses') =
                reads ++ (edit, true) :: (uses ++ [(.reload, false), (undo, true)]) ++ uses' := by
            simp
          rw [hedit.undo_edit] at hr'
          rw [hsplit]
          exact settled_reloadUndone hw hedit hchanged (hs k name htarget) hr fault hr' _
      | reloadStuck hr fault rollback => exact settled_reloadStuck hw hchanged hr fault rollback _

/-- **The outcome of a change fixes store and file.** In any store where the
record the call is about is in order, with any port calls refused. The other
records are any texts, whether they decode or not; bytes that are no text can
be had in a `Table` only, and would be one more record of either sort. -/
theorem answer_settled (template : Template) {c : Call} (hc : c.isChange = true)
    {s s' : Scene Trial} {r : Except ServiceFault Reply}
    (hs : ∀ k name, c.target? = some (k, name) → s.world.store.HoldsEntity k name)
    (h : perform ((service template).answer c) s = (r, s')) :
    ∃ uses, s'.world.log = uses.reverse ++ s.world.log ∧
      Settled template c.target? (c.changed? s.world.store) s.world s'.world uses
        (r.map Reply.record?) := by
  obtain ⟨uses, events, rfl, hchanging⟩ := answer_changes hc hs h
  exact ⟨uses, log_replay s.world uses, hchanging.settled hs⟩

/-- A stored listener, and a tape that refuses first the reload and then the
rendering that is to restore the file. -/
def unrestored : Trial where
  store := Store.empty.put .frontend "web_1" (Entity.listener { name := "web_1" }).text
  refusals := [false, false, false, false, false, true, false, true]

/-- A new address for the listener in `unrestored`, under a name that is not
in its stored form. -/
def rebinding : Call := .save (.listener { name := "web 1", bind := "*:81" })

theorem answer_settled_unrestored :
    rebinding.isChange = true ∧
      (∀ k name, rebinding.target? = some (k, name) → unrestored.store.HoldsEntity k name) ∧
      ∃ r s' uses,
        perform ((service .default).answer rebinding) ⟨unrestored, []⟩ = (r, s') ∧
          r.map Reply.record? = .error (.sync (.reload (.failed "" "refused"))) ∧
          s'.world.log = uses.reverse ++ unrestored.log ∧
          Settled .default rebinding.target? (rebinding.changed? unrestored.store) unrestored
            s'.world uses (r.map Reply.record?) := by
  have hholds (k : Kind) (name : String) (h : rebinding.target? = some (k, name)) :
      unrestored.store.HoldsEntity k name := by
    have htarget : rebinding.target? = some (.frontend, "web_1") := by decide
    obtain ⟨rfl, rfl⟩ := Prod.mk.inj (Option.some.inj (htarget.symm.trans h))
    intro text htext
    rw [unrestored, Store.text?_put, if_pos ⟨rfl, rfl⟩] at htext
    exact ⟨.listener { name := "web_1" }, rfl, rfl, (Option.some.inj htext).symm⟩
  obtain ⟨uses, hlog, hsettled⟩ :=
    answer_settled .default (c := rebinding) (s := ⟨unrestored, []⟩) rfl hholds Prod.mk.eta.symm
  exact ⟨rfl, hholds, _, _, uses, Prod.mk.eta.symm, by decide +kernel, hlog, hsettled⟩

end Trial

end ProxySync
