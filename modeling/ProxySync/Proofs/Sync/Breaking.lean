import ProxySync.Proofs.Store.Entities
import ProxySync.Proofs.Sync.Tape

/-!
# Where a synchronization breaks off

Each step of a synchronization makes one port call and fails for a reason that
can be read off this call (`OneCall`). So a synchronization breaks off for the
first such reason among its calls, and then its fault is this reason, also
when a later call fails (`synchronize_ending`).
-/

namespace ProxySync

open ConfigFile Act

namespace Trial

/-! ## What can be read off a call -/

/-- Why a synchronization of `store` breaks off in this call, if it does: the
call was refused, or it has read a record that does not decode. -/
def failure? (store : Store) : Use → Option SyncFailure
  | (.scan _, false) => some (.read (.engine "read refused"))
  | (.scan k, true) =>
    match store.entities k with
    | .ok _ => none
    | .error fault => some (.read fault)
  | (.writeConfig _, false) => some (.render (.io .diskFull))
  | (.reload, false) => some (.reload (.failed "" "refused"))
  | _ => none

/-- No call is a write to the store. -/
def Writeless (uses : List Use) : Prop := ∀ u ∈ uses, u.1.isWrite = false

/-- Every call is part of a rendering or a reload. -/
def Refreshing (uses : List Use) : Prop := ∀ u ∈ uses, u.1.isSeeding = false

variable {template : Template} {store : Store} {s s' s₀ : Scene Trial} {uses later : List Use}
  {u : Use} {cause : SyncFailure}

theorem refreshing_concat (h : Refreshing uses) (hu : u.1.isSeeding = false) :
    Refreshing (uses ++ [u]) :=
  List.forall_mem_append.mpr ⟨h, List.forall_mem_singleton.mpr hu⟩

theorem Refreshing.writeless (h : Refreshing uses) : Writeless uses := by
  intro u hu
  have hseeding := h u hu
  cases hwrite : u.1.isWrite with
  | false => rfl
  | true =>
      rw [PortUse.isSeeding_iff.mpr (PortUse.sort_of_isWrite hwrite)] at hseeding
      cases hseeding

/-- Without writes the store stays as it is. -/
theorem Writeless.store_replay (h : Writeless uses) (t : Trial) :
    (t.replay uses).store = t.store := by
  induction uses generalizing t with
  | nil => rfl
  | cons u uses ih =>
      obtain ⟨hu, huses⟩ := List.forall_mem_cons.mp h
      rw [replay_cons, ih huses]
      obtain ⟨use, through⟩ := u
      cases use with
      | put | remove => cases hu
      | _ => cases through <;> rfl

/-! ## Steps with one call -/

/-- The step makes one port call, not a write, and fails just when there is a
reason for it in this call. -/
def OneCall {α : Type} (act : Act Trial SyncFailure α) : Prop :=
  ∀ {s s' : Scene Trial} {r : Except SyncFailure α}, perform act s = (r, s') →
    ∃ u events, s' = s.after [u] events ∧ u.1.isSeeding = false ∧
      ((∃ a, r = .ok a ∧ failure? s.world.store u = none) ∨
        ∃ cause, r = .error cause ∧ failure? s.world.store u = some cause)

theorem oneCall_listAll {α : Type} [Record α] {f : List α → List Entity}
    (hf : ∀ store : Store, store.entities (Record.kind α) = store.all.map f) :
    OneCall (blaming .read ((service template).listAll α)) := by
  intro s s' r h
  obtain ⟨x, hlist, rfl⟩ := perform_blaming h
  rcases asked_entities hlist with ⟨-, rfl, rfl⟩ | ⟨-, rfl, rfl⟩
  · exact ⟨_, [], rfl, rfl, .inr ⟨_, rfl, rfl⟩⟩
  · refine ⟨_, [], rfl, rfl, ?_⟩
    rw [failure?, hf]
    cases (s.world.store.all : Except StoreFault (List α)) with
    | ok as => exact .inl ⟨as, rfl, rfl⟩
    | error fault => exact .inr ⟨_, rfl, rfl⟩

theorem oneCall_writeConfig (text : String) :
    OneCall (blaming .render (ask (ports.writeConfig text))) := by
  intro s s' r h
  obtain ⟨x, hask, rfl⟩ := perform_blaming h
  rcases asked_writeConfig hask with ⟨-, rfl, rfl⟩ | ⟨-, rfl, rfl⟩
  · exact ⟨_, [], rfl, rfl, .inr ⟨_, rfl, rfl⟩⟩
  · exact ⟨_, [], rfl, rfl, .inl ⟨(), rfl, rfl⟩⟩

theorem oneCall_reload : OneCall (service template).reload := by
  intro s s' r h
  unfold Service.reload at h
  obtain ⟨x, s₁, hask, hnext⟩ := perform_attempt_bind h
  rcases asked_reload hask with ⟨-, rfl, rfl⟩ | ⟨-, rfl, rfl⟩
  · have hthrow := perform_count_bind hnext
    obtain ⟨rfl, rfl⟩ := perform_throw hthrow
    exact ⟨_, [_], rfl, rfl, .inr ⟨_, rfl, rfl⟩⟩
  · obtain ⟨rfl, rfl⟩ := perform_count hnext
    exact ⟨_, [_], rfl, rfl, .inl ⟨(), rfl, rfl⟩⟩

/-! ## Synchronizations -/

/-- From `s₀` to `s` the service made port calls of which `p` holds. -/
def Made (p : List Use → Prop) (s₀ s : Scene Trial) : Prop :=
  ∃ uses events, s = s₀.after uses events ∧ p uses

/-- A synchronization of `store` has not failed yet. -/
def Smooth (store : Store) (uses : List Use) : Prop :=
  Refreshing uses ∧ uses.findSome? (failure? store) = none

/-- A synchronization of `store` broke off. -/
def Broken (store : Store) (cause : SyncFailure) (uses : List Use) : Prop :=
  Refreshing uses ∧ uses.findSome? (failure? store) = some cause

theorem Made.refl {p : List Use → Prop} (s : Scene Trial) (h : p []) : Made p s s :=
  ⟨[], [], rfl, h⟩

theorem Made.mono {p q : List Use → Prop} (h : Made p s₀ s) (hp : ∀ uses, p uses → q uses) :
    Made q s₀ s := by
  obtain ⟨uses, events, rfl, huses⟩ := h
  exact ⟨uses, events, rfl, hp uses huses⟩

theorem Made.after {p q : List Use → Prop} (h : Made p s₀ s) (events : List Event)
    (hp : ∀ uses, p uses → q (uses ++ later)) : Made q s₀ (s.after later events) := by
  obtain ⟨uses, events', rfl, huses⟩ := h
  exact ⟨uses ++ later, _, Scene.after_after .., hp uses huses⟩

theorem Made.count {p : List Use → Prop} (h : Made p s₀ s) (e : Event) :
    Made p s₀ { s with events := e :: s.events } := by
  obtain ⟨uses, events, rfl, huses⟩ := h
  exact ⟨uses, e :: events, rfl, huses⟩

/-- One more call of a synchronization. -/
theorem ensures_oneCall {α : Type} {act : Act Trial SyncFailure α} (hact : OneCall act) :
    Ensures (Made (Smooth s₀.world.store) s₀) act (fun _ => Made (Smooth s₀.world.store) s₀)
      fun cause => Made (Broken s₀.world.store cause) s₀ := by
  intro s r s' hmade h
  obtain ⟨u, events, rfl, hu, hends⟩ := hact h
  have hstore : s.world.store = s₀.world.store := by
    obtain ⟨uses, events, rfl, huses⟩ := hmade
    exact huses.1.writeless.store_replay s₀.world
  rw [hstore] at hends
  have hfirst (uses : List Use) (hnone : uses.findSome? (failure? s₀.world.store) = none) :
      (uses ++ [u]).findSome? (failure? s₀.world.store) = failure? s₀.world.store u := by
    rw [List.findSome?_append, hnone]
    simp
  rcases hends with ⟨a, rfl, hnone⟩ | ⟨cause, rfl, hcause⟩
  · exact hmade.after events fun uses hsmooth =>
      ⟨refreshing_concat hsmooth.1 hu, (hfirst uses hsmooth.2).trans hnone⟩
  · exact hmade.after events fun uses hsmooth =>
      ⟨refreshing_concat hsmooth.1 hu, (hfirst uses hsmooth.2).trans hcause⟩

theorem ensures_renderCurrent :
    Ensures (Made (Smooth s₀.world.store) s₀) (service template).renderCurrent
      (fun _ => Made (Smooth s₀.world.store) s₀)
      fun cause => Made (Broken s₀.world.store cause) s₀ := by
  unfold Service.renderCurrent
  refine Ensures.bind (ensures_oneCall (oneCall_listAll fun _ => rfl)) fun listeners => ?_
  refine Ensures.bind (ensures_oneCall (oneCall_listAll fun _ => rfl)) fun pools => ?_
  exact ensures_oneCall (oneCall_writeConfig _)

theorem ensures_renderAndReload :
    Ensures (Made (Smooth s₀.world.store) s₀) (service template).renderAndReload
      (fun _ => Made (Smooth s₀.world.store) s₀)
      fun cause => Made (Broken s₀.world.store cause) s₀ := by
  intro s r s' hmade h
  unfold Service.renderAndReload at h
  refine Ensures.bind ensures_renderCurrent (fun _ => ?_) (hmade.count .sync) (perform_count_bind h)
  exact ensures_oneCall oneCall_reload

/-- How a synchronization of `store` ends: without a failure; broken off and
taken back, after which the file may be restored; or broken off for good. -/
inductive Ending (store : Store) : Except ServiceFault Unit → List Use → Prop where
  | synchronized {uses : List Use} (h : Smooth store uses) : Ending store (.ok ()) uses
  | undone {cause : SyncFailure} {uses restore : List Use} (h : Broken store cause uses)
      {undo : PortUse} (hundo : undo.isWrite = true) (hrestore : Refreshing restore) :
      Ending store (.error (.sync cause)) (uses ++ (undo, true) :: restore)
  | stuck {cause : SyncFailure} {uses : List Use} (h : Broken store cause uses)
      {undo : PortUse} (hundo : undo.isWrite = true) :
      Ending store (.error (.outOfSync cause (.engine "write refused"))) (uses ++ [(undo, false)])

theorem Rendering.refreshing {r : Except SyncFailure Unit} (h : Rendering template store r uses) :
    Refreshing uses := by
  cases h <;> simp [Refreshing, PortUse.isSeeding, PortUse.isRendering]

theorem synchronize_ending {undo : Act Trial StoreFault Unit} {use : PortUse}
    (hundo : Writing undo use) {r : Except ServiceFault Unit}
    (h : perform ((service template).synchronize undo) s = (r, s')) :
    Made (Ending s.world.store r) s s' := by
  unfold Service.synchronize at h
  obtain ⟨x, s₁, hsync, h⟩ := perform_attempt_bind h
  have hends := ensures_renderAndReload (.refl s ⟨List.forall_mem_nil _, rfl⟩) hsync
  cases x with
  | ok _ =>
      obtain ⟨uses, events, rfl, hsmooth⟩ := hends
      obtain ⟨rfl, rfl⟩ := perform_pure h
      exact ⟨uses, events, rfl, .synchronized hsmooth⟩
  | error cause =>
      obtain ⟨uses, events, rfl, hbroken⟩ := hends
      obtain ⟨y, s₂, hback, h⟩ := perform_attempt_bind h
      rcases hundo.asked hback with ⟨-, rfl, rfl⟩ | ⟨-, rfl, rfl⟩
      · obtain ⟨rfl, rfl⟩ := perform_throw h
        exact ⟨_, _, Scene.after_after .., .stuck hbroken hundo.isWrite⟩
      · dsimp only at h
        split at h
        · obtain ⟨z, s₃, hrender, h⟩ := perform_attempt_bind h
          obtain ⟨rfl, rfl⟩ := perform_throw h
          obtain ⟨restore, rfl, hr⟩ := renderCurrent_trace hrender
          refine ⟨_, _, by simp only [Scene.after_after]; rfl, ?_⟩
          rw [List.append_assoc]
          exact .undone hbroken hundo.isWrite hr.refreshing
        · obtain ⟨rfl, rfl⟩ := perform_throw h
          refine ⟨_, _, Scene.after_after .., ?_⟩
          exact .undone hbroken hundo.isWrite (List.forall_mem_nil _)

end Trial

end ProxySync
