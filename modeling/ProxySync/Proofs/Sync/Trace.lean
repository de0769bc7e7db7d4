import ProxySync.Proofs.Store.Basic
import ProxySync.Proofs.Sync.Act
import ProxySync.Sync.Trial

/-!
# Traces of the service in a trial

What a step of the service can do in a trial, said once for each step: which
port calls it makes in which order, which of them went through, what it
counts, and how it ends. A trial changes by its port calls alone
(`Trial.replay`), so a trace tells the store and the file that a step leaves
behind. `Rendering` and `Synchronization` have one constructor for each way
in which the step can end, and `synchronize_trace` says that no step ends in
another way.
-/

namespace ProxySync

open ConfigFile

/-! ## Port calls and what they leave behind -/

/-- A port call and whether it went through. -/
abbrev Use := PortUse × Bool

namespace PortUse

/-- The store after a call that went through. -/
def onStore : PortUse → Store → Store
  | .put k name text, s => s.put k name text
  | .remove k name, s => s.remove k name
  | _, s => s

/-- The configuration file after a call that went through. -/
def onFile : PortUse → Option String → Option String
  | .writeConfig text, _ => some text
  | _, file => file

end PortUse

namespace Trial

def after (t : Trial) (u : Use) : Trial where
  store := if u.2 then u.1.onStore t.store else t.store
  file := if u.2 then u.1.onFile t.file else t.file
  refusals := t.refusals.tail
  log := u :: t.log

/-- The trial after some port calls, the first one first. -/
def replay (t : Trial) : List Use → Trial
  | [] => t
  | u :: uses => (t.after u).replay uses

@[simp] theorem replay_nil (t : Trial) : t.replay [] = t := rfl

@[simp] theorem replay_cons (t : Trial) (u : Use) (uses : List Use) :
    t.replay (u :: uses) = (t.after u).replay uses := rfl

theorem replay_append (t : Trial) (uses uses' : List Use) :
    t.replay (uses ++ uses') = (t.replay uses).replay uses' := by
  induction uses generalizing t with
  | nil => rfl
  | cons u uses ih => exact ih (t.after u)

theorem log_replay (t : Trial) (uses : List Use) : (t.replay uses).log = uses.reverse ++ t.log := by
  induction uses generalizing t with
  | nil => rfl
  | cons u uses ih => simp [ih, after]

end Trial

namespace Scene

/-- The scene after some port calls, with what was counted meanwhile, the
latest event first. -/
def after (s : Scene Trial) (uses : List Use) (events : List Event) : Scene Trial :=
  ⟨s.world.replay uses, events ++ s.events⟩

@[simp] theorem after_nil (s : Scene Trial) : s.after [] [] = s := rfl

@[simp] theorem after_after (s : Scene Trial) (uses uses' : List Use)
    (events events' : List Event) :
    (s.after uses events).after uses' events' = s.after (uses ++ uses') (events' ++ events) := by
  simp [after, Trial.replay_append]

end Scene

/-- A single port call went from `s` to `s'`: it was refused, or it gave its
answer and had its effect. -/
def Called {ε α : Type} (s : Scene Trial) (use : PortUse) (answer : α) (r : Except ε α)
    (s' : Scene Trial) : Prop :=
  (∃ fault, r = .error fault ∧ s' = s.after [(use, false)] []) ∨
    (r = .ok answer ∧ s' = s.after [(use, true)] [])

namespace Trial

open Act

variable {s s' : Scene Trial}

/-! ## Single port calls -/

theorem ask_call {ε α : Type} {use : PortUse} {refusal : ε} (answer : Trial → α)
    {act : PortCall Trial ε α} {r : Except ε α}
    (hact : ∀ t, act t =
      (.ok (answer t), { t with store := use.onStore t.store, file := use.onFile t.file }))
    (hanswer : ∀ t refusals, answer { t with refusals := refusals } = answer t)
    (h : perform (ask (call use refusal act)) s = (r, s')) :
    Called s use (answer s.world) r s' := by
  unfold perform ask call at h
  dsimp only at h
  split at h
  · obtain ⟨rfl, rfl⟩ := Prod.mk.inj h
    exact Or.inl ⟨refusal, rfl, rfl⟩
  · rw [hact, hanswer] at h
    obtain ⟨rfl, rfl⟩ := Prod.mk.inj h
    exact Or.inr ⟨rfl, rfl⟩

theorem ask_lookup {k : Kind} {name : String} {r : Except StoreFault (Option String)}
    (h : perform (ask (ports.lookup k name)) s = (r, s')) :
    Called s (.lookup k name) (s.world.store.text? k name) r s' :=
  ask_call (fun t => t.store.text? k name) (fun _ => rfl) (fun _ _ => rfl) h

theorem ask_scan {k : Kind} {r : Except StoreFault (List (String × String))}
    (h : perform (ask (ports.scan k)) s = (r, s')) :
    Called s (.scan k) (s.world.store.scan k) r s' :=
  ask_call (fun t => t.store.scan k) (fun _ => rfl) (fun _ _ => rfl) h

theorem ask_put {k : Kind} {name text : String} {r : Except StoreFault Unit}
    (h : perform (ask (ports.put k name text)) s = (r, s')) :
    Called s (.put k name text) () r s' :=
  ask_call (fun _ => ()) (fun _ => rfl) (fun _ _ => rfl) h

theorem ask_remove {k : Kind} {name : String} {r : Except StoreFault Unit}
    (h : perform (ask (ports.remove k name)) s = (r, s')) :
    Called s (.remove k name) () r s' :=
  ask_call (fun _ => ()) (fun _ => rfl) (fun _ _ => rfl) h

theorem ask_writeConfig {text : String} {r : Except ConfigFault Unit}
    (h : perform (ask (ports.writeConfig text)) s = (r, s')) :
    Called s (.writeConfig text) () r s' :=
  ask_call (fun _ => ()) (fun _ => rfl) (fun _ _ => rfl) h

theorem ask_reload {r : Except ReloadFault Unit}
    (h : perform (ask ports.reload) s = (r, s')) : Called s .reload () r s' :=
  ask_call (fun _ => ()) (fun _ => rfl) (fun _ _ => rfl) h

/-- Reading the file fails also when there is none. -/
theorem ask_readConfig {r : Except ConfigFault String}
    (h : perform (ask ports.readConfig) s = (r, s')) :
    (∃ fault, r = .error fault ∧ s' = s.after [(.readConfig, false)] []) ∨
      ∃ text, s.world.file = some text ∧ r = .ok text ∧ s' = s.after [(.readConfig, true)] [] := by
  unfold perform ask ports call at h
  dsimp only at h
  split at h
  · obtain ⟨rfl, rfl⟩ := Prod.mk.inj h
    exact Or.inl ⟨_, rfl, rfl⟩
  · split at h
    · next text hfile =>
      obtain ⟨rfl, rfl⟩ := Prod.mk.inj h
      exact Or.inr ⟨text, hfile, rfl, rfl⟩
    · obtain ⟨rfl, rfl⟩ := Prod.mk.inj h
      exact Or.inl ⟨_, rfl, rfl⟩

/-! ## Reading -/

variable {template : Template} {α : Type} [Record α]

theorem lookup_trace {name : String} {r : Except StoreFault (Option α)}
    (h : perform ((service template).lookup α name) s = (r, s')) :
    (∃ fault, r = .error fault ∧ s' = s.after [(.lookup (Record.kind α) name, false)] []) ∨
      (r = s.world.store.get? name ∧ s' = s.after [(.lookup (Record.kind α) name, true)] []) := by
  unfold Service.lookup at h
  rcases perform_bind h with ⟨e, hask, rfl⟩ | ⟨found, s₁, hask, hnext⟩
  · rcases ask_lookup hask with ⟨fault, he, rfl⟩ | ⟨he, -⟩
    · exact Or.inl ⟨e, rfl, rfl⟩
    · cases he
  · rcases ask_lookup hask with ⟨fault, he, -⟩ | ⟨he, rfl⟩
    · cases he
    · obtain rfl := Except.ok.inj he
      refine Or.inr ?_
      split at hnext
      · next hnone =>
        rw [Store.get?_of_none hnone]
        exact perform_pure hnext
      · next text hsome =>
        rw [Store.get?_of_some hsome]
        rcases perform_bind hnext with ⟨e, hlift, rfl⟩ | ⟨a, s₂, hlift, hpure⟩
        · obtain ⟨he, rfl⟩ := perform_lift hlift
          rw [← he]
          exact ⟨rfl, rfl⟩
        · obtain ⟨ha, rfl⟩ := perform_lift hlift
          rw [← ha]
          exact perform_pure hpure

theorem listAll_trace {r : Except StoreFault (List α)}
    (h : perform ((service template).listAll α) s = (r, s')) :
    (∃ fault, r = .error fault ∧ s' = s.after [(.scan (Record.kind α), false)] []) ∨
      (r = s.world.store.all ∧ s' = s.after [(.scan (Record.kind α), true)] []) := by
  unfold Service.listAll at h
  rcases perform_bind h with ⟨e, hask, rfl⟩ | ⟨found, s₁, hask, hnext⟩
  · rcases ask_scan hask with ⟨fault, he, rfl⟩ | ⟨he, -⟩
    · exact Or.inl ⟨e, rfl, rfl⟩
    · cases he
  · rcases ask_scan hask with ⟨fault, he, -⟩ | ⟨he, rfl⟩
    · cases he
    · obtain rfl := Except.ok.inj he
      exact Or.inr (perform_lift hnext)

/-- A read that fails was refused or met a record that does not decode. -/
theorem blaming_listAll_error {ε : Type} {place : StoreFault → ε} {e : ε}
    (h : perform (blaming place ((service template).listAll α)) s = (.error e, s')) :
    ∃ fault, e = place fault ∧
      (s' = s.after [(.scan (Record.kind α), false)] [] ∨
        ((s.world.store.all : Except StoreFault (List α)) = .error fault ∧
          s' = s.after [(.scan (Record.kind α), true)] [])) := by
  obtain ⟨x, hx, he⟩ := perform_blaming h
  cases x with
  | ok as => cases he
  | error fault =>
      refine ⟨fault, Except.error.inj he, ?_⟩
      rcases listAll_trace hx with ⟨-, -, rfl⟩ | ⟨hall, rfl⟩
      · exact Or.inl rfl
      · exact Or.inr ⟨hall.symm, rfl⟩

theorem blaming_listAll_ok {ε : Type} {place : StoreFault → ε} {as : List α}
    (h : perform (blaming place ((service template).listAll α)) s = (.ok as, s')) :
    s.world.store.all = .ok as ∧ s' = s.after [(.scan (Record.kind α), true)] [] := by
  obtain ⟨x, hx, he⟩ := perform_blaming h
  cases x with
  | error fault => cases he
  | ok as' =>
      obtain rfl := Except.ok.inj he
      rcases listAll_trace hx with ⟨fault, hfault, -⟩ | ⟨hall, rfl⟩
      · cases hfault
      · exact ⟨hall.symm, rfl⟩

/-! ## Rendering -/

/-- How writing the configuration file from the store ends: refused while
reading, stopped by a record that does not decode, refused while writing, or
done. -/
inductive Rendering (template : Template) (store : Store) :
    Except SyncFailure Unit → List Use → Prop where
  | listenersRefused (fault : StoreFault) :
      Rendering template store (.error (.read fault)) [(.scan .frontend, false)]
  | listenersUndecodable {fault : StoreFault}
      (h : (store.all : Except StoreFault (List Listener)) = .error fault) :
      Rendering template store (.error (.read fault)) [(.scan .frontend, true)]
  | poolsRefused (fault : StoreFault) :
      Rendering template store (.error (.read fault))
        [(.scan .frontend, true), (.scan .backend, false)]
  | poolsUndecodable {fault : StoreFault}
      (h : (store.all : Except StoreFault (List Pool)) = .error fault) :
      Rendering template store (.error (.read fault))
        [(.scan .frontend, true), (.scan .backend, true)]
  | unwritten {listeners : List Listener} {pools : List Pool}
      (hl : store.all = .ok listeners) (hp : store.all = .ok pools) (fault : ConfigFault) :
      Rendering template store (.error (.render fault))
        [(.scan .frontend, true), (.scan .backend, true),
          (.writeConfig (template.render listeners pools), false)]
  | written {listeners : List Listener} {pools : List Pool}
      (hl : store.all = .ok listeners) (hp : store.all = .ok pools) :
      Rendering template store (.ok ())
        [(.scan .frontend, true), (.scan .backend, true),
          (.writeConfig (template.render listeners pools), true)]

theorem renderCurrent_trace {r : Except SyncFailure Unit}
    (h : perform (service template).renderCurrent s = (r, s')) :
    ∃ uses, s' = s.after uses [] ∧ Rendering template s.world.store r uses := by
  unfold Service.renderCurrent at h
  rcases perform_bind h with ⟨e, hread, rfl⟩ | ⟨listeners, s₁, hread, h⟩
  · obtain ⟨fault, rfl, rfl | ⟨hall, rfl⟩⟩ := blaming_listAll_error hread
    · exact ⟨_, rfl, .listenersRefused fault⟩
    · exact ⟨_, rfl, .listenersUndecodable hall⟩
  obtain ⟨hl, rfl⟩ := blaming_listAll_ok hread
  rcases perform_bind h with ⟨e, hread, rfl⟩ | ⟨pools, s₂, hread, h⟩
  · obtain ⟨fault, rfl, rfl | ⟨hall, rfl⟩⟩ := blaming_listAll_error hread
    · exact ⟨_, Scene.after_after .., .poolsRefused fault⟩
    · exact ⟨_, Scene.after_after .., .poolsUndecodable hall⟩
  obtain ⟨hp, rfl⟩ := blaming_listAll_ok hread
  obtain ⟨x, hask, rfl⟩ := perform_blaming h
  rcases ask_writeConfig hask with ⟨fault, rfl, rfl⟩ | ⟨rfl, rfl⟩
  · exact ⟨_, by simp only [Scene.after_after]; rfl, .unwritten hl hp fault⟩
  · exact ⟨_, by simp only [Scene.after_after]; rfl, .written hl hp⟩

theorem reload_trace {r : Except SyncFailure Unit}
    (h : perform (service template).reload s = (r, s')) :
    (∃ fault, r = .error (.reload fault) ∧ s' = s.after [(.reload, false)] [.reload false]) ∨
      (r = .ok () ∧ s' = s.after [(.reload, true)] [.reload true]) := by
  unfold Service.reload at h
  obtain ⟨x, s₁, hask, hnext⟩ := perform_attempt_bind h
  rcases ask_reload hask with ⟨fault, rfl, rfl⟩ | ⟨rfl, rfl⟩
  · have hthrow := perform_count_bind hnext
    obtain ⟨rfl, rfl⟩ := perform_throw hthrow
    exact Or.inl ⟨fault, rfl, rfl⟩
  · exact Or.inr (perform_count hnext)

/-! ## Synchronization -/

/-- How bringing file and proxy in line with `store` ends, when `undo` is the
call that takes the change back: with the file written and the proxy
reloaded; stopped while rendering; or stopped by the reload, which alone
leaves the new file behind and so is followed by one more rendering. -/
inductive Synchronization (template : Template) (store : Store) (undo : PortUse) :
    Except ServiceFault Unit → List Use → List Event → Prop where
  | synchronized {uses : List Use} (hr : Rendering template store (.ok ()) uses) :
      Synchronization template store undo (.ok ()) (uses ++ [(.reload, true)])
        [.reload true, .sync]
  | renderingUndone {failure : SyncFailure} {uses : List Use}
      (hr : Rendering template store (.error failure) uses) :
      Synchronization template store undo (.error (.sync failure)) (uses ++ [(undo, true)]) [.sync]
  | renderingStuck {failure : SyncFailure} {uses : List Use}
      (hr : Rendering template store (.error failure) uses) (rollback : StoreFault) :
      Synchronization template store undo (.error (.outOfSync failure rollback))
        (uses ++ [(undo, false)]) [.sync]
  | reloadUndone {uses uses' : List Use} {r : Except SyncFailure Unit}
      (hr : Rendering template store (.ok ()) uses) (fault : ReloadFault)
      (hr' : Rendering template (undo.onStore store) r uses') :
      Synchronization template store undo (.error (.sync (.reload fault)))
        (uses ++ [(.reload, false), (undo, true)] ++ uses') [.reload false, .sync]
  | reloadStuck {uses : List Use} (hr : Rendering template store (.ok ()) uses)
      (fault : ReloadFault) (rollback : StoreFault) :
      Synchronization template store undo (.error (.outOfSync (.reload fault) rollback))
        (uses ++ [(.reload, false), (undo, false)]) [.reload false, .sync]

/-- Reading and rendering leave the store alone. -/
theorem Rendering.store_replay {store : Store} {r : Except SyncFailure Unit} {uses : List Use}
    (hr : Rendering template store r uses) (t : Trial) : (t.replay uses).store = t.store := by
  cases hr <;> rfl

theorem Rendering.not_reload {store : Store} {fault : ReloadFault} {uses : List Use}
    (hr : Rendering template store (.error (.reload fault)) uses) : False := by
  cases hr

theorem renderAndReload_trace {r : Except SyncFailure Unit}
    (h : perform (service template).renderAndReload s = (r, s')) :
    (∃ failure uses, r = .error failure ∧ s' = s.after uses [.sync] ∧
        Rendering template s.world.store (.error failure) uses) ∨
      ∃ uses, Rendering template s.world.store (.ok ()) uses ∧
        ((∃ fault, r = .error (.reload fault) ∧
            s' = s.after (uses ++ [(.reload, false)]) [.reload false, .sync]) ∨
          (r = .ok () ∧ s' = s.after (uses ++ [(.reload, true)]) [.reload true, .sync])) := by
  unfold Service.renderAndReload at h
  rcases perform_bind (perform_count_bind h) with ⟨e, hrender, rfl⟩ | ⟨_, s₁, hrender, hreload⟩
  · obtain ⟨uses, rfl, hr⟩ := renderCurrent_trace hrender
    exact Or.inl ⟨e, uses, rfl, rfl, hr⟩
  · obtain ⟨uses, rfl, hr⟩ := renderCurrent_trace hrender
    refine Or.inr ⟨uses, hr, ?_⟩
    rcases reload_trace hreload with ⟨fault, rfl, rfl⟩ | ⟨rfl, rfl⟩
    · exact Or.inl ⟨fault, rfl, by rw [Scene.after_after]; rfl⟩
    · exact Or.inr ⟨rfl, by rw [Scene.after_after]; rfl⟩

/-- The step makes the one port call `use` and nothing else. -/
def Performs (act : Act Trial StoreFault Unit) (use : PortUse) : Prop :=
  ∀ {s s' : Scene Trial} {r : Except StoreFault Unit},
    perform act s = (r, s') → Called s use () r s'

theorem performs_store (a : α) :
    Performs ((service template).store a) (.put (Record.kind α) (Record.name a) (Record.text a)) :=
  ask_put

theorem performs_discard (name : String) :
    Performs ((service template).discard α name) (.remove (Record.kind α) name) :=
  ask_remove

theorem synchronize_trace {undo : Act Trial StoreFault Unit} {use : PortUse}
    (hundo : Performs undo use) {r : Except ServiceFault Unit}
    (h : perform ((service template).synchronize undo) s = (r, s')) :
    ∃ uses events, s' = s.after uses events ∧
      Synchronization template s.world.store use r uses events := by
  unfold Service.synchronize at h
  obtain ⟨x, s₁, hsync, h⟩ := perform_attempt_bind h
  rcases renderAndReload_trace hsync with
    ⟨failure, uses, rfl, rfl, hr⟩ | ⟨uses, hr, ⟨fault, rfl, rfl⟩ | ⟨rfl, rfl⟩⟩
  · obtain ⟨y, s₂, hback, h⟩ := perform_attempt_bind h
    rcases hundo hback with ⟨rollback, rfl, rfl⟩ | ⟨rfl, rfl⟩
    · obtain ⟨rfl, rfl⟩ := perform_throw h
      exact ⟨_, _, Scene.after_after .., .renderingStuck hr rollback⟩
    · have hfile : failure.isFileWritten = false := by
        cases failure with
        | reload fault => exact hr.not_reload.elim
        | read cause => rfl
        | render cause => rfl
      simp only [hfile] at h
      obtain ⟨rfl, rfl⟩ := perform_throw h
      exact ⟨_, _, Scene.after_after .., .renderingUndone hr⟩
  · obtain ⟨y, s₂, hback, h⟩ := perform_attempt_bind h
    rcases hundo hback with ⟨rollback, rfl, rfl⟩ | ⟨rfl, rfl⟩
    · obtain ⟨rfl, rfl⟩ := perform_throw h
      refine ⟨_, _, Scene.after_after .., ?_⟩
      rw [List.append_assoc]
      exact .reloadStuck hr fault rollback
    · dsimp only at h
      rw [if_pos (show (SyncFailure.reload fault).isFileWritten = true from rfl)] at h
      obtain ⟨z, s₃, hrender, h⟩ := perform_attempt_bind h
      obtain ⟨rfl, rfl⟩ := perform_throw h
      obtain ⟨uses', rfl, hr'⟩ := renderCurrent_trace hrender
      have hstore : (s.world.replay (uses ++ [(.reload, false)] ++ [(use, true)])).store =
          use.onStore s.world.store := by
        rw [replay_append, replay_append]
        exact congrArg use.onStore (hr.store_replay s.world)
      simp only [Scene.after_after, List.nil_append] at hr' ⊢
      refine ⟨_, _, rfl, ?_⟩
      rw [List.append_assoc uses]
      exact .reloadUndone hr fault (hstore ▸ hr')
  · obtain ⟨rfl, rfl⟩ := perform_pure h
    exact ⟨_, _, rfl, .synchronized hr⟩

end Trial

end ProxySync
