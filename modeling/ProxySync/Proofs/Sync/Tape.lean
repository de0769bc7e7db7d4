import ProxySync.Proofs.Sync.Order

/-!
# Port calls and the tape

Whether a port call goes through is decided by the head of the tape alone, and
a refused call fails with the refusal of its port (`Asked`).
-/

namespace ProxySync

open Act

/-- The next port call will go through. -/
def Trial.Open (t : Trial) : Prop := t.refusals.headD false = false

/-- A single port call went from `s` to `s'`: the tape refused it, or it gave
its answer and had its effect. -/
def Asked {ε α : Type} (s : Scene Trial) (use : PortUse) (refusal : ε) (answer : α)
    (r : Except ε α) (s' : Scene Trial) : Prop :=
  (¬ s.world.Open ∧ r = .error refusal ∧ s' = s.after [(use, false)] []) ∨
    (s.world.Open ∧ r = .ok answer ∧ s' = s.after [(use, true)] [])

namespace Trial

variable {s s' : Scene Trial} {k : Kind} {name text : String}

theorem asked_call {ε α : Type} {use : PortUse} {refusal : ε} (answer : Trial → α)
    {act : PortCall Trial ε α} {r : Except ε α}
    (hact : ∀ t, act t =
      (.ok (answer t), { t with store := use.onStore t.store, file := use.onFile t.file }))
    (hanswer : ∀ t refusals, answer { t with refusals := refusals } = answer t)
    (h : perform (ask (call use refusal act)) s = (r, s')) :
    Asked s use refusal (answer s.world) r s' := by
  unfold perform ask call at h
  dsimp only at h
  split at h
  · next hrefused =>
    obtain ⟨rfl, rfl⟩ := Prod.mk.inj h
    exact Or.inl ⟨ne_false_of_eq_true hrefused, rfl, rfl⟩
  · next hopen =>
    rw [hact, hanswer] at h
    obtain ⟨rfl, rfl⟩ := Prod.mk.inj h
    exact Or.inr ⟨eq_false_of_ne_true hopen, rfl, rfl⟩

theorem asked_lookup {r : Except StoreFault (Option String)}
    (h : perform (ask (ports.lookup k name)) s = (r, s')) :
    Asked s (.lookup k name) (.engine "read refused") (s.world.store.text? k name) r s' :=
  asked_call (fun t => t.store.text? k name) (fun _ => rfl) (fun _ _ => rfl) h

theorem asked_scan {r : Except StoreFault (List (String × String))}
    (h : perform (ask (ports.scan k)) s = (r, s')) :
    Asked s (.scan k) (.engine "read refused") (s.world.store.scan k) r s' :=
  asked_call (fun t => t.store.scan k) (fun _ => rfl) (fun _ _ => rfl) h

theorem asked_writeConfig {r : Except ConfigFault Unit}
    (h : perform (ask (ports.writeConfig text)) s = (r, s')) :
    Asked s (.writeConfig text) (.io .diskFull) () r s' :=
  asked_call (fun _ => ()) (fun _ => rfl) (fun _ _ => rfl) h

theorem asked_reload {r : Except ReloadFault Unit}
    (h : perform (ask ports.reload) s = (r, s')) :
    Asked s .reload (.failed "" "refused") () r s' :=
  asked_call (fun _ => ()) (fun _ => rfl) (fun _ _ => rfl) h

/-! ## Reading -/

section Reading

variable {template : ConfigFile.Template} {α : Type} [Record α]

theorem asked_entity {r : Except StoreFault (Option α)}
    (h : perform ((service template).lookup α name) s = (r, s')) :
    (¬ s.world.Open ∧ r = .error (.engine "read refused") ∧
        s' = s.after [(.lookup (Record.kind α) name, false)] []) ∨
      (s.world.Open ∧ r = s.world.store.get? name ∧
        s' = s.after [(.lookup (Record.kind α) name, true)] []) := by
  unfold Service.lookup at h
  rcases perform_bind h with ⟨fault, hask, rfl⟩ | ⟨found, s₁, hask, hnext⟩
  · rcases asked_lookup hask with ⟨hclosed, hfault, rfl⟩ | ⟨-, hok, -⟩
    · exact Or.inl ⟨hclosed, by rw [Except.error.inj hfault], rfl⟩
    · cases hok
  · rcases asked_lookup hask with ⟨-, hfault, -⟩ | ⟨hopen, hok, rfl⟩
    · cases hfault
    obtain rfl := Except.ok.inj hok
    refine Or.inr ⟨hopen, ?_⟩
    split at hnext
    · next hnone =>
      rw [Store.get?_of_none hnone]
      exact perform_pure hnext
    · next text hsome =>
      obtain ⟨x, hlift, rfl⟩ := perform_bind_pure hnext
      obtain ⟨rfl, rfl⟩ := perform_lift hlift
      exact ⟨(Store.get?_of_some hsome).symm, rfl⟩

theorem asked_entities {r : Except StoreFault (List α)}
    (h : perform ((service template).listAll α) s = (r, s')) :
    (¬ s.world.Open ∧ r = .error (.engine "read refused") ∧
        s' = s.after [(.scan (Record.kind α), false)] []) ∨
      (s.world.Open ∧ r = s.world.store.all ∧
        s' = s.after [(.scan (Record.kind α), true)] []) := by
  unfold Service.listAll at h
  rcases perform_bind h with ⟨fault, hask, rfl⟩ | ⟨found, s₁, hask, hnext⟩
  · rcases asked_scan hask with ⟨hclosed, hfault, rfl⟩ | ⟨-, hok, -⟩
    · exact Or.inl ⟨hclosed, by rw [Except.error.inj hfault], rfl⟩
    · cases hok
  · rcases asked_scan hask with ⟨-, hfault, -⟩ | ⟨hopen, hok, rfl⟩
    · cases hfault
    obtain rfl := Except.ok.inj hok
    exact Or.inr ⟨hopen, perform_lift hnext⟩

end Reading

/-! ## Writes to the store -/

/-- The step is a write to the store. -/
structure Writing (act : Act Trial StoreFault Unit) (use : PortUse) : Prop where
  isWrite : use.isWrite = true
  asked : ∀ {s s' : Scene Trial} {r : Except StoreFault Unit},
    perform act s = (r, s') → Asked s use (.engine "write refused") () r s'

variable {template : ConfigFile.Template} {α : Type} [Record α]

theorem writing_store (a : α) :
    Writing ((service template).store a)
      (.put (Record.kind α) (Record.name a) (Record.text a)) where
  isWrite := rfl
  asked h := asked_call (fun _ => ()) (fun _ => rfl) (fun _ _ => rfl) h

theorem writing_discard (name : String) :
    Writing ((service template).discard α name) (.remove (Record.kind α) name) where
  isWrite := rfl
  asked h := asked_call (fun _ => ()) (fun _ => rfl) (fun _ _ => rfl) h

end Trial

end ProxySync
