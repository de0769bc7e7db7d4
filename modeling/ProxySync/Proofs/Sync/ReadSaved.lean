import ProxySync.Proofs.Store.Entities
import ProxySync.Proofs.Sync.Reachable

/-!
# What is read after a save

A save that succeeds has put the encoding of the entity under its normal name
and not taken it back: only saves that fail are taken back. Since encodings
read back, the store then gives the entity that was saved, with all its fields
(`entity?_of_saved`). Nothing is asked of what was in the store before.
-/

namespace ProxySync

open ConfigFile Act

namespace Trial

variable {template : Template} {pre : Scene Trial → Prop} {α β : Type}

/-- `post` holds where the step succeeds. -/
abbrev Yields (pre : Scene Trial → Prop) (act : Act Trial ServiceFault α)
    (post : α → Scene Trial → Prop) : Prop :=
  Ensures pre act post fun _ _ => True

theorem yields_trivial (act : Act Trial ServiceFault α) : Yields pre act fun _ _ => True := by
  intro s r s' _ _
  cases r <;> exact trivial

variable [Record α]

/-- The record of `a` is in the store under its own key. -/
def Bears (a : α) (s : Scene Trial) : Prop :=
  s.world.store.text? (Record.kind α) (Record.name a) = some (Record.text a)

theorem yields_store (a : α) :
    Yields pre (blaming .storage ((service template).store a)) fun _ => Bears a := by
  refine Ensures.blaming fun s r s' _ hact => ?_
  rcases performs_store a hact with ⟨fault, rfl, -⟩ | ⟨rfl, rfl⟩
  · exact trivial
  · exact (Store.text?_put ..).trans (if_pos ⟨rfl, rfl⟩)

/-- A synchronization that succeeds has not taken the change back. -/
theorem yields_synchronize {undo : Act Trial StoreFault Unit} {use : PortUse}
    (hundo : Performs undo use) (a : α) :
    Yields (Bears a) ((service template).synchronize undo) fun _ => Bears a := by
  intro s r s' hs hact
  obtain ⟨uses, events, rfl, htrace⟩ := synchronize_trace hundo hact
  cases htrace with
  | @synchronized uses hr =>
      have hstore : (s.world.replay (uses ++ [(.reload, true)])).store = s.world.store := by
        rw [replay_append]
        exact hr.store_replay s.world
      change Store.text? (s.world.replay _).store _ _ = _
      rwa [hstore]
  | renderingUndone | renderingStuck | reloadUndone | reloadStuck => exact trivial

theorem yields_saveAs (a : α) :
    Yields (fun _ => True) ((service template).saveAs a) fun saved s => saved.entity = a ∧ Bears a s := by
  unfold Service.saveAs
  split
  · exact ensures_throw fun _ _ => trivial
  refine (yields_trivial _).bind fun previous => (yields_store a).bind fun _ => ?_
  have hdone : Yields (Bears a) (pure ⟨a, previous.isNone⟩) fun (saved : Saved α) s =>
      saved.entity = a ∧ Bears a s :=
    ensures_pure fun _ hs => ⟨rfl, hs⟩
  cases previous with
  | none => exact (yields_synchronize (performs_discard _) a).bind fun _ => hdone
  | some old => exact (yields_synchronize (performs_store old) a).bind fun _ => hdone

theorem yields_save (a : α) :
    Yields (fun _ => True) ((service template).save a) fun saved s =>
      ∃ name, normalName? (Record.name a) = some name ∧
        saved.entity = Record.rename name a ∧ Bears (Record.rename name a) s := by
  refine Ensures.counted ?_ (fun _ _ _ h => h) fun _ _ _ _ => trivial
  intro s r s' _ hact
  rcases perform_bind hact with ⟨fault, -, rfl⟩ | ⟨name, s₁, hname, hsave⟩
  · exact trivial
  · obtain ⟨hnormal, rfl⟩ := normalize_ok hname
    have hends := yields_saveAs (Record.rename name a) trivial hsave
    cases r with
    | error fault => exact trivial
    | ok saved => exact ⟨name, hnormal, hends⟩

theorem saved_of_perform [EntityRecord α] {a : α} {s s' : Scene Trial} {reply : Reply}
    (h : perform ((service template).save a >>= fun saved =>
      pure (.saved (EntityRecord.entity saved.entity) saved.created)) s = (.ok reply, s')) :
    ∃ name created, normalName? (Record.name a) = some name ∧
      reply = .saved (EntityRecord.entity (Record.rename name a)) created ∧
      s'.world.store.text? (Record.kind α) name = some (Record.text (Record.rename name a)) := by
  obtain ⟨x, hsave, hreply⟩ := perform_bind_pure h
  have hends := yields_save a trivial hsave
  cases x with
  | error fault => cases hreply
  | ok saved =>
      obtain ⟨name, hnormal, hentity, hbears⟩ := hends
      rw [Bears, LawfulRecord.name_rename] at hbears
      exact ⟨name, saved.created, hnormal, hentity ▸ Except.ok.inj hreply, hbears⟩

/-- **What was saved is what is read.** A listener, a pool or a member, whatever
its texts, port, metadata and time, reads back from its own encoding. So when
saving an entity succeeds, whatever was stored before, the store gives that
entity under its normal name; all its fields but the name are as they were. -/
theorem entity?_of_saved (template : Template) :
    (∀ l : Listener, Record.ofText (Record.text l) = .ok l) ∧
      (∀ p : Pool, Record.ofText (Record.text p) = .ok p) ∧
      (∀ m : Member, Json.decodeText (Member.decode .text) (.ofString m.encode.text) = .ok m) ∧
      ∀ (e : Entity) (s s' : Scene Trial) (reply : Reply),
        perform ((service template).answer (.save e)) s = (.ok reply, s') →
          ∃ name created, normalName? e.name = some name ∧
            reply = .saved (e.rename name) created ∧
            s'.world.store.entity? e.kind name = .ok (some (e.rename name)) := by
  have hmember (m : Member) :
      Json.decodeText (Member.decode .text) (.ofString m.encode.text) = .ok m := by
    rw [Json.decodeText_text m.isPlain_encode]
    exact Member.decode_encode .text m
  refine ⟨Record.ofText_text, Record.ofText_text, hmember, fun e s s' reply hsave => ?_⟩
  cases e with
  | listener l =>
      obtain ⟨name, created, hnormal, hreply, htext⟩ := saved_of_perform (a := l) hsave
      exact ⟨name, created, hnormal, hreply,
        Store.entity?_of_text? (e := .listener (Record.rename name l)) htext⟩
  | pool p =>
      obtain ⟨name, created, hnormal, hreply, htext⟩ := saved_of_perform (a := p) hsave
      exact ⟨name, created, hnormal, hreply,
        Store.entity?_of_text? (e := .pool (Record.rename name p)) htext⟩

/-- A listener with a quote in its name, and with controls and a character
beyond the first plane in what the configuration file does not show. -/
def stubborn : Listener where
  name := "web \"1"
  rules := ["\\\x7f"]
  metadata := ((∅ : Dict String).insert "\n" "\x00").insert "" "😀"

theorem entity?_of_saved_stubborn :
    let call : Call := .save (.listener stubborn)
    ∃ reply s', perform ((service .default).answer call) ⟨{}, []⟩ = (.ok reply, s') ∧
      s'.world.store.entity? .frontend "web_\"1" =
        .ok (some (.listener { stubborn with name := "web_\"1" })) := by
  intro call
  have hok : (perform ((service .default).answer call) ⟨{}, []⟩).1.isOk = true := by
    decide +kernel
  rcases hcall : perform ((service .default).answer call) ⟨{}, []⟩ with ⟨fault | reply, s'⟩
  · rw [hcall] at hok
    cases hok
  · refine ⟨reply, s', rfl, ?_⟩
    obtain ⟨name, created, hnormal, -, hentity⟩ :=
      (entity?_of_saved .default).2.2.2 (.listener stubborn) ⟨{}, []⟩ s' reply hcall
    have hname : normalName? (Entity.listener stubborn).name = some "web_\"1" := by decide
    obtain rfl := Option.some.inj (hname.symm.trans hnormal)
    exact hentity

end Trial

end ProxySync
