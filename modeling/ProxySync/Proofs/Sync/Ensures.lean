import ProxySync.Proofs.Sync.Act
import ProxySync.Sync.Service

/-!
# Assertions about steps of the service

`Ensures pre act post fail` says what holds after a step when `pre` held
before it: `post` of its result, or `fail` of its fault if it broke off. There
is one rule for each way to build a step out of others, so what a whole call
brings about is put together from what its port calls bring about, in the
order in which the call is written. `Leads` and `Keeps` are for assertions
that do not depend on how a step ends.
-/

namespace ProxySync.Act

variable {σ ε ε' α β : Type}

section Ensures

variable {pre : Scene σ → Prop} {post : α → Scene σ → Prop} {post' : β → Scene σ → Prop}
  {fail : ε → Scene σ → Prop} {fail' : ε' → Scene σ → Prop}

/-- What is asserted of the outcome of a step. -/
def Ends (post : α → Scene σ → Prop) (fail : ε → Scene σ → Prop) :
    Except ε α → Scene σ → Prop
  | .ok a => post a
  | .error e => fail e

/-- From every scene with `pre` the step ends with `post` or `fail`. -/
def Ensures (pre : Scene σ → Prop) (act : Act σ ε α) (post : α → Scene σ → Prop)
    (fail : ε → Scene σ → Prop) : Prop :=
  ∀ ⦃s r s'⦄, pre s → perform act s = (r, s') → Ends post fail r s'

theorem ensures_pure {a : α} (h : ∀ s, pre s → post a s) :
    Ensures pre (pure a : Act σ ε α) post fail := by
  intro s r s' hpre hpure
  obtain ⟨rfl, rfl⟩ := perform_pure hpure
  exact h s' hpre

theorem ensures_throw {e : ε} (h : ∀ s, pre s → fail e s) :
    Ensures pre (throw e : Act σ ε α) post fail := by
  intro s r s' hpre hthrow
  obtain ⟨rfl, rfl⟩ := perform_throw hthrow
  exact h s' hpre

/-- A fact that does not depend on the scene is a premise. -/
theorem ensures_of_and {act : Act σ ε α} {fact : Prop} (h : fact → Ensures pre act post fail) :
    Ensures (fun s => pre s ∧ fact) act post fail :=
  fun _ _ _ hpre hact => h hpre.2 hpre.1 hact

theorem Ensures.bind {act : Act σ ε α} {next : α → Act σ ε β} (h : Ensures pre act post fail)
    (hnext : ∀ a, Ensures (post a) (next a) post' fail) :
    Ensures pre (act >>= next) post' fail := by
  intro s r s' hpre hbind
  rcases perform_bind hbind with ⟨e, hact, rfl⟩ | ⟨a, s₁, hact, hrest⟩
  · exact h hpre hact
  · exact hnext a (h hpre hact) hrest

theorem Ensures.blaming {place : ε → ε'} {act : Act σ ε α}
    (h : Ensures pre act post fun e => fail' (place e)) :
    Ensures pre (blaming place act) post fail' := by
  intro s r s' hpre hblame
  obtain ⟨x, hact, rfl⟩ := perform_blaming hblame
  cases x with
  | ok a => exact h hpre hact
  | error e => exact h hpre hact

/-- Counting a call by its outcome changes nothing but the tally. -/
theorem Ensures.counted {k : Kind} {op : Operation} {act : Act σ ServiceFault α}
    {fail : ServiceFault → Scene σ → Prop} (h : Ensures pre act post fail)
    (hpost : ∀ a s e, post a s → post a { s with events := e :: s.events })
    (hfail : ∀ fault s e, fail fault s → fail fault { s with events := e :: s.events }) :
    Ensures pre (Service.counted k op act) post fail := by
  intro s r s' hpre hcounted
  obtain ⟨s₁, hact, rfl⟩ := perform_counted hcounted
  have hends := h hpre hact
  cases r with
  | ok a => exact hpost a s₁ _ hends
  | error fault => exact hfail fault s₁ _ hends

end Ensures

/-! ## However a step ends -/

section Leads

variable {pre mid post inv : Scene σ → Prop}

/-- The step leads from `pre` to `post`, whether it succeeds or fails. -/
def Leads (pre : Scene σ → Prop) (act : Act σ ε α) (post : Scene σ → Prop) : Prop :=
  Ensures pre act (fun _ => post) fun _ => post

/-- What held before the step holds after it. -/
abbrev Keeps (inv : Scene σ → Prop) (act : Act σ ε α) : Prop := Leads inv act inv

theorem leads_of_perform {act : Act σ ε α}
    (h : ∀ ⦃s r s'⦄, pre s → perform act s = (r, s') → post s') : Leads pre act post := by
  intro s r s' hpre hact
  have hpost := h hpre hact
  cases r with
  | ok a => exact hpost
  | error e => exact hpost

theorem Leads.perform {act : Act σ ε α} (h : Leads pre act post) {s s' : Scene σ}
    {r : Except ε α} (hpre : pre s) (hact : perform act s = (r, s')) : post s' := by
  have hends := h hpre hact
  cases r with
  | ok a => exact hends
  | error e => exact hends

theorem keeps_pure (a : α) : Keeps inv (pure a : Act σ ε α) :=
  ensures_pure fun _ h => h

theorem keeps_throw (e : ε) : Keeps inv (throw e : Act σ ε α) :=
  ensures_throw fun _ h => h

theorem keeps_lift (r : Except ε α) : Keeps inv (lift r : Act σ ε α) := by
  refine leads_of_perform ?_
  intro s r' s' hs hlift
  obtain ⟨-, rfl⟩ := perform_lift hlift
  exact hs

/-- Steps in a row; where the first breaks off, its assertion must do for both. -/
theorem Leads.trans {act : Act σ ε α} {next : α → Act σ ε β} (h : Leads pre act mid)
    (hmid : ∀ s, mid s → post s) (hnext : ∀ a, Leads mid (next a) post) :
    Leads pre (act >>= next) post := by
  refine leads_of_perform fun s r s' hpre hbind => ?_
  rcases perform_bind hbind with ⟨e, hact, -⟩ | ⟨a, s₁, hact, hrest⟩
  · exact hmid s' (h.perform hpre hact)
  · exact (hnext a).perform (h.perform hpre hact) hrest

theorem Leads.bind {act : Act σ ε α} {next : α → Act σ ε β} (h : Leads pre act post)
    (hnext : ∀ a, Keeps post (next a)) : Leads pre (act >>= next) post :=
  h.trans (fun _ h => h) hnext

theorem Leads.blaming {place : ε → ε'} {act : Act σ ε α} (h : Leads pre act post) :
    Leads pre (blaming place act) post :=
  Ensures.blaming h

theorem Leads.attempt {act : Act σ ε α} (h : Leads pre act post) :
    Leads pre (attempt act : Act σ ε' (Except ε α)) post := by
  refine leads_of_perform ?_
  intro s r s' hs hattempt
  obtain ⟨x, hact, -⟩ := perform_attempt hattempt
  exact h.perform hs hact

theorem Leads.counted {k : Kind} {op : Operation} {act : Act σ ServiceFault α}
    (h : Leads pre act post)
    (hpost : ∀ s e, post s → post { s with events := e :: s.events }) :
    Leads pre (Service.counted k op act) post :=
  Ensures.counted h (fun _ => hpost) fun _ => hpost

theorem normalize_eq_pure {name normal : String} (h : normalName? name = some normal) :
    (Service.normalize name : Act σ ServiceFault String) = pure normal := by
  unfold Service.normalize
  rw [h]

theorem ensures_normalize {fail : ServiceFault → Scene σ → Prop} (name : String)
    (hfail : ∀ s, inv s → fail .emptyName s) :
    Ensures inv (Service.normalize name)
      (fun normal s => inv s ∧ normalName? name = some normal) fail := by
  unfold Service.normalize
  split
  · next normal hnormal => exact ensures_pure fun s hinv => ⟨hinv, hnormal⟩
  · exact ensures_throw hfail

theorem keeps_normalize (name : String) : Keeps inv (Service.normalize name) := by
  refine leads_of_perform fun s r s' hinv hname => ?_
  have hnormalize : Ensures inv (Service.normalize name)
      (fun normal s => inv s ∧ normalName? name = some normal) fun _ => inv :=
    ensures_normalize name fun _ hs => hs
  have hends := hnormalize hinv hname
  cases r with
  | ok normal => exact hends.1
  | error fault => exact hends

end Leads

end ProxySync.Act
