import ProxySync.Sync.Call

/-!
# Steps of the service taken apart

How a composed step can have ended: one lemma for each way to build a step
out of others. With them the outcome of a service call is followed back to
the outcomes of its port calls without unfolding the monad it is written in.
-/

namespace ProxySync

/-- How a call ended, as it is counted: with a success, or with a fault of
some kind. -/
def outcome {α : Type} : Except ServiceFault α → Option FaultKind
  | .ok _ => none
  | .error fault => some fault.kind

namespace Act

variable {σ ε ε' α β : Type} {s s' : Scene σ}

theorem perform_pure {a : α} {r : Except ε α} (h : perform (pure a : Act σ ε α) s = (r, s')) :
    r = .ok a ∧ s' = s := by
  cases h
  exact ⟨rfl, rfl⟩

theorem perform_throw {e : ε} {r : Except ε α}
    (h : perform (throw e : Act σ ε α) s = (r, s')) : r = .error e ∧ s' = s := by
  cases h
  exact ⟨rfl, rfl⟩

theorem perform_lift {x r : Except ε α} (h : perform (lift x : Act σ ε α) s = (r, s')) :
    r = x ∧ s' = s := by
  cases h
  exact ⟨rfl, rfl⟩

theorem perform_count {e : Event} {r : Except ε Unit}
    (h : perform (count e : Act σ ε Unit) s = (r, s')) :
    r = .ok () ∧ s' = { s with events := e :: s.events } := by
  cases h
  exact ⟨rfl, rfl⟩

/-- A sequence ended in its first step, or went through it and ended as the
second did. -/
theorem perform_bind {act : Act σ ε α} {next : α → Act σ ε β} {r : Except ε β}
    (h : perform (act >>= next) s = (r, s')) :
    (∃ e, perform act s = (.error e, s') ∧ r = .error e) ∨
      ∃ a s₁, perform act s = (.ok a, s₁) ∧ perform (next a) s₁ = (r, s') := by
  change (ExceptT.bindCont next (act s).1) (act s).2 = (r, s') at h
  unfold perform
  rcases hact : act s with ⟨x, s₁⟩
  rw [hact] at h
  cases x with
  | error e =>
      cases h
      exact Or.inl ⟨e, rfl, rfl⟩
  | ok a => exact Or.inr ⟨a, s₁, rfl, h⟩

/-- Reshaping the result of a step adds nothing to what it does. -/
theorem perform_bind_pure {act : Act σ ε α} {f : α → β} {r : Except ε β}
    (h : perform (act >>= fun a => pure (f a)) s = (r, s')) :
    ∃ x, perform act s = (x, s') ∧ r = x.map f := by
  rcases perform_bind h with ⟨e, hact, rfl⟩ | ⟨a, s₁, hact, hpure⟩
  · exact ⟨.error e, hact, rfl⟩
  · obtain ⟨rfl, rfl⟩ := perform_pure hpure
    exact ⟨.ok a, hact, rfl⟩

/-- The outcome of an attempted step is handed on, never lost. -/
theorem perform_attempt {act : Act σ ε α} {r : Except ε' (Except ε α)}
    (h : perform (attempt act : Act σ ε' _) s = (r, s')) :
    ∃ x, perform act s = (x, s') ∧ r = .ok x := by
  cases h
  exact ⟨_, rfl, rfl⟩

theorem perform_blaming {place : ε → ε'} {act : Act σ ε α} {r : Except ε' α}
    (h : perform (blaming place act) s = (r, s')) :
    ∃ x, perform act s = (x, s') ∧ r = x.mapError place := by
  cases h
  exact ⟨_, rfl, rfl⟩

/-- An attempt never fails, so what follows it always runs. -/
theorem perform_attempt_bind {act : Act σ ε α} {next : Except ε α → Act σ ε' β}
    {r : Except ε' β} (h : perform (attempt act >>= next) s = (r, s')) :
    ∃ x s₁, perform act s = (x, s₁) ∧ perform (next x) s₁ = (r, s') := by
  rcases perform_bind h with ⟨e, he, -⟩ | ⟨x, s₁, hx, hnext⟩
  · obtain ⟨y, -, hy⟩ := perform_attempt he
    cases hy
  · obtain ⟨y, hact, hy⟩ := perform_attempt hx
    cases hy
    exact ⟨x, s₁, hact, hnext⟩

theorem perform_count_bind {e : Event} {next : Unit → Act σ ε β} {r : Except ε β}
    (h : perform (count e >>= next) s = (r, s')) :
    perform (next ()) { s with events := e :: s.events } = (r, s') := by
  rcases perform_bind h with ⟨e', he, -⟩ | ⟨a, s₁, ha, hnext⟩
  · cases (perform_count he).1
  · obtain ⟨-, rfl⟩ := perform_count ha
    exact hnext

/-- A step that is counted ends as it would have without. -/
theorem perform_counted {k : Kind} {op : Operation} {act : Act σ ServiceFault α}
    {r : Except ServiceFault α} (h : perform (Service.counted k op act) s = (r, s')) :
    ∃ s₁, perform act s = (r, s₁) ∧
      s' = { s₁ with events := .mutation k op (outcome r) :: s₁.events } := by
  unfold Service.counted at h
  obtain ⟨x, s₁, hact, hcount⟩ := perform_attempt_bind h
  cases x with
  | ok a =>
      have hpure := perform_count_bind hcount
      obtain ⟨rfl, rfl⟩ := perform_pure hpure
      exact ⟨s₁, hact, rfl⟩
  | error fault =>
      have hthrow := perform_count_bind hcount
      obtain ⟨rfl, rfl⟩ := perform_throw hthrow
      exact ⟨s₁, hact, rfl⟩

/-- A run that is not over makes its first call, and goes on. -/
theorem answerAll_cons {v : Service σ} {c : Call} {calls : List Call}
    {rs : List (Except ServiceFault Reply)} (h : v.answerAll (c :: calls) s = (rs, s')) :
    ∃ r s₁ rs₁, perform (v.answer c) s = (r, s₁) ∧ v.answerAll calls s₁ = (rs₁, s') ∧
      rs = r :: rs₁ := by
  rcases hcall : perform (v.answer c) s with ⟨r, s₁⟩
  rcases hrest : v.answerAll calls s₁ with ⟨rs₁, s₂⟩
  unfold Service.answerAll at h
  rw [hcall] at h
  dsimp only at h
  rw [hrest] at h
  obtain ⟨rfl, rfl⟩ := Prod.mk.inj h
  exact ⟨r, s₁, rs₁, rfl, hrest, rfl⟩

end Act

end ProxySync
