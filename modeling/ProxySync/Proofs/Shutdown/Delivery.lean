import ProxySync.Shutdown.Basic

/-!
# Who hears of a shutdown request

At most one request is ever sent. A token reads from its place: for tokens
that were there when the request was sent that is the place of the request,
for tokens that are made or cloned later it lies behind it. So a request
reaches exactly the tokens that were there (`poll_of_trigger`). Such a token
reads it next, whatever has been done with the others; one that came later
waits until the manager is gone (`pending_of_late_tokens`).
-/

namespace ProxySync.Shutdown

variable {s s' : Shutdown} {a : Action} {r : Reason} {token place n : Nat}

/-! ## What a step does -/

/-- The ways in which an action changes a manager and its tokens. -/
inductive Moves (s : Shutdown) : Action → Shutdown → Prop where
  | stays {a : Action} (h : a = .drop → s.isOpen = false) : Moves s a s
  | sends (r : Reason) (hidle : s.initiated = false) :
      Moves s (.trigger r) { s with initiated := true, sent := s.sent ++ [r] }
  | adds {a : Action} (ha : a = .subscribe ∨ ∃ token, a = .clone token) :
      Moves s a { s with tokens := s.tokens ++ [s.sent.length] }
  | reads {token place : Nat} (hplace : s.tokens[token]? = some place)
      (hlt : place < s.sent.length) :
      Moves s (.poll token) { s with tokens := s.tokens.set token (place + 1) }
  | closes : Moves s .drop { s with isOpen := false }

/-- A poll answers what is at the place of the token, and moves it on. -/
theorem step_poll (h : s.tokens[token]? = some place) :
    s.step (.poll token) =
      ((s.pending? place).elim .pending .reason, (s.receive token place).2) := by
  simp only [step, h, receive]
  cases s.pending? place <;> rfl

theorem moves_step (s : Shutdown) (a : Action) : Moves s a (s.step a).2 := by
  cases a with
  | initiated | drainMillis => exact .stays nofun
  | trigger r =>
      simp only [step]
      split
      · unfold trigger
        split
        · exact .stays nofun
        · next hidle => exact .sends r (Bool.eq_false_iff.mpr hidle)
      · exact .stays nofun
  | subscribe =>
      simp only [step]
      split
      · exact .adds (.inl rfl)
      · exact .stays nofun
  | clone token =>
      simp only [step]
      split
      · exact .adds (.inr ⟨token, rfl⟩)
      · exact .stays nofun
  | poll token =>
      cases hplace : s.tokens[token]? with
      | none =>
          simp only [step, hplace]
          exact .stays nofun
      | some place =>
          rw [step_poll hplace, receive]
          dsimp only
          split
          · next hlt => exact .reads hplace hlt
          · exact .stays nofun
  | drop =>
      simp only [step]
      split
      · exact .closes
      · next hclosed => exact .stays fun _ => Bool.eq_false_iff.mpr hclosed

/-! ## Runs -/

theorem run_append (s : Shutdown) (before after : List Action) :
    (s.run (before ++ after)).2 = ((s.run before).2.run after).2 := by
  induction before generalizing s with
  | nil => rfl
  | cons a before ih => exact ih (s.step a).2

/-- What every step keeps holds after a run. -/
theorem run_induction {inv : Shutdown → Prop} (actions : List Action)
    (hstep : ∀ a ∈ actions, ∀ s s', inv s → Moves s a s' → inv s') (h : inv s) :
    inv (s.run actions).2 := by
  induction actions generalizing s with
  | nil => exact h
  | cons a actions ih =>
      obtain ⟨ha, hactions⟩ := List.forall_mem_cons.mp hstep
      exact ih hactions (ha s _ h (moves_step s a))

/-- A request has been sent if a stop was initiated, and no token is behind
what was sent. -/
structure Sound (s : Shutdown) : Prop where
  length_sent : s.sent.length = s.initiated.toNat
  place_le : ∀ place ∈ s.tokens, place ≤ s.sent.length

theorem sound_new (millis : Nat) : Sound { drainMillis := millis } :=
  ⟨rfl, List.forall_mem_nil _⟩

theorem Sound.sent_eq_nil (h : s.Sound) (hidle : s.initiated = false) : s.sent = [] := by
  rw [← List.length_eq_zero_iff, h.length_sent, hidle]
  rfl

/-- While nothing has been sent, every token is at the first place. -/
theorem Sound.place_eq_zero (h : s.Sound) (hnil : s.sent = []) (hlt : token < s.tokens.length) :
    s.tokens[token]? = some 0 := by
  have hle := h.place_le _ (List.getElem_mem hlt)
  rw [hnil, List.length_nil, Nat.le_zero] at hle
  exact (List.getElem?_eq_getElem hlt).trans (congrArg some hle)

theorem Sound.moves (h : s.Sound) (hmoves : Moves s a s') : s'.Sound := by
  cases hmoves with
  | stays => exact h
  | sends r hidle =>
      have hnil := h.sent_eq_nil hidle
      refine ⟨by simp [hnil], fun place hplace => ?_⟩
      have hle := h.place_le place hplace
      simp only [List.length_append, List.length_singleton]
      omega
  | adds =>
      refine ⟨h.length_sent, List.forall_mem_append.mpr ⟨h.place_le, ?_⟩⟩
      exact List.forall_mem_singleton.mpr (Nat.le_refl _)
  | @reads token place _ hlt =>
      refine ⟨h.length_sent, fun place' hplace' => ?_⟩
      rcases List.mem_or_eq_of_mem_set hplace' with hold | rfl
      · exact h.place_le place' hold
      · exact hlt
  | closes => exact ⟨h.length_sent, h.place_le⟩

theorem sound_run (millis : Nat) (actions : List Action) :
    (({ drainMillis := millis } : Shutdown).run actions).2.Sound :=
  run_induction actions (fun _ _ _ _ h hmoves => h.moves hmoves) (sound_new millis)

/-- Only a poll of its own moves a token. -/
theorem Moves.place_eq (h : Moves s a s') (ha : a ≠ .poll token)
    (hplace : s.tokens[token]? = some place) : s'.tokens[token]? = some place := by
  cases h with
  | stays | sends | closes => exact hplace
  | adds => exact (List.getElem?_append_left (List.getElem?_eq_some_iff.mp hplace).1).trans hplace
  | reads =>
      have hother : _ ≠ token := fun h => ha (congrArg Action.poll h)
      exact (List.getElem?_set_ne hother).trans hplace

theorem place_run (actions : List Action) (hunread : .poll token ∉ actions)
    (hplace : s.tokens[token]? = some place) :
    (s.run actions).2.tokens[token]? = some place :=
  run_induction actions
    (fun _ ha _ _ hplace hmoves => hmoves.place_eq (fun h => hunread (h ▸ ha)) hplace) hplace

/-- A manager goes only when it is dropped. -/
theorem Moves.isOpen_eq (h : Moves s a s') : s'.isOpen = (s.isOpen && a != .drop) := by
  cases h with
  | stays hdrop =>
      by_cases ha : a = .drop
      · simp [ha, hdrop ha]
      · simp [ha]
  | sends | reads | closes => simp
  | adds ha => rcases ha with rfl | ⟨token, rfl⟩ <;> simp

theorem isOpen_run (s : Shutdown) (actions : List Action) :
    (s.run actions).2.isOpen = (s.isOpen && decide (.drop ∉ actions)) := by
  induction actions generalizing s with
  | nil => simp [run]
  | cons a actions ih =>
      have hstep := (moves_step s a).isOpen_eq
      change ((s.step a).2.run actions).2.isOpen = _
      rw [ih, hstep]
      by_cases ha : a = .drop
      · simp [ha]
      · simp [bne_iff_ne.mpr ha, Ne.symm ha]

/-! ## After a request -/

/-- The request `r` has been sent, and the tokens from number `n` on came
later. -/
structure Told (r : Reason) (n : Nat) (s : Shutdown) : Prop where
  initiated : s.initiated = true
  sent_eq : s.sent = [r]
  behind : ∀ token place, n ≤ token → s.tokens[token]? = some place → place = 1

theorem Told.moves (h : Told r n s) (hmoves : Moves s a s') : Told r n s' := by
  cases hmoves with
  | stays => exact h
  | sends r hidle =>
      rw [h.initiated] at hidle
      cases hidle
  | adds =>
      refine ⟨h.initiated, h.sent_eq, fun token place hlate hplace => ?_⟩
      rw [List.getElem?_append, List.getElem?_singleton] at hplace
      split at hplace
      · exact h.behind token place hlate hplace
      · split at hplace
        · rw [← Option.some.inj hplace, h.sent_eq]
          rfl
        · cases hplace
  | @reads token place hplace hlt =>
      refine ⟨h.initiated, h.sent_eq, fun token' place' hlate hplace' => ?_⟩
      rw [List.getElem?_set] at hplace'
      split at hplace'
      · next heq =>
        subst heq
        rw [h.behind token place hlate hplace, h.sent_eq] at hlt
        exact absurd hlt (Nat.lt_irrefl 1)
      · exact h.behind token' place' hlate hplace'
  | closes => exact ⟨h.initiated, h.sent_eq, h.behind⟩

theorem Told.run (h : Told r n s) (actions : List Action) : Told r n (s.run actions).2 :=
  run_induction actions (fun _ _ _ _ h hmoves => h.moves hmoves) h

/-- Where a request has just been accepted, all tokens are in front of it. -/
theorem Sound.accepted (h : s.Sound) (haccepted : (s.step (.trigger r)).1 = .flag true) :
    s.isOpen = true ∧ s.sent = [] ∧ Told r s.tokens.length (s.step (.trigger r)).2 := by
  simp only [step] at haccepted ⊢
  split at haccepted
  · next hopen =>
    cases hidle : s.initiated with
    | true => simp [trigger, hidle] at haccepted
    | false =>
        have hnil := h.sent_eq_nil hidle
        refine ⟨hopen, hnil, ?_⟩
        simp only [hopen, if_true, trigger, hidle]
        refine ⟨rfl, by simp [hnil], fun token place hlate hplace => ?_⟩
        have hlt := (List.getElem?_eq_some_iff.mp hplace).1
        exact absurd hlt (Nat.not_lt.mpr hlate)
  · cases haccepted

/-- A token that has read all there is waits, or reads a forced stop once the
manager is gone. -/
theorem poll_of_done (hplace : s.tokens[token]? = some s.sent.length) :
    (s.step (.poll token)).1 = if s.isOpen then .pending else .reason .force := by
  cases hopen : s.isOpen <;> simp [step_poll hplace, pending?, hopen]

theorem Told.poll_spent (h : Told r n s) (hspent : s.tokens[token]? = some 1) :
    (s.step (.poll token)).1 = if s.isOpen then .pending else .reason .force := by
  apply poll_of_done
  rw [h.sent_eq]
  exact hspent

theorem Told.poll_first (h : Told r n s) (hplace : s.tokens[token]? = some 0) :
    (s.step (.poll token)).1 = .reason r := by
  simp [step_poll hplace, pending?, h.sent_eq]

theorem Told.poll_late (h : Told r n s) (hlate : n ≤ token) (hlt : token < s.tokens.length) :
    (s.step (.poll token)).1 = if s.isOpen then .pending else .reason .force := by
  have hplace : s.tokens[token]? = some s.tokens[token] := List.getElem?_eq_getElem hlt
  rw [h.behind token _ hlate hplace] at hplace
  exact h.poll_spent hplace

/-- **A request reaches exactly the tokens that were there when it was sent.**
Whatever was done before and is done after, a token that was there gets the
reason from its first poll after the request. A token that was made or cloned
later never does: it waits, and once the manager is gone it reads a forced
stop. -/
theorem poll_of_trigger (millis : Nat) (before after : List Action)
    (haccepted :
      ((({ drainMillis := millis } : Shutdown).run before).2.step (.trigger r)).1 = .flag true) :
    let there := (({ drainMillis := millis } : Shutdown).run before).2.tokens.length
    let s := (({ drainMillis := millis } : Shutdown).run (before ++ .trigger r :: after)).2
    ∀ token < s.tokens.length,
      (token < there → .poll token ∉ after → (s.step (.poll token)).1 = .reason r) ∧
      (there ≤ token →
        (s.step (.poll token)).1 = if .drop ∈ after then .reason .force else .pending) := by
  intro there s token hlt
  obtain ⟨s₀, hs₀⟩ : ∃ s₀, s₀ = (({ drainMillis := millis } : Shutdown).run before).2 := ⟨_, rfl⟩
  have hsound : s₀.Sound := hs₀ ▸ sound_run millis before
  have hs : s = ((s₀.step (.trigger r)).2.run after).2 := hs₀ ▸ run_append _ before (.trigger r :: after)
  rw [← hs₀] at haccepted
  obtain ⟨hopen, hnil, htold₁⟩ := hsound.accepted haccepted
  have htrigger := moves_step s₀ (.trigger r)
  have htold : Told r there s := by
    rw [hs, show there = s₀.tokens.length from hs₀ ▸ rfl]
    exact htold₁.run after
  refine ⟨fun hthere hunread => ?_, fun hlate => ?_⟩
  · -- The token is still at the place it had while nothing was sent: the first.
    have hplace : s₀.tokens[token]? = some 0 := hsound.place_eq_zero hnil (hs₀ ▸ hthere)
    apply htold.poll_first
    rw [hs]
    exact place_run after hunread (htrigger.place_eq nofun hplace)
  · have hend : s.isOpen = decide (.drop ∉ after) := by
      rw [hs, isOpen_run, htrigger.isOpen_eq, hopen]
      simp
    rw [htold.poll_late hlate hlt, hend]
    by_cases hdrop : .drop ∈ after <;> simp [hdrop]

theorem poll_of_graceful :
    let s := (({} : Shutdown).run
      ([.subscribe, .clone 0] ++ .trigger .graceful :: [.clone 0, .subscribe, .poll 1, .drop])).2
    (s.step (.poll 0)).1 = .reason .graceful ∧ (s.step (.poll 3)).1 = .reason .force :=
  ⟨(poll_of_trigger 30000 [.subscribe, .clone 0] [.clone 0, .subscribe, .poll 1, .drop]
      (by decide) 0 (by decide)).1 (by decide) (by decide),
    (poll_of_trigger 30000 [.subscribe, .clone 0] [.clone 0, .subscribe, .poll 1, .drop]
      (by decide) 3 (by decide)).2 (by decide)⟩

/-- The clone and the second token come after the request and never hear of
it, though neither has read anything yet. -/
theorem pending_of_late_tokens :
    (({} : Shutdown).run [.subscribe, .trigger .graceful, .clone 0, .subscribe,
      .poll 0, .poll 1, .poll 2]).1 =
      [.number 0, .flag true, .number 1, .number 2, .reason .graceful, .pending, .pending] := by
  decide

end ProxySync.Shutdown
