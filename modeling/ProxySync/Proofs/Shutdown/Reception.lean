import ProxySync.Proofs.Shutdown.Delivery

/-!
# The first request and its readers

A history is what has been done to a new manager and its tokens, in any order.
The first request in it, if the manager is still there, is the only one that
is accepted. The history is then cut in two by it, and what any token reads at
the end can be told from the two parts: a token of the first part that has not
read in the second reads the request, every other one waits, or reads a forced
stop once the manager is gone (`answers_of_history`).
-/

namespace ProxySync.Shutdown

variable {s s' : Shutdown} {a : Action} {r r' : Reason} {token n millis : Nat}
variable {before after history : List Action}

/-! ## Histories -/

/-- What an action answers after all that has been done to a new manager. -/
def answerAfter (millis : Nat) (history : List Action) (a : Action) : Answer :=
  ((({ drainMillis := millis } : Shutdown).run history).2.step a).1

/-- How many tokens there are; they are numbered from zero. -/
def tokensAfter (millis : Nat) (history : List Action) : Nat :=
  (({ drainMillis := millis } : Shutdown).run history).2.tokens.length

/-- No stop has been asked for, and the manager is still there. -/
def Fresh (history : List Action) : Prop :=
  .drop ∉ history ∧ ∀ r, .trigger r ∉ history

/-- What a token with nothing left to read answers. -/
def idleAnswer (history : List Action) : Answer :=
  if .drop ∈ history then .reason .force else .pending

/-- The first request of a history is `r`. The token was there, and has not
read since. -/
def Unread (millis : Nat) (history : List Action) (token : Nat) (r : Reason) : Prop :=
  ∃ before after, Fresh before ∧ history = before ++ .trigger r :: after ∧
    token < tokensAfter millis before ∧ .poll token ∉ after

/-- A first request `r`, what it answers, and what all the others answer from
then on. -/
structure Delivered (millis : Nat) (before : List Action) (r : Reason)
    (after : List Action) : Prop where
  uninitiated : answerAfter millis before .initiated = .flag false
  accepted : answerAfter millis before (.trigger r) = .flag true
  initiated : .drop ∉ after →
    answerAfter millis (before ++ .trigger r :: after) .initiated = .flag true
  refused : .drop ∉ after → ∀ r',
    answerAfter millis (before ++ .trigger r :: after) (.trigger r') = .flag false
  there : ∀ token < tokensAfter millis before,
    answerAfter millis (before ++ .trigger r :: after) (.poll token) =
      if .poll token ∈ after then idleAnswer after else .reason r
  late : ∀ token, tokensAfter millis before ≤ token →
    token < tokensAfter millis (before ++ .trigger r :: after) →
    answerAfter millis (before ++ .trigger r :: after) (.poll token) = idleAnswer after

/-- A history is cut at its first request in one way only. -/
theorem Fresh.cut_unique {before' after' : List Action} (hfresh : Fresh before)
    (hfresh' : Fresh before')
    (h : before ++ .trigger r :: after = before' ++ .trigger r' :: after') :
    before = before' ∧ r = r' ∧ after = after' := by
  rcases List.append_eq_append_iff.mp h with ⟨more, hmore, hrest⟩ | ⟨more, hmore, hrest⟩
  all_goals
    cases more with
    | nil =>
        cases hrest
        exact ⟨by simp [hmore], rfl, rfl⟩
    | cons a more =>
        -- Then the longer of the two first parts holds the request.
        obtain ⟨ha, -⟩ := List.cons.inj hrest
        subst ha hmore
        first
        | exact absurd (by simp) (hfresh'.2 r)
        | exact absurd (by simp) (hfresh.2 r')

/-! ## Before the first request -/

theorem Moves.sent_eq (h : Moves s a s') (ha : ∀ r, a ≠ .trigger r) : s'.sent = s.sent := by
  cases h with
  | stays | adds | reads | closes => rfl
  | sends r => exact absurd rfl (ha r)

theorem sent_run (s : Shutdown) (hidle : ∀ r, .trigger r ∉ history) :
    (s.run history).2.sent = s.sent := by
  have hkept : ∀ a ∈ history, ∀ s₁ s₂, s₁.sent = s.sent → Moves s₁ a s₂ → s₂.sent = s.sent := by
    intro a ha s₁ s₂ hsent hmoves
    have hother : ∀ r, a ≠ .trigger r := fun r hr => hidle r (hr ▸ ha)
    exact (hmoves.sent_eq hother).trans hsent
  exact run_induction history hkept rfl

/-- A manager that is gone sends nothing. -/
theorem sent_step_of_gone (hgone : s.isOpen = false) (a : Action) :
    (s.step a).2.sent = s.sent := by
  by_cases ha : ∃ r, a = .trigger r
  · obtain ⟨r, rfl⟩ := ha
    simp [step, hgone]
  · exact (moves_step s a).sent_eq fun r hr => ha ⟨r, hr⟩

theorem sent_run_of_gone (hgone : s.isOpen = false) (history : List Action) :
    (s.run history).2.sent = s.sent := by
  induction history generalizing s with
  | nil => rfl
  | cons a history ih =>
      have hstill : (s.step a).2.isOpen = false := by
        rw [(moves_step s a).isOpen_eq, hgone, Bool.false_and]
      exact (ih hstill).trans (sent_step_of_gone hgone a)

/-- Nothing is sent in a history without a first request: up to the end of the
manager there is no request at all, and none after it counts. -/
theorem sent_run_of_not_cut (s : Shutdown)
    (hnone : ∀ before r after, Fresh before → history ≠ before ++ .trigger r :: after) :
    (s.run history).2.sent = s.sent := by
  induction history generalizing s with
  | nil => rfl
  | cons a history ih =>
      have hfirst : ∀ r, a ≠ .trigger r := by
        intro r hr
        exact hnone [] r history ⟨nofun, nofun⟩ (hr ▸ rfl)
      have hstep : (s.step a).2.sent = s.sent := (moves_step s a).sent_eq hfirst
      refine Eq.trans ?_ hstep
      by_cases hdrop : a = .drop
      · have hgone : (s.step a).2.isOpen = false := by
          rw [(moves_step s a).isOpen_eq, hdrop]
          simp
        exact sent_run_of_gone hgone history
      · refine ih _ fun before r after hfresh heq => ?_
        refine hnone (a :: before) r after ⟨?_, ?_⟩ (heq ▸ rfl)
        · simp [hfresh.1, Ne.symm hdrop]
        · intro r'
          simp [hfresh.2 r', Ne.symm (hfirst r')]

/-- What there is of a manager and its tokens before the first request. -/
theorem Fresh.run (millis : Nat) (hfresh : Fresh history) :
    let s := (({ drainMillis := millis } : Shutdown).run history).2
    s.Sound ∧ s.isOpen = true ∧ s.sent = [] ∧ s.initiated = false := by
  intro s
  have hsound : s.Sound := sound_run millis history
  have hopen : s.isOpen = true := by
    simp only [s, isOpen_run, hfresh.1, not_false_eq_true, decide_true, Bool.and_true]
  have hnil : s.sent = [] := sent_run _ hfresh.2
  refine ⟨hsound, hopen, hnil, ?_⟩
  have hlength := hsound.length_sent
  rw [hnil] at hlength
  cases hidle : s.initiated with
  | false => rfl
  | true =>
      rw [hidle] at hlength
      cases hlength

/-! ## Reading -/

/-- A token that has read the request stays behind it. -/
theorem Told.spent_moves (h : Told r n s) (hspent : s.tokens[token]? = some 1)
    (hmoves : Moves s a s') : s'.tokens[token]? = some 1 := by
  by_cases ha : a = .poll token
  · cases hmoves with
    | stays | sends | closes => exact hspent
    | adds hadds => rcases hadds with rfl | ⟨_, rfl⟩ <;> cases ha
    | @reads token' place hplace hlt =>
        cases ha
        rw [hspent] at hplace
        cases hplace
        rw [h.sent_eq] at hlt
        exact absurd hlt (Nat.lt_irrefl 1)
  · exact hmoves.place_eq ha hspent

theorem Told.spent_run (h : Told r n s) (hspent : s.tokens[token]? = some 1)
    (history : List Action) : (s.run history).2.tokens[token]? = some 1 := by
  have hkept : ∀ a ∈ history, ∀ s₁ s₂, Told r n s₁ ∧ s₁.tokens[token]? = some 1 →
      Moves s₁ a s₂ → Told r n s₂ ∧ s₂.tokens[token]? = some 1 := by
    intro a _ s₁ s₂ ⟨htold, hplace⟩ hmoves
    exact ⟨htold.moves hmoves, htold.spent_moves hplace hmoves⟩
  exact (run_induction history hkept ⟨h, hspent⟩).2

/-- The first poll of a token that was there takes it behind the request, and
nothing takes it further. -/
theorem Told.spent_of_poll (h : Told r n s) (hplace : s.tokens[token]? = some 0)
    (hread : .poll token ∈ history) : (s.run history).2.tokens[token]? = some 1 := by
  induction history generalizing s with
  | nil => cases hread
  | cons a history ih =>
      have htold := h.moves (moves_step s a)
      by_cases ha : a = .poll token
      · have hspent : (s.step a).2.tokens[token]? = some 1 := by
          have hlt : token < s.tokens.length := (List.getElem?_eq_some_iff.mp hplace).1
          rw [ha, step_poll hplace]
          simp [receive, h.sent_eq, hlt]
        exact htold.spent_run hspent history
      · have hlater : .poll token ∈ history := by
          rcases List.mem_cons.mp hread with heq | hin
          · exact absurd heq.symm ha
          · exact hin
        exact ih htold ((moves_step s a).place_eq ha hplace) hlater

/-! ## What every action answers -/

theorem waits_eq_idleAnswer (history : List Action) :
    (if decide (.drop ∉ history) = true then Answer.pending else .reason .force) =
      idleAnswer history := by
  unfold idleAnswer
  by_cases hdrop : .drop ∈ history <;> simp [hdrop]

/-- What there is after a first request: every token is behind it, but those
that were there and have not read since. -/
theorem Fresh.told (millis : Nat) (hfresh : Fresh before) (r : Reason) (after : List Action) :
    let s := (({ drainMillis := millis } : Shutdown).run (before ++ .trigger r :: after)).2
    Told r (tokensAfter millis before) s ∧ s.isOpen = decide (.drop ∉ after) ∧
      ∀ token < tokensAfter millis before,
        s.tokens[token]? = some (if .poll token ∈ after then 1 else 0) := by
  intro s
  obtain ⟨hsound, hopen, hnil, hidle⟩ := hfresh.run millis
  unfold tokensAfter
  generalize hs₀ : (({ drainMillis := millis } : Shutdown).run before).2 = s₀ at *
  have hs : s = ((s₀.step (.trigger r)).2.run after).2 := by
    rw [← hs₀]
    exact run_append _ before (.trigger r :: after)
  have haccepted : (s₀.step (.trigger r)).1 = .flag true := by
    simp [step, hopen, trigger, hidle]
  obtain ⟨-, -, htold⟩ := hsound.accepted haccepted
  have htrigger := moves_step s₀ (.trigger r)
  refine ⟨hs ▸ htold.run after, ?_, ?_⟩
  · rw [hs, isOpen_run, htrigger.isOpen_eq, hopen]
    simp
  · intro token hlt
    have hother : Action.trigger r ≠ .poll token := by simp
    have hplace := htrigger.place_eq hother (hsound.place_eq_zero hnil hlt)
    rw [hs]
    split
    · next hread => exact htold.spent_of_poll hplace hread
    · next hunread => exact place_run after hunread hplace

theorem delivered_of_fresh (millis : Nat) (hfresh : Fresh before) (r : Reason)
    (after : List Action) : Delivered millis before r after := by
  obtain ⟨-, hopen, -, hidle⟩ := hfresh.run millis
  obtain ⟨htold, hend, hplaces⟩ := hfresh.told millis r after
  refine ⟨?_, ?_, ?_, ?_, ?_, ?_⟩ <;> unfold answerAfter
  · simp [step, hopen, hidle]
  · simp [step, hopen, trigger, hidle]
  · intro hstays
    simp [step, hend, hstays, htold.initiated]
  · intro hstays r'
    simp [step, hend, hstays, trigger, htold.initiated]
  · intro token hlt
    have hplace := hplaces token hlt
    split
    · next hread =>
      rw [if_pos hread] at hplace
      rw [htold.poll_spent hplace, hend, waits_eq_idleAnswer]
    · next hunread =>
      rw [if_neg hunread] at hplace
      exact htold.poll_first hplace
  · intro token hlate hlt
    rw [htold.poll_late hlate hlt, hend, waits_eq_idleAnswer]

/-- Where there was a first request, what is unread is told by its cut. -/
theorem unread_iff_of_cut (hfresh : Fresh before) :
    Unread millis (before ++ .trigger r :: after) token r' ↔
      r' = r ∧ token < tokensAfter millis before ∧ .poll token ∉ after := by
  constructor
  · rintro ⟨before', after', hfresh', heq, hthere, hunread⟩
    obtain ⟨rfl, rfl, rfl⟩ := hfresh.cut_unique hfresh' heq
    exact ⟨rfl, hthere, hunread⟩
  · rintro ⟨rfl, hthere, hunread⟩
    exact ⟨before, after, hfresh, rfl, hthere, hunread⟩

theorem idleAnswer_of_cut (hfresh : Fresh before) :
    idleAnswer (before ++ .trigger r :: after) = idleAnswer after := by
  simp [idleAnswer, hfresh.1]

/-- Without a first request, tokens have nothing to read. -/
theorem answerAfter_of_not_cut (millis : Nat)
    (hnone : ∀ before r after, Fresh before → history ≠ before ++ .trigger r :: after)
    (hlt : token < tokensAfter millis history) :
    answerAfter millis history (.poll token) = idleAnswer history := by
  obtain ⟨s, hs⟩ : ∃ s, s = (({ drainMillis := millis } : Shutdown).run history).2 := ⟨_, rfl⟩
  have hsound : s.Sound := hs ▸ sound_run millis history
  have hnil : s.sent = [] := hs ▸ sent_run_of_not_cut _ hnone
  have hplace : s.tokens[token]? = some s.sent.length := by
    rw [hsound.place_eq_zero hnil (hs ▸ hlt), hnil]
    rfl
  have hend : s.isOpen = decide (.drop ∉ history) := by
    rw [hs, isOpen_run, Bool.true_and]
  rw [answerAfter, ← hs, poll_of_done hplace, hend, waits_eq_idleAnswer]

/-- A token that is there and has nothing to read waits, or reads a forced stop
once the manager is gone. -/
theorem answerAfter_of_not_unread (millis : Nat) (hlt : token < tokensAfter millis history)
    (hnone : ∀ r, ¬ Unread millis history token r) :
    answerAfter millis history (.poll token) = idleAnswer history := by
  by_cases hcut : ∃ before r after, Fresh before ∧ history = before ++ .trigger r :: after
  · obtain ⟨before, r, after, hfresh, rfl⟩ := hcut
    have hdelivered := delivered_of_fresh millis hfresh r after
    rw [idleAnswer_of_cut hfresh]
    by_cases hthere : token < tokensAfter millis before
    · by_cases hread : .poll token ∈ after
      · rw [hdelivered.there token hthere, if_pos hread]
      · exact absurd ⟨before, after, hfresh, rfl, hthere, hread⟩ (hnone r)
    · exact hdelivered.late token (Nat.not_lt.mp hthere) hlt
  · refine answerAfter_of_not_cut millis ?_ hlt
    intro before r after hfresh heq
    exact hcut ⟨before, r, after, hfresh, heq⟩

/-- **The first request is accepted, all others are refused, and each token
reads it at most once.** Whatever is done to a manager and its tokens, the
flag of the manager tells from the first request on that there was one. A
token that was there reads it with its next poll, once; later tokens never
read it, and no token reads any other request. A token that reads a forced
stop has either been sent one, or finds nothing to read and the manager gone. -/
theorem answers_of_history (millis : Nat) :
    (∀ before r after, Fresh before → Delivered millis before r after) ∧
    ∀ history token r, answerAfter millis history (.poll token) = .reason r ↔
      Unread millis history token r ∨
        token < tokensAfter millis history ∧ r = .force ∧ .drop ∈ history ∧
          ∀ r', ¬ Unread millis history token r' := by
  refine ⟨fun before r after hfresh => delivered_of_fresh millis hfresh r after, ?_⟩
  intro history token r
  by_cases hunread : ∃ r', Unread millis history token r'
  · obtain ⟨r', hunread⟩ := hunread
    obtain ⟨before, after, hfresh, rfl, hthere, hnot⟩ := hunread
    have hanswer := (delivered_of_fresh millis hfresh r' after).there token hthere
    rw [if_neg hnot] at hanswer
    rw [hanswer, Answer.reason.injEq]
    constructor
    · rintro rfl
      exact .inl ⟨before, after, hfresh, rfl, hthere, hnot⟩
    · rintro (hunread' | ⟨-, -, -, hnone⟩)
      · exact (unread_iff_of_cut hfresh).mp hunread' |>.1.symm
      · exact absurd ⟨before, after, hfresh, rfl, hthere, hnot⟩ (hnone r')
  · have hnone : ∀ r', ¬ Unread millis history token r' := fun r' h => hunread ⟨r', h⟩
    by_cases hlt : token < tokensAfter millis history
    · rw [answerAfter_of_not_unread millis hlt hnone]
      unfold idleAnswer
      by_cases hdrop : .drop ∈ history <;> simp [hdrop, hnone, hlt, eq_comm]
    · have hunavailable : answerAfter millis history (.poll token) = .unavailable := by
        have hout := List.getElem?_eq_none (Nat.not_lt.mp hlt)
        simp only [answerAfter, step, hout]
      simp [hunavailable, hnone, hlt]

/-- Both tokens are there when a restart is asked for. The clone reads it last,
when the manager is gone; a token that came later reads a forced stop. -/
theorem answers_of_restart :
    let before := [.subscribe, .clone 0, .poll 1]
    let after := [.trigger .graceful, .subscribe, .poll 0, .drop]
    let history := before ++ .trigger .restart :: after
    Fresh before ∧ Delivered 30000 before .restart after ∧
      answerAfter 30000 history (.poll 1) = .reason .restart ∧
      answerAfter 30000 history (.poll 2) = .reason .force ∧ ∀ r, ¬ Unread 30000 history 2 r := by
  intro before after history
  have hfresh : Fresh before := ⟨by decide, by simp [before]⟩
  obtain ⟨hdelivered, hreads⟩ := answers_of_history 30000
  have hunread : Unread 30000 history 1 .restart :=
    ⟨before, after, hfresh, rfl, by decide, by decide⟩
  have hforced : answerAfter 30000 history (.poll 2) = .reason .force := by decide
  refine ⟨hfresh, hdelivered before .restart after hfresh, ?_, hforced, ?_⟩
  · exact (hreads history 1 .restart).mpr (.inl hunread)
  · rcases (hreads history 2 .force).mp hforced with hsent | ⟨-, -, -, hnone⟩
    · cases ((unread_iff_of_cut hfresh).mp hsent).1
    · exact hnone

/-- A forced stop that is asked for is read while the manager is there. -/
theorem force_of_trigger :
    .drop ∉ [Action.subscribe, .trigger .force] ∧
      answerAfter 30000 [.subscribe, .trigger .force] (.poll 0) = .reason .force := by
  decide

end ProxySync.Shutdown
