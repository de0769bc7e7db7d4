import Mathlib.Data.List.Pairwise
import ProxySync.Proofs.Sync.Reachable
import ProxySync.Proofs.Sync.Unhindered

/-!
# The file and what came before

A change that succeeds leaves the rendering of the whole store in the file,
and the store is determined by its entities. So the file depends on the
entities alone, not on how they came to be there. Saves and deletions under
different names do not meet in the store, so their order does not matter
(`file_of_entities`).
-/

namespace ProxySync

open ConfigFile Act

theorem Rendered.file_unique {template : Template} {store : Store} {file file' : Option String}
    (h : Rendered template store file) (h' : Rendered template store file') : file = file' := by
  obtain ⟨ls, ps, hls, hps, rfl⟩ := h
  obtain ⟨ls', ps', hls', hps', rfl⟩ := h'
  obtain rfl := Except.ok.inj (hls.symm.trans hls')
  obtain rfl := Except.ok.inj (hps.symm.trans hps')
  rfl

/-! ## Saves and deletions in a row -/

namespace Call

variable {c c' : Call} {w : Write} {calls calls' : List Call}

/-- What saves and deletions in a row make of a store, if all can be done. -/
def effects? (s : Store) (calls : List Call) : Option Store :=
  calls.foldl (fun store? c => store?.bind c.effect?) (some s)

/-- The calls change different entities. -/
def Apart (calls : List Call) : Prop := calls.Pairwise fun c c' => c.target? ≠ c'.target?

theorem foldl_effect?_none : calls.foldl (fun store? c => store?.bind c.effect?) none = none := by
  induction calls with
  | nil => rfl
  | cons c calls ih => exact ih

theorem effects?_cons (s : Store) :
    effects? s (c :: calls) = (c.effect? s).bind fun changed => effects? changed calls := by
  rw [effects?, List.foldl_cons, Option.bind_some]
  cases c.effect? s with
  | none => exact foldl_effect?_none
  | some changed => rfl

theorem target?_of_write? (h : c.write? = some w) : c.target? = some w.target := by
  cases c with
  | save e =>
      obtain ⟨name, hname, hwrite⟩ := Option.bind_eq_some_iff.mp h
      split at hwrite
      · obtain rfl := Option.some.inj hwrite
        rw [target?, hname]
        rfl
      · cases hwrite
  | delete k name =>
      obtain ⟨normal, hnormal, rfl⟩ := Option.map_eq_some_iff.mp h
      rw [target?, hnormal]
      rfl
  | _ => cases h

/-- Calls that change different entities can be made in either order. -/
theorem effect?_comm (h : c.target? ≠ c'.target?) (s : Store) :
    (c.effect? s).bind c'.effect? = (c'.effect? s).bind c.effect? := by
  unfold effect?
  cases hw : c.write? with
  | none => simp
  | some w =>
      cases hw' : c'.write? with
      | none => simp
      | some w' =>
          rw [target?_of_write? hw, target?_of_write? hw'] at h
          exact Write.onStore?_comm (fun hsame => h (congrArg some hsame)) s

/-- **In which order entities are changed does not matter to the store.** -/
theorem effects?_perm (hperm : calls.Perm calls') (happart : Apart calls) (s : Store) :
    effects? s calls = effects? s calls' := by
  have hsymm : Std.Symm fun c c' : Call => c.target? ≠ c'.target? := ⟨fun _ _ h => h.symm⟩
  refine hperm.foldl_eq' (fun c hc c' hc' store? => ?_) (some s)
  rw [Option.bind_assoc, Option.bind_assoc]
  by_cases hsame : c = c'
  · rw [hsame]
  · have hne : c.target? ≠ c'.target? := happart.forall hc hc' hsame
    exact Option.bind_congr fun store _ => effect?_comm hne store

end Call

namespace Trial

variable {template : Template} {store : Store} {s s' : Scene Trial} {calls : List Call}
  {imported : String → Prop}

/-- How saves and deletions in a row end where nothing is refused. -/
structure Decided (template : Template) (store : Store) (calls : List Call) (s' : Scene Trial)
    (rs : List (Except ServiceFault Reply)) : Prop where
  ok_iff : (∀ r ∈ rs, ∃ reply, r = .ok reply) ↔ ∃ changed, Call.effects? store calls = some changed
  settles : ∀ changed, Call.effects? store calls = some changed →
    Calm changed s' ∧ (calls ≠ [] → Rendered template changed s'.world.file)

theorem answerAll_decided (hcalls : ∀ c ∈ calls, c.isWrite = true) (hstore : store.Canonical)
    (hs : Calm store s) {rs : List (Except ServiceFault Reply)}
    (h : (service template).answerAll calls s = (rs, s')) : Decided template store calls s' rs := by
  induction calls generalizing store s rs with
  | nil =>
      obtain ⟨rfl, rfl⟩ := Prod.mk.inj h
      refine ⟨⟨fun _ => ⟨store, rfl⟩, fun _ => List.forall_mem_nil _⟩, fun changed hchanged => ?_⟩
      obtain rfl := Option.some.inj hchanged
      exact ⟨hs, fun hne => absurd rfl hne⟩
  | cons c calls ih =>
      obtain ⟨hc, hcalls⟩ := List.forall_mem_cons.mp hcalls
      obtain ⟨r, s₁, rs₁, hcall, hrest, rfl⟩ := answerAll_cons h
      have hends := decides_answer hstore hc hs hcall
      cases r with
      | error fault =>
          have hnone : Call.effects? store (c :: calls) = none := by
            rw [Call.effects?_cons, hends.1]
            rfl
          constructor
          · rw [hnone]
            constructor
            · intro hall
              obtain ⟨reply, hreply⟩ := hall _ List.mem_cons_self
              cases hreply
            · rintro ⟨changed, hchanged⟩
              cases hchanged
          · intro changed hchanged
            rw [hnone] at hchanged
            cases hchanged
      | ok reply =>
          obtain ⟨first, heffect, hcalm, hrendered⟩ := hends
          have hfirst : first.Canonical :=
            hcalm.store_eq ▸ answer_canonical (hs.store_eq.symm ▸ hstore) hcall
          have hsame : Call.effects? store (c :: calls) = Call.effects? first calls := by
            rw [Call.effects?_cons, heffect]
            rfl
          obtain ⟨hok, hsettles⟩ := ih hcalls hfirst hcalm hrest
          constructor
          · rw [hsame, ← hok, List.forall_mem_cons, and_iff_right ⟨reply, rfl⟩]
          · intro changed hchanged
            rw [hsame] at hchanged
            obtain ⟨hcalm', hrendered'⟩ := hsettles changed hchanged
            refine ⟨hcalm', fun _ => ?_⟩
            cases calls with
            | nil =>
                obtain rfl := Option.some.inj hchanged
                obtain ⟨-, rfl⟩ := Prod.mk.inj hrest
                exact hrendered
            | cons c' calls => exact hrendered' (List.cons_ne_nil c' calls)

/-- A change that succeeds leaves the rendering of the store. -/
theorem rendered_of_change {c : Call} (hc : c.isChange = true) {reply : Reply}
    (hs : s.world.store.Canonical) (h : perform ((service template).answer c) s = (.ok reply, s')) :
    Rendered template s'.world.store s'.world.file := by
  obtain ⟨uses, events, rfl, hchanging⟩ := answer_changes hc (fun k name _ => hs k name) h
  have hsettled := hchanging.settled fun k name _ => hs k name
  exact hsettled.2.2.1

theorem consists_of_run (h : Reachable imported s) : s.world.store.Consists fun _ => True :=
  consists_of_reachable (fun _ _ => trivial)
    (fun _ _ _ _ _ => ⟨fun _ _ _ _ => trivial, fun _ _ _ _ => trivial⟩) h

/-- How a run ends whose last call is a change that succeeds. -/
structure Concludes (template : Template) (s : Scene Trial) : Prop where
  consists : s.world.store.Consists fun _ => True
  rendered : Rendered template s.world.store s.world.file

theorem concludes_of_change {c : Call} (hc : c.isChange = true) {reply : Reply}
    (hs : Reachable (fun _ => True) s)
    (h : perform ((service template).answer c) s = (.ok reply, s')) : Concludes template s' := by
  have hs' : Reachable (fun _ => True) s' := by
    have hcall := hs.call template c fun _ _ _ => trivial
    rwa [h] at hcall
  exact ⟨consists_of_run hs', rendered_of_change hc (consists_of_run hs).canonical h⟩

theorem Concludes.same_file (h : Concludes template s) (h' : Concludes template s')
    (hsame : ∀ e, s.world.store.Has e ↔ s'.world.store.Has e) :
    ∃ text, s.world.file = some text ∧ s'.world.file = some text := by
  have hstore := Store.eq_of_has_iff h.consists h'.consists hsame
  have hfile : s.world.file = s'.world.file := h.rendered.file_unique (hstore ▸ h'.rendered)
  obtain ⟨ls, ps, -, -, htext⟩ := h.rendered
  exact ⟨_, htext, hfile.symm.trans htext⟩

/-- Where nothing is refused, saves and deletions of different entities can be
made in any order. -/
theorem answerAll_perm {calls' : List Call} (hs : s.world.store.Canonical)
    (htape : s.world.refusals = []) (hcalls : ∀ c ∈ calls, c.isWrite = true)
    (happart : Call.Apart calls) (hperm : calls.Perm calls')
    {rs : List (Except ServiceFault Reply)}
    (hrun : (service template).answerAll calls s = (rs, s'))
    (hok : ∀ r ∈ rs, ∃ reply, r = .ok reply) :
    ∃ rs' s'', (service template).answerAll calls' s = (rs', s'') ∧
      (∀ r ∈ rs', ∃ reply, r = .ok reply) ∧
      s''.world.store = s'.world.store ∧ s''.world.file = s'.world.file := by
  have hcalm : Calm s.world.store s := ⟨rfl, htape⟩
  have hdecided := answerAll_decided hcalls hs hcalm hrun
  obtain ⟨changed, hchanged⟩ := hdecided.ok_iff.mp hok
  obtain ⟨hcalm', hrendered⟩ := hdecided.settles changed hchanged
  rcases hrun' : (service template).answerAll calls' s with ⟨rs', s''⟩
  have hcalls' : ∀ c ∈ calls', c.isWrite = true := fun c hc => hcalls c (hperm.mem_iff.mpr hc)
  have hdecided' := answerAll_decided hcalls' hs hcalm hrun'
  have hchanged' : Call.effects? s.world.store calls' = some changed :=
    (Call.effects?_perm hperm happart _).symm.trans hchanged
  obtain ⟨hcalm'', hrendered'⟩ := hdecided'.settles changed hchanged'
  refine ⟨rs', s'', rfl, hdecided'.ok_iff.mpr ⟨changed, hchanged'⟩,
    hcalm''.store_eq.trans hcalm'.store_eq.symm, ?_⟩
  cases calls with
  | nil =>
      obtain rfl := hperm.nil_eq
      rw [hrun] at hrun'
      rw [(Prod.mk.inj hrun').2]
  | cons c calls =>
      have hne : calls' ≠ [] := fun hnil => List.cons_ne_nil c calls (hnil ▸ hperm).eq_nil
      exact (hrendered' hne).file_unique (hrendered (List.cons_ne_nil c calls))

/-- **The file does not depend on history.** Two runs from an empty store, each
with any port calls refused and with any imports and failures in it, that end
with a change that succeeds and leave the same entities, leave the same file.
And where no port call is refused, saves and deletions of different entities
that all succeed do so in any order, and leave the same store and file. -/
theorem file_of_entities (template : Template) :
    (∀ (c₁ c₂ : Call) (s₁ s₁' s₂ s₂' : Scene Trial) (reply₁ reply₂ : Reply),
      Reachable (fun _ => True) s₁ → Reachable (fun _ => True) s₂ →
        c₁.isChange = true → c₂.isChange = true →
        perform ((service template).answer c₁) s₁ = (.ok reply₁, s₁') →
        perform ((service template).answer c₂) s₂ = (.ok reply₂, s₂') →
        (∀ e, s₁'.world.store.Has e ↔ s₂'.world.store.Has e) →
        ∃ text, s₁'.world.file = some text ∧ s₂'.world.file = some text) ∧
      ∀ (calls calls' : List Call) (s s' : Scene Trial) (rs : List (Except ServiceFault Reply)),
        Reachable (fun _ => True) s → s.world.refusals = [] →
        (∀ c ∈ calls, c.isWrite = true) → Call.Apart calls → calls.Perm calls' →
        (service template).answerAll calls s = (rs, s') → (∀ r ∈ rs, ∃ reply, r = .ok reply) →
        ∃ rs' s'', (service template).answerAll calls' s = (rs', s'') ∧
          (∀ r ∈ rs', ∃ reply, r = .ok reply) ∧
          s''.world.store = s'.world.store ∧ s''.world.file = s'.world.file := by
  constructor
  · intro c₁ c₂ s₁ s₁' s₂ s₂' reply₁ reply₂ hs₁ hs₂ hc₁ hc₂ h₁ h₂ hsame
    exact (concludes_of_change hc₁ hs₁ h₁).same_file (concludes_of_change hc₂ hs₂ h₂) hsame
  · intro calls calls' s s' rs hs htape hcalls happart hperm hrun hok
    exact answerAll_perm (consists_of_run hs).canonical htape hcalls happart hperm hrun hok

theorem exists_of_isOk {ε α : Type} {r : Except ε α} (h : r.isOk = true) : ∃ a, r = .ok a := by
  cases r with
  | ok a => exact ⟨a, rfl⟩
  | error fault => cases h

/-- A listener is in the file to import. Of the calls after the import, the
first reload will be refused. -/
def winding : Trial where
  file := some "frontend old\n  bind *:1\n"
  refusals := List.replicate 8 false ++ [true]

/-- A listener is imported; another is saved, taken back and saved again; and
then the first one is deleted. -/
def windingCalls : List Call := [.importConfig, openingListener, openingListener]

def windingEnd : Call := .delete .frontend "old"

/-- Changes of two entities. -/
def mixedChanges : List Call := [openingPool, .delete .frontend "web"]

theorem file_of_entities_winding :
    ∃ straight wound, straight = perform ((service .default).answer openingListener) ⟨{}, []⟩ ∧
      wound = perform ((service .default).answer windingEnd)
        ((service .default).answerAll windingCalls ⟨winding, []⟩).2 ∧
      (∃ text, straight.2.world.file = some text ∧ wound.2.world.file = some text) ∧
      ∃ rs s, (service .default).answerAll mixedChanges.reverse wound.2 = (rs, s) ∧
        (∀ r ∈ rs, ∃ reply, r = .ok reply) ∧
        s.world.file = ((service .default).answerAll mixedChanges wound.2).2.world.file := by
  obtain ⟨straight, hstraight⟩ :
      ∃ p, p = perform ((service .default).answer openingListener) ⟨{}, []⟩ := ⟨_, rfl⟩
  obtain ⟨wound, hwound⟩ : ∃ p, p = perform ((service .default).answer windingEnd)
      ((service .default).answerAll windingCalls ⟨winding, []⟩).2 := ⟨_, rfl⟩
  have hends : straight.1.isOk = true ∧ wound.1.isOk = true ∧
      straight.2.world.store = wound.2.world.store ∧ wound.2.world.refusals = [] ∧
      ((service .default).answerAll mixedChanges wound.2).1.all Except.isOk = true := by
    rw [hstraight, hwound]
    decide +kernel
  obtain ⟨hok₁, hok₂, hstore, htape, hall⟩ := hends
  obtain ⟨reply₁, hreply₁⟩ := exists_of_isOk hok₁
  obtain ⟨reply₂, hreply₂⟩ := exists_of_isOk hok₂
  have hbefore : Reachable (fun _ => True)
      ((service .default).answerAll windingCalls ⟨winding, []⟩).2 :=
    (Reachable.start rfl).answerAll _ _
  have hreached : Reachable (fun _ => True) wound.2 := by
    rw [hwound]
    exact hbefore.call .default windingEnd fun _ _ _ => trivial
  have hreplies : ∀ r ∈ ((service .default).answerAll mixedChanges wound.2).1,
      ∃ reply, r = .ok reply := fun r hr => exists_of_isOk (List.all_eq_true.mp hall r hr)
  have happart : Call.Apart mixedChanges := by
    unfold Call.Apart
    decide +kernel
  have hwrites : mixedChanges.all Call.isWrite = true := rfl
  obtain ⟨hfile, hperm⟩ := file_of_entities .default
  refine ⟨straight, wound, hstraight, hwound, ?_, ?_⟩
  · refine hfile openingListener windingEnd ⟨{}, []⟩ straight.2 _ wound.2 reply₁ reply₂
      (.start rfl) hbefore rfl rfl ?_ ?_ fun e => ?_
    · rw [← hstraight, ← hreply₁]
    · rw [← hwound, ← hreply₂]
    · rw [hstore]
  · obtain ⟨rs, s, hrun, hok, -, hsame⟩ := hperm mixedChanges mixedChanges.reverse wound.2 _ _
      hreached htape (List.all_eq_true.mp hwrites) happart (List.reverse_perm _).symm
      Prod.mk.eta.symm hreplies
    exact ⟨rs, s, hrun, hok, hsame⟩

end Trial

end ProxySync
