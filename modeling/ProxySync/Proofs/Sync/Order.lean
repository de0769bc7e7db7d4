import ProxySync.Proofs.Sync.Keeping
import ProxySync.Proofs.Sync.Outcome

/-!
# The order of port calls

When a change makes the proxy read its file, the file has just been rendered
from the store as it then is, and nothing has been taken back
(`reload_of_rendered`). This holds from any scene on, also where records do
not decode: `Course` lists the ways in which a change can use its ports,
without a word about what is stored. An import looks up and writes, and
neither renders nor reloads.
-/

namespace ProxySync

open ConfigFile Act

namespace PortUse

def isLookup : PortUse → Bool
  | .lookup .. => true
  | _ => false

/-- A write to the store. -/
def isWrite : PortUse → Bool
  | .put .. | .remove .. => true
  | _ => false

/-- Neither part of a rendering nor a reload. -/
def isSeeding (use : PortUse) : Bool := !use.isRendering && use != .reload

variable {use : PortUse}

theorem sort_of_isLookup (h : use.isLookup = true) :
    use.isWrite = false ∧ use.isRendering = false ∧ use ≠ .reload := by
  cases use with
  | lookup k name => exact ⟨rfl, rfl, nofun⟩
  | _ => cases h

theorem sort_of_isWrite (h : use.isWrite = true) : use.isRendering = false ∧ use ≠ .reload := by
  cases use with
  | put k name text => exact ⟨rfl, nofun⟩
  | remove k name => exact ⟨rfl, nofun⟩
  | _ => cases h

theorem isSeeding_iff : use.isSeeding = true ↔ use.isRendering = false ∧ use ≠ .reload := by
  simp [isSeeding]

end PortUse

namespace Trial

variable {template : Template} {s₀ : Scene Trial} {q : PortUse → Bool}

/-! ## Port calls of one sort -/

/-- From `s₀` to `s` the service made no port calls but those that `q` allows. -/
def Did (q : PortUse → Bool) (s₀ s : Scene Trial) : Prop :=
  ∃ uses events, s = s₀.after uses events ∧ ∀ u ∈ uses, q u.1 = true

theorem Did.refl (s : Scene Trial) : Did q s s :=
  ⟨[], [], rfl, List.forall_mem_nil _⟩

theorem Did.after {s : Scene Trial} (h : Did q s₀ s) {u : Use} (hu : q u.1 = true) :
    Did q s₀ (s.after [u] []) := by
  obtain ⟨uses, events, rfl, huses⟩ := h
  refine ⟨uses ++ [u], events, Scene.after_after .., ?_⟩
  exact List.forall_mem_append.mpr ⟨huses, List.forall_mem_singleton.mpr hu⟩

theorem keeps_performs {act : Act Trial StoreFault Unit} {use : PortUse} (h : Performs act use)
    (huse : q use = true) : Keeps (Did q s₀) act := by
  refine leads_of_perform fun s r s' hdid hact => ?_
  rcases h hact with ⟨fault, -, rfl⟩ | ⟨-, rfl⟩
  · exact hdid.after huse
  · exact hdid.after huse

theorem keeps_get {α : Type} [Record α] {name : String}
    (hlookup : q (.lookup (Record.kind α) name) = true) :
    Keeps (Did q s₀) ((service template).get α name) := by
  refine Leads.blaming (leads_of_perform fun s r s' hdid hact => ?_)
  rcases lookup_trace hact with ⟨fault, -, rfl⟩ | ⟨-, rfl⟩
  · exact hdid.after hlookup
  · exact hdid.after hlookup

theorem seedingKeeps_did : SeedingKeeps (service template) (Did PortUse.isSeeding s₀) where
  lookup k name := by
    refine leads_of_perform fun s r s' hdid hact => ?_
    rcases ask_lookup hact with ⟨fault, -, rfl⟩ | ⟨-, rfl⟩
    · exact hdid.after rfl
    · exact hdid.after rfl
  put k name text := keeps_performs ask_put rfl
  readConfig := by
    refine leads_of_perform fun s r s' hdid hact => ?_
    rcases ask_readConfig hact with ⟨fault, -, rfl⟩ | ⟨text, -, -, rfl⟩
    · exact hdid.after rfl
    · exact hdid.after rfl

/-! ## Changing -/

/-- How a change uses its ports: some look-ups and no more; look-ups and a
write that is refused; or look-ups, a write, and a synchronization of the
store as it is then. -/
inductive Course (template : Template) (store : Store) : List Use → Prop where
  | looked {uses : List Use} (hreads : ∀ u ∈ uses, u.1.isLookup = true) :
      Course template store uses
  | refused {reads : List Use} (hreads : ∀ u ∈ reads, u.1.isLookup = true) {edit : PortUse}
      (hedit : edit.isWrite = true) : Course template store (reads ++ [(edit, false)])
  | written {reads : List Use} (hreads : ∀ u ∈ reads, u.1.isLookup = true) {edit undo : PortUse}
      (hedit : edit.isWrite = true) (hundo : undo.isWrite = true) {r : Except ServiceFault Unit}
      {uses : List Use} {events : List Event}
      (hsync : Synchronization template (edit.onStore store) undo r uses events) :
      Course template store (reads ++ (edit, true) :: uses)

/-- From `s₀` to `s` the service went through a change. -/
def Went (template : Template) (s₀ s : Scene Trial) : Prop :=
  ∃ uses events, s = s₀.after uses events ∧ Course template s₀.world.store uses

theorem Did.went {s : Scene Trial} (h : Did PortUse.isLookup s₀ s) : Went template s₀ s := by
  obtain ⟨uses, events, rfl, hreads⟩ := h
  exact ⟨uses, events, rfl, .looked hreads⟩

theorem Went.count {s : Scene Trial} (h : Went template s₀ s) (e : Event) :
    Went template s₀ { s with events := e :: s.events } := by
  obtain ⟨uses, events, rfl, hcourse⟩ := h
  exact ⟨uses, e :: events, rfl, hcourse⟩

/-- From `s₀` to `s` the service made look-ups and then a write. -/
def Applied (edit : PortUse) (s₀ s : Scene Trial) : Prop :=
  ∃ reads events, s = s₀.after (reads ++ [(edit, true)]) events ∧
    ∀ u ∈ reads, u.1.isLookup = true

/-- Look-ups leave the store as it is. -/
theorem store_replay_of_isLookup {reads : List Use} (h : ∀ u ∈ reads, u.1.isLookup = true)
    (t : Trial) : (t.replay reads).store = t.store := by
  induction reads generalizing t with
  | nil => rfl
  | cons u reads ih =>
      obtain ⟨hu, hreads⟩ := List.forall_mem_cons.mp h
      rw [replay_cons, ih hreads]
      obtain ⟨use, through⟩ := u
      cases use with
      | lookup k name => cases through <;> rfl
      | _ => cases hu

theorem ensures_write {write : Act Trial StoreFault Unit} {edit : PortUse}
    (hwrite : Performs write edit) (hedit : edit.isWrite = true) :
    Ensures (Did PortUse.isLookup s₀) (blaming ServiceFault.storage write)
      (fun _ => Applied edit s₀) fun _ => Went template s₀ := by
  refine Ensures.blaming fun s r s' hdid hact => ?_
  obtain ⟨reads, events, rfl, hreads⟩ := hdid
  rcases hwrite hact with ⟨fault, rfl, rfl⟩ | ⟨rfl, rfl⟩
  · exact ⟨_, _, Scene.after_after .., .refused hreads hedit⟩
  · exact ⟨reads, _, Scene.after_after .., hreads⟩

theorem leads_synchronize {undo : Act Trial StoreFault Unit} {edit undoUse : PortUse}
    (hundo : Performs undo undoUse) (hedit : edit.isWrite = true)
    (hundoUse : undoUse.isWrite = true) :
    Leads (Applied edit s₀) ((service template).synchronize undo) (Went template s₀) := by
  refine leads_of_perform fun s r s' happlied hsync => ?_
  obtain ⟨reads, events, rfl, hreads⟩ := happlied
  obtain ⟨uses, events', rfl, htrace⟩ := synchronize_trace hundo hsync
  have hstore : (s₀.world.replay (reads ++ [(edit, true)])).store =
      edit.onStore s₀.world.store := by
    rw [replay_append, replay_cons, replay_nil, ← store_replay_of_isLookup hreads s₀.world]
    rfl
  have hcourse : Course template s₀.world.store (reads ++ (edit, true) :: uses) :=
    .written hreads hedit hundoUse (hstore ▸ htrace)
  refine ⟨_, _, Scene.after_after .., ?_⟩
  rwa [List.append_assoc]

/-- A step that takes a change from its look-ups to its end. -/
def Completes {ε α : Type} (template : Template) (act : Act Trial ε α) : Prop :=
  ∀ s₀, Leads (Did PortUse.isLookup s₀) act (Went template s₀)

section Completes

variable {α β : Type}

theorem completes_throw (fault : ServiceFault) :
    Completes template (throw fault : Act Trial ServiceFault α) :=
  fun _ => ensures_throw fun _ hreads => hreads.went

/-- Steps that only look up may go before. -/
theorem Completes.after_lookup {act : Act Trial ServiceFault α}
    {next : α → Act Trial ServiceFault β}
    (h : ∀ s₀, Keeps (Did PortUse.isLookup s₀) act) (hnext : ∀ a, Completes template (next a)) :
    Completes template (act >>= next) :=
  fun s₀ => (h s₀).trans (fun _ hreads => hreads.went) fun a => hnext a s₀

theorem Completes.bind_pure {act : Act Trial ServiceFault α} (h : Completes template act)
    (f : α → β) : Completes template (act >>= fun a => pure (f a)) :=
  fun s₀ => (h s₀).bind fun _ => keeps_pure _

theorem Completes.counted {k : Kind} {op : Operation} {act : Act Trial ServiceFault α}
    (h : Completes template act) : Completes template (Service.counted k op act) :=
  fun s₀ => (h s₀).counted fun _ e hwent => hwent.count e

variable [Record α]

theorem completes_saveAs (a : α) : Completes template ((service template).saveAs a) := by
  unfold Service.saveAs
  split
  · exact completes_throw _
  refine .after_lookup (fun _ => keeps_get rfl) fun previous s₀ => ?_
  refine Ensures.bind (ensures_write (performs_store a) rfl) fun _ => ?_
  cases previous with
  | none =>
      exact (leads_synchronize (performs_discard (Record.name a)) rfl rfl).bind
        fun _ => keeps_pure _
  | some old => exact (leads_synchronize (performs_store old) rfl rfl).bind fun _ => keeps_pure _

theorem completes_save (a : α) : Completes template ((service template).save a) := by
  refine .counted (.after_lookup (fun _ => keeps_normalize _) fun name => ?_)
  exact completes_saveAs _

theorem completes_merge (name : String) (patch : Json) :
    Completes template ((service template).merge α name patch) := by
  refine .counted (.after_lookup (fun _ => keeps_get rfl) fun found => ?_)
  split
  · exact completes_throw _
  split
  · exact completes_throw _
  · exact (completes_saveAs _).bind_pure _

theorem completes_delete (name : String) :
    Completes template ((service template).delete α name) := by
  refine .counted (.after_lookup (fun _ => keeps_normalize _) fun name => ?_)
  refine .after_lookup (fun _ => keeps_get rfl) fun found => ?_
  split
  · exact completes_throw _
  · next previous =>
    intro s₀
    refine Ensures.bind (ensures_write (performs_discard name) rfl) fun _ => ?_
    exact leads_synchronize (performs_store previous) rfl rfl

end Completes

/-- Whatever is stored, a change takes one of the courses. -/
theorem answer_course {c : Call} (hc : c.isChange = true) :
    Completes template ((service template).answer c) := by
  cases c with
  | save e =>
      cases e with
      | listener l => exact (completes_save l).bind_pure _
      | pool p => exact (completes_save p).bind_pure _
  | merge k name patch =>
      cases k with
      | frontend => exact (completes_merge name patch).bind_pure _
      | backend => exact (completes_merge name patch).bind_pure _
  | delete k name =>
      cases k with
      | frontend => exact (completes_delete name).bind_pure _
      | backend => exact (completes_delete name).bind_pure _
  | _ => cases hc

/-! ## Reloads -/

/-- How things stand when a change makes the proxy read its file, `before`
being the port calls that it has made from `t` on. -/
structure InLine (template : Template) (t : Trial) (before : List Use) : Prop where
  /-- The file shows the whole store. -/
  rendered : Rendered template (t.replay before).store (t.replay before).file
  /-- The last thing done was to write it, and nothing else has been rendered. -/
  rendering : ∃ earlier text, before = earlier ++
      [(.scan .frontend, true), (.scan .backend, true), (.writeConfig text, true)] ∧
    ∀ u ∈ earlier, u.1.isRendering = false
  /-- The store has been written to once, so nothing has been taken back. -/
  write : ∃ edit, before.filter (·.1.isWrite) = [(edit, true)]

variable {store : Store} {t : Trial} {uses before later : List Use} {through : Bool}

theorem Rendering.ne_reload {r : Except SyncFailure Unit} (h : Rendering template store r uses) :
    ∀ u ∈ uses, u.1 ≠ .reload := by
  intro u hu hreload
  have hnone := List.filter_eq_nil_iff.mp h.filter_reload u hu
  exact hnone (decide_eq_true hreload)

/-- Where a list has one reload there is one way to cut it there. -/
theorem cut_at_reload {front back : List Use} {b : Bool} (hfront : ∀ u ∈ front, u.1 ≠ .reload)
    (hback : ∀ u ∈ back, u.1 ≠ .reload)
    (heq : front ++ (.reload, b) :: back = before ++ (.reload, through) :: later) :
    front = before ∧ back = later := by
  have hsame := (List.append_cons_inj_of_notMem (fun hin => hfront _ hin rfl)
    fun hin => hback _ hin rfl).mp heq
  exact ⟨hsame.1, hsame.2.2⟩

/-- A synchronization reloads after a rendering that went through, and then
no more. -/
theorem Synchronization.reload_split {undo : PortUse} {r : Except ServiceFault Unit}
    {events : List Event} (h : Synchronization template store undo r uses events)
    (hundo : undo.isWrite = true) (huses : uses = before ++ (.reload, through) :: later) :
    Rendering template store (.ok ()) before ∧ ∀ u ∈ later, u.1 ≠ .reload := by
  have hundo : undo ≠ .reload := (PortUse.sort_of_isWrite hundo).2
  have hmem : (.reload, through) ∈ uses := huses ▸ List.mem_append_cons_self
  cases h with
  | synchronized hr =>
      obtain ⟨rfl, rfl⟩ := cut_at_reload hr.ne_reload (List.forall_mem_nil _) huses
      exact ⟨hr, List.forall_mem_nil _⟩
  | renderingUndone hr | renderingStuck hr =>
      rcases List.mem_append.mp hmem with hin | hin
      · exact absurd rfl (hr.ne_reload _ hin)
      · cases List.mem_singleton.mp hin
        exact absurd rfl hundo
  | reloadUndone hr fault hr' =>
      have hback : ∀ u ∈ (undo, true) :: _, u.1 ≠ .reload :=
        List.forall_mem_cons.mpr ⟨hundo, hr'.ne_reload⟩
      rw [List.append_assoc] at huses
      obtain ⟨rfl, rfl⟩ := cut_at_reload hr.ne_reload hback huses
      exact ⟨hr, hback⟩
  | reloadStuck hr fault rollback =>
      have hback : ∀ u ∈ [(undo, false)], u.1 ≠ .reload := List.forall_mem_singleton.mpr hundo
      obtain ⟨rfl, rfl⟩ := cut_at_reload hr.ne_reload hback huses
      exact ⟨hr, hback⟩

theorem inLine_of_rendering {reads : List Use} (hreads : ∀ u ∈ reads, u.1.isLookup = true)
    {edit : PortUse} (hedit : edit.isWrite = true)
    (hr : Rendering template (edit.onStore t.store) (.ok ()) uses) :
    InLine template t (reads ++ (edit, true) :: uses) := by
  have hstore : ((t.replay reads).after (edit, true)).store = edit.onStore t.store := by
    rw [← store_replay_of_isLookup hreads t]
    rfl
  have hwrites : reads.filter (·.1.isWrite) = [] := by
    refine List.filter_eq_nil_iff.mpr fun u hu => ?_
    rw [(PortUse.sort_of_isLookup (hreads u hu)).1]
    exact Bool.false_ne_true
  refine ⟨?_, ?_, edit, ?_⟩
  · rw [replay_append, replay_cons, hr.store_replay, hstore]
    exact hr.rendered_replay _
  · cases hr with
    | written hl hp =>
        refine ⟨reads ++ [(edit, true)], _, by simp; rfl, ?_⟩
        refine List.forall_mem_append.mpr ⟨fun u hu => ?_, List.forall_mem_singleton.mpr ?_⟩
        · exact (PortUse.sort_of_isLookup (hreads u hu)).2.1
        · exact (PortUse.sort_of_isWrite hedit).1
  · rw [List.filter_append, hwrites, List.filter_cons, if_pos hedit]
    cases hr with
    | written hl hp => rfl

/-- **A reload finds the file in line with the store, and is the only one.** -/
theorem Course.inLine (h : Course template t.store uses)
    (huses : uses = before ++ (.reload, through) :: later) :
    InLine template t before ∧ ∀ u ∈ before ++ later, u.1 ≠ .reload := by
  have hmem : (.reload, through) ∈ uses := huses ▸ List.mem_append_cons_self
  cases h with
  | looked hreads => exact absurd rfl (PortUse.sort_of_isLookup (hreads _ hmem)).2.2
  | refused hreads hedit =>
      rcases List.mem_append.mp hmem with hin | hin
      · exact absurd rfl (PortUse.sort_of_isLookup (hreads _ hin)).2.2
      · cases List.mem_singleton.mp hin
        cases hedit
  | @written reads hreads edit undo hedit hundo r uses events hsync =>
      have hreads' : ∀ u ∈ reads, u.1 ≠ .reload := fun u hu =>
        (PortUse.sort_of_isLookup (hreads u hu)).2.2
      have hedit' : edit ≠ .reload := (PortUse.sort_of_isWrite hedit).2
      have hin : (.reload, through) ∈ uses := by
        rcases List.mem_append.mp hmem with hin | hin
        · exact absurd rfl (hreads' _ hin)
        rcases List.mem_cons.mp hin with heq | hin
        · cases heq
          exact absurd rfl hedit'
        · exact hin
      obtain ⟨front, back, hsplit⟩ := List.append_of_mem hin
      obtain ⟨hr, hback⟩ := hsync.reload_split hundo hsplit
      have hfront : ∀ u ∈ reads ++ (edit, true) :: front, u.1 ≠ .reload :=
        List.forall_mem_append.mpr ⟨hreads', List.forall_mem_cons.mpr ⟨hedit', hr.ne_reload⟩⟩
      rw [hsplit, ← List.cons_append, ← List.append_assoc] at huses
      obtain ⟨rfl, rfl⟩ := cut_at_reload hfront hback huses
      exact ⟨inLine_of_rendering hreads hedit hr, List.forall_mem_append.mpr ⟨hfront, hback⟩⟩

/-- **Reloads come after renderings.** From any scene on, with any port calls
refused: a change that makes the proxy read its file finds it in line with the
store, does so once, and neither after a rendering that failed nor after the
change was taken back. An import neither renders nor reloads. -/
theorem reload_of_rendered (template : Template) (c : Call) (s : Scene Trial) :
    let s' := (perform ((service template).answer c) s).2
    (c.isChange = true → ∃ uses, s'.world = s.world.replay uses ∧
        ∀ before through later, uses = before ++ (.reload, through) :: later →
          InLine template s.world before ∧ ∀ u ∈ before ++ later, u.1 ≠ .reload) ∧
      (c = .importConfig → ∃ uses, s'.world = s.world.replay uses ∧
        ∀ u ∈ uses, u.1.isRendering = false ∧ u.1 ≠ .reload) := by
  refine ⟨fun hc => ?_, fun hc => ?_⟩
  · have hcompletes : Completes template ((service template).answer c) := answer_course hc
    obtain ⟨uses, events, hs', hcourse⟩ := (hcompletes s).perform (.refl s) Prod.mk.eta.symm
    refine ⟨uses, congrArg Scene.world hs', fun before through later huses => ?_⟩
    exact hcourse.inLine huses
  · have hkeeps : Keeps (Did PortUse.isSeeding s) ((service template).answer .importConfig) :=
      seedingKeeps_did.importConfig.bind fun _ => keeps_pure _
    obtain ⟨uses, events, hs', huses⟩ := hkeeps.perform (.refl s) Prod.mk.eta.symm
    subst hc
    exact ⟨uses, congrArg Scene.world hs', fun u hu => PortUse.isSeeding_iff.mp (huses u hu)⟩

theorem reload_of_rendered_unrestored :
    let s' := (perform ((service .default).answer rebinding) ⟨unrestored, []⟩).2
    rebinding.isChange = true ∧ ∃ before later,
      s'.world = unrestored.replay (before ++ (.reload, false) :: later) ∧
        InLine .default unrestored before ∧ ∀ u ∈ before ++ later, u.1 ≠ .reload := by
  intro s'
  have hreload : (.reload, false) ∈ s'.world.log := by decide +kernel
  obtain ⟨uses, hs', hinLine⟩ :=
    (reload_of_rendered .default rebinding ⟨unrestored, []⟩).1 rfl
  rw [hs', log_replay, List.mem_append, List.mem_reverse] at hreload
  have hmem : (.reload, false) ∈ uses := hreload.resolve_right List.not_mem_nil
  obtain ⟨before, later, huses⟩ := List.append_of_mem hmem
  exact ⟨rfl, before, later, huses ▸ hs', hinLine before false later huses⟩

end Trial

end ProxySync
