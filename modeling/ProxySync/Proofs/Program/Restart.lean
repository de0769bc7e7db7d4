import ProxySync.Program.Basic
import ProxySync.Proofs.Http.Stop

/-!
# Stops and restarts

While the program serves, it has not been asked to stop; signals and requests
to restart ask it, nothing else does. A restart, if its reason is read in time,
is followed by a cycle on the settings that are valid then, or on the ones
before, with the same store and without an import, as long as the template of
those settings loads (`step_of_serving`). Where it does not the program ends,
though the settings before could still have been served
(`fault?_of_bad_template`).
-/

namespace ProxySync

open Files

/-! ## Settings -/

theorem Settings.apply_apply (s : Settings) (c : Choices) : (s.apply c).apply c = s.apply c := by
  have hgetD {α : Type} (o : Option α) (a : α) : o.getD (o.getD a) = o.getD a := by
    cases o <;> rfl
  simp only [Settings.apply, hgetD, ← Option.or_assoc, Option.or_self]

/-- In valid settings the command line has been followed. -/
theorem Settings.apply_of_resolve {d : Disk} {file : Option String} {c : Choices} {s : Settings}
    (h : Settings.resolve d file c = .ok s) : s.apply c = s := by
  obtain ⟨base, rfl⟩ : ∃ base : Settings, s = base.apply c := by
    unfold Settings.resolve at h
    cases file with
    | none =>
        simp only [pure_bind] at h
        split at h
        · exact ⟨{}, (Except.ok.inj h).symm⟩
        · cases h
    | some path =>
        cases hload : Settings.load d path with
        | error fault =>
            simp only [hload] at h
            cases h
        | ok base =>
            simp only [hload, bind, Except.bind] at h
            split at h
            · exact ⟨base, (Except.ok.inj h).symm⟩
            · cases h
  exact base.apply_apply c

/-! ## One occurrence -/

namespace Program

/-- The stop that an occurrence asks for while the program serves. -/
def asked? (settings : Settings) (server : Http.Server Host) : Occurrence → Option Shutdown.Reason
  | .signal s _ => some s.reason
  | .request port r _ =>
    if settings.port = port && server.takesConnections && r.asksRestart then some .restart else none
  | .edit _ | .hold .. => none

/-- The reason for it is read late. -/
def Occurrence.isLate : Occurrence → Bool
  | .signal _ late | .request _ _ late => late
  | .edit _ | .hold .. => false

/-- The reason for which an occurrence ends the cycle: the one that is asked
for, if it is read in time or the server still holds a request. -/
def reason? (settings : Settings) (server : Http.Server Host) (o : Occurrence) :
    Option Shutdown.Reason :=
  (asked? settings server o).map fun r => if o.isLate && server.held.isEmpty then .force else r

/-- The server after an occurrence, before a stop takes effect. -/
def afterwards (settings : Settings) (server : Http.Server Host) : Occurrence → Http.Server Host
  | .signal s _ => (server.trigger s.reason).2
  | .request port r _ => if settings.port = port then (server.request r).2 else server
  | .hold port r => if settings.port = port then (server.hold r).2 else server
  | .edit d =>
    let state := server.state
    let host := { state.scene.world with disk := d }
    { server with state := { state with scene := { state.scene with world := host } } }

/-- What is left when the requests that are held have been completed. -/
def leaving (settings : Settings) (server : Http.Server Host) (o : Occurrence) : Scene Host :=
  (afterwards settings server o).drain.2.state.scene

variable {p : Program} {settings : Settings} {server : Http.Server Host} {o : Occurrence}

theorem shutdown_afterwards (settings : Settings) (o : Occurrence)
    (hidle : server.state.shutdown = {}) :
    (afterwards settings server o).state.shutdown =
      (asked? settings server o).elim {} fun r => { initiated := true, sent := [r] } := by
  cases o with
  | edit d => exact hidle
  | signal s late =>
      change (server.state.shutdown.trigger s.reason).2 = _
      rw [hidle]
      rfl
  | hold port r =>
      have hkept : (afterwards settings server (.hold port r)).state = server.state := by
        simp only [afterwards, Http.Server.hold]
        split
        · split <;> rfl
        · rfl
      rw [hkept, hidle]
      rfl
  | request port r late =>
      simp only [afterwards, asked?]
      by_cases hport : settings.port = port
      · rw [if_pos hport, server.shutdown_request, hidle, decide_eq_true hport, Bool.true_and]
        split <;> rfl
      · rw [if_neg hport, decide_eq_false hport, Bool.false_and]
        exact hidle

theorem outcome?_afterwards (settings : Settings) (o : Occurrence)
    (hidle : server.state.shutdown = {}) :
    outcome? (afterwards settings server o) o.isLate = reason? settings server o := by
  have hshutdown := shutdown_afterwards settings o hidle
  rw [outcome?, Http.Server.stopReason?, hshutdown, reason?]
  cases hasked : asked? settings server o with
  | none => rfl
  | some r =>
      have hheld : (afterwards settings server o).held = server.held := by
        cases o with
        | signal => rfl
        | request port r late =>
            simp only [afterwards]
            split
            · exact server.held_request r
            · rfl
        | edit | hold => cases hasked
      rw [hheld]
      rfl

theorem settle_of_none {late : Bool} (hserving : p.phase = .serving settings server)
    (hnone : outcome? server late = none) : p.settle late = ([], p) := by
  rw [settle, hserving]
  simp only [hnone]

/-- Every occurrence is met by the server first; then a stop takes effect. -/
theorem step_eq (hserving : p.phase = .serving settings server)
    (hidle : server.state.shutdown = {}) :
    p.step o =
      ({ p with phase := .serving settings (afterwards settings server o) }.settle o.isLate).2 := by
  have hsettle (hnone : asked? settings server o = none) :
      ({ p with phase := .serving settings (afterwards settings server o) }.settle o.isLate).2 =
        { p with phase := .serving settings (afterwards settings server o) } := by
    have hreason := outcome?_afterwards settings o hidle
    rw [reason?, hnone] at hreason
    rw [settle_of_none rfl hreason]
  have hself : { p with phase := .serving settings server } = p := by rw [← hserving]
  cases o with
  | signal s late => simp only [step, signal, hserving, afterwards, Occurrence.isLate]
  | edit d =>
      rw [hsettle rfl]
      simp only [step, withDisk, hserving, afterwards]
  | hold port r =>
      rw [hsettle rfl]
      simp only [step, hold, hserving, afterwards]
      split
      · rfl
      · exact hself.symm
  | request port r late =>
      simp only [step, request, hserving]
      split
      · next hport =>
        simp only [afterwards, if_pos hport, Occurrence.isLate]
      · next hport =>
        rw [hsettle (by simp [asked?, hport])]
        simp only [afterwards, if_neg hport]
        exact hself.symm

/-- What an occurrence makes of the program while it serves. -/
inductive Proceeds (p : Program) (settings : Settings) (server : Http.Server Host)
    (o : Occurrence) : Program → Prop where
  | serves (h : reason? settings server o = none) :
      Proceeds p settings server o
        { p with phase := .serving settings (afterwards settings server o) }
  | stops {r : Shutdown.Reason} (h : reason? settings server o = some r) (hr : r ≠ .restart) :
      Proceeds p settings server o
        { p with phase := .ended (leaving settings server o).world none }
  | restarts (h : reason? settings server o = some .restart) :
      Proceeds p settings server o (p.restart settings (leaving settings server o))

theorem proceeds_step (hserving : p.phase = .serving settings server)
    (hidle : server.state.shutdown = {}) : Proceeds p settings server o (p.step o) := by
  have houtcome := outcome?_afterwards settings o hidle
  rw [step_eq hserving hidle]
  cases hreason : reason? settings server o with
  | none =>
      rw [hreason] at houtcome
      rw [settle_of_none rfl houtcome]
      exact .serves hreason
  | some r =>
      rw [hreason] at houtcome
      simp only [settle, houtcome]
      cases r with
      | restart => exact .restarts hreason
      | graceful => exact .stops hreason nofun
      | force => exact .stops hreason nofun

/-! ## Cycles -/

/-- `next` are the settings that `d` holds for a command line, or the ones
before where these cannot be used. -/
inductive Succeeds (line : CommandLine) (d : Disk) (before : Settings) : Settings → Prop where
  | resolved {next : Settings}
      (h : Settings.resolve d line.settingsFile line.choices = .ok next) :
      Succeeds line d before next
  | kept {fault : SettingsFault}
      (h : Settings.resolve d line.settingsFile line.choices = .error fault) :
      Succeeds line d before before

theorem succeeds_nextSettings (p : Program) (before : Settings) (d : Disk) :
    Succeeds p.line d before (p.nextSettings before d) := by
  unfold nextSettings
  split
  · next next h => exact .resolved h
  · next fault h => exact .kept h

theorem Succeeds.apply_eq {line : CommandLine} {d : Disk} {before next : Settings}
    (h : Succeeds line d before next) (hbefore : before.apply line.choices = before) :
    next.apply line.choices = next := by
  cases h with
  | resolved h => exact Settings.apply_of_resolve h
  | kept => exact hbefore

variable {scene : Scene Host} {s : Settings}

theorem enter_of_template {importing : Bool} {cause : ConfigFault}
    (h : Installation.ofSettings scene.world.disk s = .error cause) :
    p.enter s importing scene =
      { p with phase := .ended scene.world (some (.template cause)) } := by
  simp only [enter, prepare, h]

theorem enter_of_installation {i : Installation}
    (h : Installation.ofSettings scene.world.disk s = .ok i)
    (hport : p.network.taken.contains s.port = false) :
    p.enter s false scene =
      { p with
        cycles := p.cycles + 1
        phase := .serving s
          { admin := adminOf i p.storeFolder, network := p.network, state := ⟨scene, {}⟩ } } := by
  simp only [enter, prepare, h, seed, hport, Bool.false_eq_true, if_false]

theorem shutdown_of_prepare {importing : Bool} {scene' : Scene Host}
    (h : p.prepare s importing scene = (.ok server, scene')) : server.state.shutdown = {} := by
  unfold prepare at h
  split at h
  · cases h
  · dsimp only at h
    split at h
    · cases h
    · split at h
      · cases h
      · cases h
        rfl

/-- What does not change in the course of a run, and how the program serves
between two occurrences: not asked to stop, and as the command line says. -/
structure Steady (line : CommandLine) (network : Network) (folder : String) (p : Program) :
    Prop where
  line_eq : p.line = line
  network_eq : p.network = network
  folder_eq : p.storeFolder = folder
  serving : ∀ settings server, p.phase = .serving settings server →
    server.state.shutdown = {} ∧ settings.apply line.choices = settings

variable {line : CommandLine} {network : Network} {folder : String}

theorem Steady.ended (hp : p.Steady line network folder) (host : Host)
    (fault : Option StartFault) : { p with phase := .ended host fault }.Steady line network folder :=
  ⟨hp.line_eq, hp.network_eq, hp.folder_eq, nofun⟩

theorem storeFolder_enter (p : Program) (s : Settings) (importing : Bool) (scene : Scene Host) :
    (p.enter s importing scene).storeFolder = p.storeFolder := by
  unfold enter
  split <;> rfl

theorem steady_enter {importing : Bool} (hs : s.apply line.choices = s) (hline : p.line = line)
    (hnetwork : p.network = network) (hfolder : p.storeFolder = folder) :
    (p.enter s importing scene).Steady line network folder := by
  unfold enter
  split
  · next server _ hprepare =>
    refine ⟨hline, hnetwork, hfolder, fun settings server' hserving => ?_⟩
    obtain ⟨rfl, rfl⟩ := Phase.serving.inj hserving
    exact ⟨shutdown_of_prepare hprepare, hs⟩
  · exact ⟨hline, hnetwork, hfolder, nofun⟩

theorem Steady.proceeds (hp : p.Steady line network folder)
    (hserving : p.phase = .serving settings server) {p' : Program}
    (h : Proceeds p settings server o p') : p'.Steady line network folder := by
  obtain ⟨hidle, hsettings⟩ := hp.serving settings server hserving
  cases h with
  | serves hnone =>
      refine ⟨hp.line_eq, hp.network_eq, hp.folder_eq, fun settings' server' hserving' => ?_⟩
      obtain ⟨rfl, rfl⟩ := Phase.serving.inj hserving'
      have hshutdown := shutdown_afterwards settings o hidle
      rw [Option.map_eq_none_iff.mp hnone] at hshutdown
      exact ⟨hshutdown, hsettings⟩
  | stops => exact hp.ended _ none
  | restarts =>
      have hnext := succeeds_nextSettings p settings (leaving settings server o).world.disk
      rw [hp.line_eq] at hnext
      exact steady_enter (hnext.apply_eq hsettings) hp.line_eq hp.network_eq hp.folder_eq

/-- A program that has ended does not come back. -/
theorem step_of_ended {host : Host} {fault : Option StartFault}
    (hended : p.phase = .ended host fault) (o : Occurrence) :
    ∃ host', p.step o = { p with phase := .ended host' fault } := by
  have hself : p = { p with phase := .ended host fault } := by rw [← hended]
  cases o with
  | edit d => exact ⟨{ host with disk := d }, by simp only [step, withDisk, hended]⟩
  | signal s late => exact ⟨host, by simp only [step, signal, hended]; exact hself⟩
  | request port r late => exact ⟨host, by simp only [step, request, hended]; exact hself⟩
  | hold port r => exact ⟨host, by simp only [step, hold, hended]; exact hself⟩

theorem Steady.step (hp : p.Steady line network folder) (o : Occurrence) :
    (p.step o).Steady line network folder := by
  cases hphase : p.phase with
  | serving settings server =>
      have hidle := (hp.serving settings server hphase).1
      exact hp.proceeds hphase (proceeds_step hphase hidle)
  | ended host fault =>
      obtain ⟨host', hstep⟩ := step_of_ended hphase o
      rw [hstep]
      exact hp.ended host' fault

theorem Steady.run (hp : p.Steady line network folder) (os : List Occurrence) :
    (p.run os).Steady line network folder := by
  induction os generalizing p with
  | nil => exact hp
  | cons o os ih => exact ih (hp.step o)

theorem steady_start (network : Network) (line : CommandLine) (d : Disk) :
    (start network line d).Steady line network (start network line d).storeFolder := by
  unfold start
  dsimp only
  split
  · exact ⟨rfl, rfl, rfl, nofun⟩
  next s hresolve =>
  split
  · exact ⟨rfl, rfl, rfl, nofun⟩
  · have hs := Settings.apply_of_resolve hresolve
    rw [storeFolder_enter]
    exact steady_enter hs rfl rfl rfl

/-- **A restart is followed by another cycle, if the template of its settings
loads.** At any time in any run in which the program serves: as long as nothing
ends the cycle it goes on serving on the same settings, and any reason but a
restart ends it. After a restart come the settings that are valid then or, where
they cannot be used, those before; the command line is followed in either. If
their template loads and their port is free, the next cycle serves on them, on
the store as the last one left it: it is not opened again, and nothing is
imported. If it does not load the program ends, whatever the settings before. A
restart that is read late is no restart here: its reason is `.force` (`reason?`),
and it ends the program as any stop does. -/
theorem step_of_serving (network : Network) (line : CommandLine) (d : Disk)
    (os : List Occurrence) (o : Occurrence) (settings : Settings) (server : Http.Server Host)
    (hserving : ((start network line d).run os).phase = .serving settings server) :
    let p := (start network line d).run os
    let last := leaving settings server o
    (p.line = line ∧ p.network = network ∧
        p.storeFolder = (start network line d).storeFolder) ∧
      (reason? settings server o = none →
        ∃ server', p.step o = { p with phase := .serving settings server' }) ∧
      (∀ r, reason? settings server o = some r → r ≠ .restart →
        p.step o = { p with phase := .ended last.world none }) ∧
      (reason? settings server o = some .restart →
        ∃ next, Succeeds line last.world.disk settings next ∧
          next.apply line.choices = next ∧
          (∀ i, Installation.ofSettings last.world.disk next = .ok i →
            network.taken.contains next.port = false →
              p.step o = { p with
                cycles := p.cycles + 1
                phase := .serving next
                  { admin := adminOf i p.storeFolder, network := network, state := ⟨last, {}⟩ } }) ∧
          (∀ cause, Installation.ofSettings last.world.disk next = .error cause →
            p.step o = { p with phase := .ended last.world (some (.template cause)) })) := by
  intro p last
  have hp : p.Steady line network (start network line d).storeFolder :=
    (steady_start network line d).run os
  obtain ⟨hidle, hsettings⟩ := hp.serving settings server hserving
  have hstep : Proceeds p settings server o (p.step o) := proceeds_step hserving hidle
  generalize p.step o = p' at hstep ⊢
  refine ⟨⟨hp.line_eq, hp.network_eq, hp.folder_eq⟩, fun hnone => ?_, fun r hr hstop => ?_,
    fun hrestart => ?_⟩
  · cases hstep with
    | serves => exact ⟨_, rfl⟩
    | stops h | restarts h => cases hnone.symm.trans h
  · cases hstep with
    | stops => rfl
    | serves h => cases hr.symm.trans h
    | restarts h => exact absurd (Option.some.inj (hr.symm.trans h)) hstop
  · cases hstep with
    | serves h => cases hrestart.symm.trans h
    | stops h hstop => exact absurd (Option.some.inj (h.symm.trans hrestart)) hstop
    | restarts =>
        have hnext := succeeds_nextSettings p settings last.world.disk
        rw [hp.line_eq] at hnext
        refine ⟨_, hnext, hnext.apply_eq hsettings, fun i hi hport => ?_, fun cause hcause => ?_⟩
        · rw [← hp.network_eq] at hport ⊢
          exact enter_of_installation hi hport
        · exact enter_of_template hcause

/-! ## A home -/

def settings? (p : Program) : Option Settings :=
  match p.phase with
  | .serving settings _ => some settings
  | .ended .. => none

def homeLine : CommandLine where
  settingsFile := some "c"
  choices := { configPath := some "h.cfg", storePath := some "db" }

/-- A settings file, and a template that has no place for the backends. -/
def homeDisk : Disk where
  nodes := [(["c"], .file 0), (["t"], .file 1)]
  files := [(0, { content := .text "port: 8081\n" }),
    (1, { content := .text "\x7b\x7bfrontends\x7d\x7d\n" })]
  nextNumber := 2

/-- The program serving at home, with another text in the settings file. -/
def resettled (text : String) : Program :=
  let p := start {} homeLine homeDisk
  p.run [.edit (p.disk.plant "c" (.text text))]

theorem step_of_serving_resettled :
    let p := resettled "port: 8082\n"
    ∃ settings server next i last, p.phase = .serving settings server ∧
      settings.port = 8081 ∧ next.port = 8082 ∧
      p.step (.signal .hangUp) = { p with
        cycles := p.cycles + 1
        phase := .serving next
          { admin := adminOf i p.storeFolder, network := {}, state := ⟨last, {}⟩ } } := by
  intro p
  have hbefore : p.settings?.map (·.port) = some 8081 := by decide +kernel
  have hafter : (p.step (.signal .hangUp)).settings?.map (·.port) = some 8082 := by decide +kernel
  cases hphase : p.phase with
  | ended host fault =>
      rw [settings?, hphase] at hbefore
      cases hbefore
  | serving settings server =>
      rw [settings?, hphase] at hbefore
      obtain ⟨-, -, -, hrestart⟩ :=
        step_of_serving {} homeLine homeDisk _ (.signal .hangUp) settings server hphase
      obtain ⟨next, -, -, hserves, hends⟩ := hrestart rfl
      cases hi : Installation.ofSettings
        (leaving settings server (.signal .hangUp)).world.disk next with
      | error cause =>
          have hstep := hends cause hi
          change p.step _ = _ at hstep
          rw [hstep] at hafter
          cases hafter
      | ok i =>
          have hstep := hserves i hi rfl
          change p.step _ = _ at hstep
          rw [hstep] at hafter
          exact ⟨settings, server, next, i, _, rfl, Option.some.inj hbefore,
            Option.some.inj hafter, hstep⟩

/-- The new settings are valid, as their template is a file, and the settings
before need no file at all; still the program ends. -/
theorem fault?_of_bad_template :
    let p := resettled "port: 8081\nhatemplate: t\n"
    p.settings?.any (fun s => (Installation.ofSettings p.disk s).isOk) = true ∧
      (Settings.resolve p.disk homeLine.settingsFile homeLine.choices).isOk = true ∧
      (p.step (.signal .hangUp)).fault? = some (.template (.missingSlot .backend)) := by
  decide +kernel

end Program

end ProxySync
