import ProxySync.CommandLine.Basic
import ProxySync.Host.Ports
import ProxySync.Http.Server
import ProxySync.Program.Fault

/-!
# The program

The program opens the store once and then serves in cycles. A cycle loads
the template, binds the port and serves until a stop is asked for. When the
stop is a restart, the settings are read again and the next cycle begins:
on the new settings if they are valid, otherwise on the ones before. Only the
first cycle imports. A cycle that cannot begin ends the program, and so does a
server that is found to have ended before the reason for it was read.
-/

namespace ProxySync

open Files

/-- Where the program stands. -/
inductive Phase where
  | serving (settings : Settings) (server : Http.Server Host)
  /-- With the fault that ended it, if one did. -/
  | ended (host : Host) (fault : Option StartFault)

structure Program where
  line : CommandLine
  network : Network
  /-- The folder of the store that is open. -/
  storeFolder : String
  /-- How often serving began. -/
  cycles : Nat := 0
  phase : Phase

namespace Program

/-! ## Cycles -/

/-- The interface to an installation. -/
def adminOf (i : Installation) (storeFolder : String) : Http.Admin Host where
  service := ⟨Host.ports i, i.template⟩
  configPath := i.configPath
  reloadCommand := i.reloadCommand
  storePath := databasePath storeFolder
  showsMetrics := true

/-- Seeds the store from the configuration file if that is asked for. -/
def seed (v : Service Host) (importing : Bool) (scene : Scene Host) :
    Except ServiceFault Unit × Scene Host :=
  if importing then
    match v.importConfig.perform scene with
    | (.ok _, scene) => (.ok (), scene)
    | (.error fault, scene) => (.error fault, scene)
  else (.ok (), scene)

/-- Gets ready to serve on these settings. -/
def prepare (p : Program) (s : Settings) (importing : Bool) (scene : Scene Host) :
    Except StartFault (Http.Server Host) × Scene Host :=
  match Installation.ofSettings scene.world.disk s with
  | .error cause => (.error (.template cause), scene)
  | .ok i =>
    let admin := adminOf i p.storeFolder
    match seed admin.service importing scene with
    | (.error cause, scene) => (.error (.importing cause), scene)
    | (.ok (), scene) =>
      if p.network.taken.contains s.port then (.error (.bind s.port .addressInUse), scene)
      else (.ok { admin := admin, network := p.network, state := ⟨scene, {}⟩ }, scene)

/-- Begins a cycle, or ends with the fault that is in its way. -/
def enter (p : Program) (s : Settings) (importing : Bool) (scene : Scene Host) : Program :=
  match p.prepare s importing scene with
  | (.ok server, _) => { p with cycles := p.cycles + 1, phase := .serving s server }
  | (.error fault, scene) => { p with phase := .ended scene.world (some fault) }

/-- Starts the program. -/
def start (network : Network) (line : CommandLine) (d : Disk) : Program :=
  let idle : Program :=
    { line := line, network := network, storeFolder := "", phase := .ended { disk := d } none }
  match Settings.resolve d line.settingsFile line.choices with
  | .error cause => { idle with phase := .ended { disk := d } (some (.settings cause)) }
  | .ok s =>
    match Host.openStore { disk := d } s.storePath with
    | .error cause => { idle with phase := .ended { disk := d } (some (.store s.storePath cause)) }
    | .ok h => { idle with storeFolder := s.storePath }.enter s line.importsExisting ⟨h, []⟩

/-- The settings of the next cycle: those that are in force now, or the ones
before if those are not valid. -/
def nextSettings (p : Program) (before : Settings) (d : Disk) : Settings :=
  match Settings.resolve d p.line.settingsFile p.line.choices with
  | .ok next => next
  | .error _ => before

def restart (p : Program) (before : Settings) (scene : Scene Host) : Program :=
  p.enter (p.nextSettings before scene.world.disk) false scene

/-- Why the cycle of a server ends, once it does. A server that holds no
request may be gone before the reason is read, which is then `late`: this counts
as a stop of its own. -/
def outcome? (server : Http.Server Host) (late : Bool) : Option Shutdown.Reason :=
  server.stopReason?.map fun reason => if late && server.held.isEmpty then .force else reason

/-- Ends the cycle if a stop has been asked for, with the answers to the
requests that were held. -/
def settle (p : Program) (late : Bool := false) : List Http.Response × Program :=
  match p.phase with
  | .ended .. => ([], p)
  | .serving settings server =>
    match outcome? server late with
    | none => ([], p)
    | some reason =>
      let (responses, server) := server.drain
      let scene := server.state.scene
      match reason with
      | .restart => (responses, p.restart settings scene)
      | _ => (responses, { p with phase := .ended scene.world none })

/-! ## Events -/

/-- A signal sent to the program. -/
inductive Signal where
  | terminate
  | interrupt
  | hangUp
deriving DecidableEq, Repr

def Signal.reason : Signal → Shutdown.Reason
  | .terminate | .interrupt => .graceful
  | .hangUp => .restart

/-- Sends a signal; the answers are those to the requests that were held. -/
def signal (p : Program) (s : Signal) (late : Bool := false) : List Http.Response × Program :=
  match p.phase with
  | .ended .. => ([], p)
  | .serving settings server =>
    { p with phase := .serving settings (server.trigger s.reason).2 }.settle late

/-- Makes a request to a port. There is no answer if nothing listens there;
a request to restart ends the cycle. -/
def request (p : Program) (port : UInt16) (r : Http.Request) (late : Bool := false) :
    Option Http.Response × List Http.Response × Program :=
  match p.phase with
  | .ended .. => (none, [], p)
  | .serving settings server =>
    if settings.port = port then
      let (response, server) := server.request r
      (response, { p with phase := .serving settings server }.settle late)
    else (none, [], p)

/-- Begins a request and holds it; tells whether the connection was taken. -/
def hold (p : Program) (port : UInt16) (r : Http.Request) : Bool × Program :=
  match p.phase with
  | .ended .. => (false, p)
  | .serving settings server =>
    if settings.port = port then
      let (taken, server) := server.hold r
      (taken, { p with phase := .serving settings server })
    else (false, p)

/-! ## The disk -/

def disk (p : Program) : Disk :=
  match p.phase with
  | .ended host _ => host.disk
  | .serving _ server => server.state.scene.world.disk

/-- The program after others changed the disk. -/
def withDisk (p : Program) (d : Disk) : Program :=
  match p.phase with
  | .ended host fault => { p with phase := .ended { host with disk := d } fault }
  | .serving settings server =>
    let state := server.state
    let host := { state.scene.world with disk := d }
    let state := { state with scene := { state.scene with world := host } }
    { p with phase := .serving settings { server with state := state } }

/-! ## Runs -/

/-- What can occur. The reason for a stop may be read late or in time. -/
inductive Occurrence where
  | edit (d : Disk)
  | request (port : UInt16) (r : Http.Request) (late : Bool := false)
  | hold (port : UInt16) (r : Http.Request)
  | signal (s : Signal) (late : Bool := false)

def step (p : Program) : Occurrence → Program
  | .edit d => p.withDisk d
  | .request port r late => (p.request port r late).2.2
  | .hold port r => (p.hold port r).2
  | .signal s late => (p.signal s late).2

/-- The program after all that occurs. -/
def run (p : Program) (os : List Occurrence) : Program := os.foldl step p

/-! ## The end -/

def isServing (p : Program) : Bool :=
  match p.phase with
  | .serving .. => true
  | .ended .. => false

def fault? (p : Program) : Option StartFault :=
  match p.phase with
  | .serving .. => none
  | .ended _ fault => fault

def exitCode (p : Program) : Nat := if p.fault?.isSome then 1 else 0

/-- What the program says of the fault that ended it. -/
def report (p : Program) : String := (p.fault?.map StartFault.report).getD ""

end Program

end ProxySync
