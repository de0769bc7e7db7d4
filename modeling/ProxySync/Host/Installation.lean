import ProxySync.Settings.Resolve
import ProxySync.Shell.Run
import ProxySync.Sync.Fault

/-!
# An installation of the proxy

The proxy's configuration file, the template it is written from, and the
command that makes the proxy read it. The file is written under another
name first and then moved into place, so it is never half written.
-/

namespace ProxySync

open Files ConfigFile

structure Installation where
  configPath : String
  template : Template
  reloadCommand : String
  reloadMillis : Nat

namespace Installation

/-- A blank reload command stands for the default one. -/
def make (configPath : String) (template : Template) (reloadCommand : String)
    (reloadMillis : Nat) : Installation where
  configPath := configPath
  template := template
  reloadCommand := if Text.isBlankText reloadCommand then defaultReloadCommand else reloadCommand
  reloadMillis := reloadMillis

def loadTemplate (d : Disk) (path : String) : Except ConfigFault Template :=
  match d.readText path with
  | .error cause => .error (.io cause)
  | .ok source => (Template.ofString source).mapError .missingSlot

/-- The template of the settings, or the built-in one. -/
def templateOf (d : Disk) (s : Settings) : Except ConfigFault Template :=
  match s.templatePath with
  | some path => loadTemplate d path
  | none => .ok .default

/-- The installation that settings describe. -/
def ofSettings (d : Disk) (s : Settings) : Except ConfigFault Installation :=
  (templateOf d s).map fun t =>
    make s.configPath t s.reloadCommand (1000 * s.reloadTimeoutSecs.toNat)

/-- The path that the file is written to before it is moved into place. -/
def stagingPath (i : Installation) : Except ConfigFault String :=
  match fileName? i.configPath with
  | some name => .ok (withFileName i.configPath (name ++ ".tmp"))
  | none => .error (.io (.noFileName i.configPath))

def writeConfig (i : Installation) (text : String) (d : Disk) : Except ConfigFault Unit × Disk :=
  match i.stagingPath with
  | .error fault => (.error fault, d)
  | .ok staging =>
    match d.write staging (.text text) with
    | .error cause => (.error (.io cause), d)
    | .ok d =>
      match d.rename staging i.configPath with
      | .error cause => (.error (.io cause), d)
      | .ok d => (.ok (), d)

def readConfig (i : Installation) (d : Disk) : Except ConfigFault String :=
  (d.readText i.configPath).mapError .io

/-- Runs the reload command for at most the time that is set. -/
def reload (i : Installation) (d : Disk) : Except ReloadFault Unit × Disk :=
  if i.reloadCommand.toList.contains '\x00' then
    (.error (.launch i.reloadCommand .nulInArgument), d)
  else
    match Shell.runScript d i.reloadCommand i.reloadMillis with
    | (.exited 0, d) => (.ok (), d)
    | (.expired, d) => (.error (.timedOut i.reloadCommand i.reloadMillis), d)
    | (ending, d) => (.error (.failed i.reloadCommand ending.message), d)

end Installation

end ProxySync
