import ProxySync.Settings.Check
import ProxySync.Settings.Reader

/-!
# The settings in force

The settings file, if there is one, is laid over the defaults and the
command line over both; the result is checked as a whole.
-/

namespace ProxySync

open Files

inductive SettingsFault where
  | notFound (path : String)
  | unreadable (cause : IoFault)
  | malformed
  | invalid (violations : List Violation)
deriving DecidableEq, Repr

/-- What is said of a fault. The account of a malformed file ends with the
reader's own words, which are left out. -/
def SettingsFault.message : SettingsFault → String
  | .notFound path => "Config file not found: " ++ path
  | .unreadable cause => "Failed to read config file: " ++ cause.message
  | .malformed => "Failed to parse YAML config"
  | .invalid vs => violationReport vs

/-- The choices of the settings file at `path`. -/
def Choices.load (d : Disk) (path : String) : Except SettingsFault Choices :=
  match d.readText path with
  | .error .notFound => .error (.notFound path)
  | .error cause => .error (.unreadable cause)
  | .ok text =>
    match Choices.ofText? text with
    | some c => .ok c
    | none => .error .malformed

/-- The settings that a settings file gives by itself, unchecked. -/
def Settings.load (d : Disk) (path : String) : Except SettingsFault Settings :=
  (Choices.load d path).map fun c => ({} : Settings).apply c

/-- The settings of a settings file and a command line, checked. -/
def Settings.resolve (d : Disk) (file : Option String) (overrides : Choices) :
    Except SettingsFault Settings := do
  let base ← match file with
    | some path => Settings.load d path
    | none => pure {}
  let s := base.apply overrides
  match s.violations d.isFile with
  | [] => pure s
  | vs => .error (.invalid vs)

end ProxySync
