import ProxySync.Settings.Basic
import ProxySync.Files.Disk

/-!
# Conditions on settings

Settings are checked before anything is opened. Six conditions are looked
at in a fixed order, and every one that fails is reported.
-/

namespace ProxySync

inductive Violation where
  | zeroPort
  | missing (key : String)
  | zeroTimeout
  | noTemplateFile (path : String)
deriving DecidableEq, Repr

def Violation.message : Violation → String
  | .zeroPort => "Invalid field 'port': Port must be between 1 and 65535"
  | .missing key => "Missing required field: " ++ key
  | .zeroTimeout =>
    "Invalid field 'reload-timeout-secs': Reload timeout must be at least one second"
  | .noTemplateFile path => "File not found: " ++ path

/-- The conditions that the settings break; `isFile` tells which paths are
regular files. -/
def Settings.violations (isFile : String → Bool) (s : Settings) : List Violation :=
  (if s.port = 0 then [.zeroPort] else []) ++
  (if s.configPath = "" then [.missing configPathKey] else []) ++
  (if s.storePath = "" then [.missing storePathKey] else []) ++
  (if Text.isBlankText s.reloadCommand then [.missing reloadCommandKey] else []) ++
  (if s.reloadTimeoutSecs = 0 then [.zeroTimeout] else []) ++
  (match s.templatePath with
  | some path => if isFile path then [] else [.noTemplateFile path]
  | none => [])

/-- The lines of a list of faults, numbered from `n`. -/
def numberedLines : (n : Nat) → List Violation → String
  | _, [] => ""
  | n, v :: rest =>
    "  " ++ toString n ++ ". " ++ v.message ++ "\n" ++ numberedLines (n + 1) rest

def violationReport (vs : List Violation) : String :=
  "Configuration validation failed: Found " ++ toString vs.length ++ " validation error(s):\n" ++
    numberedLines 1 vs

end ProxySync
