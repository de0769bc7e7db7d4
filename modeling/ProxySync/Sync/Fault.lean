import ProxySync.ConfigFile.Reader
import ProxySync.ConfigFile.Template
import ProxySync.Store.Basic

/-!
# Why a service call fails

A failure is classified by where it struck: before anything was changed,
while the change was synchronized and could be taken back, or while it
could not be taken back.
-/

namespace ProxySync

open Files ConfigFile

/-! ## The configuration file -/

/-- Why the configuration file or its template cannot be used. -/
inductive ConfigFault where
  | io (cause : IoFault)
  | missingSlot (k : Kind)
  | format (fault : FormatFault)
deriving DecidableEq, Repr

def ConfigFault.message : ConfigFault → String
  | .io cause => "IO error: " ++ cause.message
  | .missingSlot k => "Invalid template: missing placeholder " ++ slotMark k
  | .format fault => fault.message

/-! ## Reloads -/

/-- A decimal fraction of `width` digits without zeros at its end, after a
point. -/
def fractionText (width n : Nat) : String :=
  let padded := List.replicate (width - (Text.digits n).length) '0' ++ Text.digits n
  let digits := (padded.reverse.dropWhile (· == '0')).reverse
  if digits.isEmpty then "" else "." ++ String.ofList digits

/-- A span of time in seconds, or in milliseconds when it is shorter. -/
def spanText (millis : Nat) : String :=
  if millis == 0 then "0ns"
  else if millis < 1000 then toString millis ++ "ms"
  else toString (millis / 1000) ++ fractionText 3 (millis % 1000) ++ "s"

inductive ReloadFault where
  | launch (command : String) (cause : IoFault)
  | failed (command status : String)
  | timedOut (command : String) (millis : Nat)
deriving DecidableEq, Repr

def ReloadFault.message : ReloadFault → String
  | .launch command cause =>
    "Failed to launch reload command '" ++ command ++ "': " ++ cause.message
  | .failed command status => "Reload command '" ++ command ++ "' failed with " ++ status
  | .timedOut command millis =>
    "Reload command '" ++ command ++ "' timed out after " ++ spanText millis

/-! ## Synchronization -/

/-- The step of a synchronization that failed. -/
inductive SyncFailure where
  | read (cause : StoreFault)
  | render (cause : ConfigFault)
  | reload (cause : ReloadFault)
deriving DecidableEq, Repr

namespace SyncFailure

def message : SyncFailure → String
  | .read cause => "failed to read entities for rendering: " ++ cause.message
  | .render cause => "failed to render haproxy config: " ++ cause.message
  | .reload cause => "failed to reload haproxy: " ++ cause.message

/-- The configuration file may already hold the rejected change. -/
def isFileWritten : SyncFailure → Bool
  | .reload _ => true
  | _ => false

end SyncFailure

/-! ## Service calls -/

inductive FaultKind where
  | badData
  | notFound
  | storage
  | sync
  | outOfSync
  | unknown
deriving DecidableEq, Repr

def FaultKind.name : FaultKind → String
  | .badData => "bad_data"
  | .notFound => "not_found"
  | .storage => "storage"
  | .sync => "sync"
  | .outOfSync => "out_of_sync"
  | .unknown => "unknown"

inductive ServiceFault where
  | emptyName
  | lineBreak (k : Kind) (field : String)
  | patchNoObject (k : Kind)
  | patchMismatch (k : Kind) (fault : Json.Fault)
  | noImport (cause : ConfigFault)
  | noEntity (k : Kind) (name : String)
  | nothingToDelete (k : Kind)
  | storage (cause : StoreFault)
  /-- The change has been taken back. -/
  | sync (cause : SyncFailure)
  /-- The change could not be taken back. -/
  | outOfSync (cause : SyncFailure) (rollback : StoreFault)
  | noConfig (cause : ConfigFault)
deriving DecidableEq, Repr

namespace ServiceFault

def kind : ServiceFault → FaultKind
  | .emptyName | .lineBreak .. | .patchNoObject _ | .patchMismatch .. | .noImport _ => .badData
  | .noEntity .. | .nothingToDelete _ => .notFound
  | .storage _ => .storage
  | .sync _ => .sync
  | .outOfSync .. => .outOfSync
  | .noConfig _ => .unknown

def invalidData (k : Kind) : String := "the " ++ k.noun ++ " data is invalid"

def message : ServiceFault → String
  | .emptyName => "Name is required"
  | .lineBreak k field => invalidData k ++ ": " ++ brokenFieldMessage field
  | .patchNoObject k => invalidData k
  | .patchMismatch k fault => invalidData k ++ ": " ++ recordFaultMessage fault
  | .noImport cause => cause.message
  | .noEntity k name => "the " ++ k.noun ++ " with name " ++ name ++ " does not exist"
  | .nothingToDelete k => "the " ++ k.noun ++ " to delete does not exist"
  | .storage cause => "storage error: " ++ cause.message
  | .sync cause =>
    "haproxy sync failed and the change has been rolled back: " ++ cause.message
  | .outOfSync cause rollback =>
    "haproxy config is out of sync with the store (" ++ cause.message ++
      "); rollback failed: " ++ rollback.message
  | .noConfig cause => "unexpected error: " ++ cause.message

end ServiceFault

end ProxySync
