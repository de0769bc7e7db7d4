import ProxySync.Settings.Resolve
import ProxySync.Sync.Fault

/-!
# Why the program cannot serve

A fault is reported with the faults behind it. A single one stands on a line
of its own; more than one are numbered from the outermost inwards.
-/

namespace ProxySync

open Files

/-! ## Causes -/

def StoreFault.causes (f : StoreFault) : List String :=
  f.message ::
    match f with
    | .engine _ => []
    | .undecodable _ fault => [recordFaultMessage fault]
    | .io cause => [cause.message]

def ConfigFault.causes (f : ConfigFault) : List String :=
  f.message ::
    match f with
    | .io cause => [cause.message]
    | _ => []

def ReloadFault.causes (f : ReloadFault) : List String :=
  f.message ::
    match f with
    | .launch _ cause => [cause.message]
    | _ => []

def SyncFailure.causes (f : SyncFailure) : List String :=
  f.message ::
    match f with
    | .read cause => cause.causes
    | .render cause => cause.causes
    | .reload cause => cause.causes

def ServiceFault.causes (f : ServiceFault) : List String :=
  f.message ::
    match f with
    | .storage cause => cause.causes
    | .sync cause => cause.causes
    | .outOfSync _ rollback => rollback.causes
    | _ => []

def SettingsFault.causes (f : SettingsFault) : List String :=
  f.message ::
    match f with
    | .unreadable cause => [cause.message]
    | _ => []

/-! ## Faults -/

inductive StartFault where
  | settings (cause : SettingsFault)
  | store (folder : String) (cause : StoreFault)
  | template (cause : ConfigFault)
  | importing (cause : ServiceFault)
  | bind (port : UInt16) (cause : IoFault)
deriving DecidableEq, Repr

namespace StartFault

def message : StartFault → String
  | .settings _ => "Failed to load settings"
  | .store folder _ => "Failed to open entity store in " ++ folder
  | .template _ => "Failed to load haproxy template"
  | .importing _ => "Failed to import the existing haproxy config"
  | .bind port _ => "Failed to bind to address: 0.0.0.0:" ++ toString port.toNat

def causes : StartFault → List String
  | .settings cause => cause.causes
  | .store _ cause => cause.causes
  | .template cause => cause.causes
  | .importing cause => cause.causes
  | .bind _ cause => [cause.message]

/-! ## Reports -/

/-- A text behind a lead, its other lines behind blanks of `width`. -/
def hanging (lead : String) (width : Nat) (text : String) : String :=
  let gap := "\n" ++ String.ofList (List.replicate width ' ')
  lead ++ gap.intercalate ((text.toList.splitOn '\n').map String.ofList)

/-- Numbered entries from `n`. -/
def numbered : (n : Nat) → List String → List String
  | _, [] => []
  | n, cause :: rest =>
    let digits := toString n
    let lead := String.ofList (List.replicate (5 - digits.length) ' ') ++ digits ++ ": "
    hanging lead 7 cause :: numbered (n + 1) rest

def causeLines : List String → List String
  | [cause] => [hanging "    " 4 cause]
  | causes => numbered 0 causes

def report (f : StartFault) : String :=
  "Error: " ++ f.message ++ "\n\nCaused by:\n" ++ "\n".intercalate (causeLines f.causes) ++ "\n"

end StartFault

end ProxySync
