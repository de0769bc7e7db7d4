import ProxySync.Sync.Ports

/-!
# Ports on a budget

Ports that let a number of calls through and refuse every call after it.
Reads of the store, writes to it, renderings and reloads have a budget each;
reading the configuration file has none. Calls are counted before the budget
is asked.
-/

namespace ProxySync

/-- How many more calls succeed, without bound for none. -/
abbrev Budget := Option Nat

structure Budgets where
  reads : Budget := none
  writes : Budget := none
  renders : Budget := none
  reloads : Budget := none
deriving DecidableEq, Repr

/-- A world with budgets and counts of the calls made to it. -/
structure Budgeted (σ : Type) where
  world : σ
  budgets : Budgets := {}
  writes : Nat := 0
  renders : Nat := 0
  reloads : Nat := 0

namespace Budgeted

variable {σ ε α : Type}

/-- Passes a call on if the budget allows it. -/
def spend (budget : Budget) (refusal : ε) (setBudget : Budget → Budgeted σ → Budgeted σ)
    (call : PortCall σ ε α) : PortCall (Budgeted σ) ε α := fun b =>
  match budget with
  | some 0 => (.error refusal, b)
  | budget =>
    let b := setBudget (budget.map (· - 1)) b
    let (r, world) := call b.world
    (r, { b with world := world })

def read (call : PortCall σ StoreFault α) : PortCall (Budgeted σ) StoreFault α := fun b =>
  spend b.budgets.reads (.engine "read refused")
    (fun n b => { b with budgets.reads := n }) call b

def write (call : PortCall σ StoreFault α) : PortCall (Budgeted σ) StoreFault α := fun b =>
  spend b.budgets.writes (.engine "write refused")
    (fun n b => { b with budgets.writes := n }) call { b with writes := b.writes + 1 }

def render (call : PortCall σ ConfigFault α) : PortCall (Budgeted σ) ConfigFault α := fun b =>
  spend b.budgets.renders (.io .diskFull)
    (fun n b => { b with budgets.renders := n }) call { b with renders := b.renders + 1 }

/-- A reload; `command` is the one that the refusal names. -/
def reload (command : String) (call : PortCall σ ReloadFault α) :
    PortCall (Budgeted σ) ReloadFault α := fun b =>
  spend b.budgets.reloads (.failed command "refused")
    (fun n b => { b with budgets.reloads := n }) call { b with reloads := b.reloads + 1 }

def free (call : PortCall σ ε α) : PortCall (Budgeted σ) ε α := fun b =>
  let (r, world) := call b.world
  (r, { b with world := world })

end Budgeted

/-- The ports `p` on a budget. -/
def Ports.budgeted {σ : Type} (p : Ports σ) (command : String) : Ports (Budgeted σ) where
  lookup k name := Budgeted.read (p.lookup k name)
  scan k := Budgeted.read (p.scan k)
  put k name text := Budgeted.write (p.put k name text)
  remove k name := Budgeted.write (p.remove k name)
  writeConfig text := Budgeted.render (p.writeConfig text)
  readConfig := Budgeted.free p.readConfig
  reload := Budgeted.reload command p.reload

end ProxySync
