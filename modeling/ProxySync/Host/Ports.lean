import ProxySync.Host.Installation
import ProxySync.Store.Database
import ProxySync.Sync.Ports

/-!
# The host as a world

On a host the records are those of the open database, and the
configuration file and the reload command belong to an installation of the
proxy.
-/

namespace ProxySync

open Files

structure Host where
  disk : Disk
  store : Store := .empty

namespace Host

/-- An operation on the disk. -/
def onDisk {ε α : Type} (act : Disk → Except ε α × Disk) : PortCall Host ε α := fun h =>
  let (r, d) := act h.disk
  (r, { h with disk := d })

/-- The host's ports. The database itself never refuses. -/
def ports (i : Installation) : Ports Host where
  lookup k name := fun h => (.ok (h.store.text? k name), h)
  scan k := fun h => (.ok (h.store.scan k), h)
  put k name text := fun h => (.ok (), { h with store := h.store.put k name text })
  remove k name := fun h => (.ok (), { h with store := h.store.remove k name })
  writeConfig text := onDisk (i.writeConfig text)
  readConfig := onDisk fun d => (i.readConfig d, d)
  reload := onDisk i.reload

/-- Opens the database in `folder`, with the records that it holds if it was
open before. -/
def openStore (h : Host) (folder : String) : Except StoreFault Host :=
  let store := if hasDatabase h.disk folder then h.store else .empty
  match openDatabase h.disk folder with
  | (.ok (), d) => .ok ⟨d, store⟩
  | (.error fault, _) => .error fault

end Host

end ProxySync
