import ProxySync.Proofs.Sync.CallRecord
import ProxySync.Proofs.Sync.Ensures

/-!
# What single port calls keep, whole calls keep

Between its port calls the service only computes and counts. So whatever
single port calls keep (`PortsKeep`) is kept by reads, imports and renderings,
and by the inner part of every change, if a synchronization keeps it too. A
change is such an inner part, counted by its outcome
(`Service.exists_counted`).
-/

namespace ProxySync

open Act

variable {σ α : Type} {inv : Scene σ → Prop}

/-- The kind and the operation under which a call is counted. -/
def Call.change? : Call → Option (Kind × Operation)
  | .save e => some (e.kind, .save)
  | .merge k _ _ => some (k, .merge)
  | .delete k _ => some (k, .delete)
  | _ => none

/-! ## Imports -/

section Imports

variable {v : Service σ}

theorem keeps_importAll [Record α] {as : List α} (hone : ∀ a ∈ as, Keeps inv (v.importOne a)) :
    Keeps inv (v.importAll as) := by
  induction as with
  | nil => exact keeps_pure (0, 0)
  | cons a as ih =>
      obtain ⟨ha, has⟩ := List.forall_mem_cons.mp hone
      unfold Service.importAll
      refine ha.bind fun stored => ?_
      exact (ih has).bind fun counts => keeps_pure _

theorem keeps_importConfig (hread : Keeps inv (ask v.ports.readConfig))
    (hlistener : ∀ l : Listener, Keeps inv (v.importOne l))
    (hpool : ∀ p : Pool, Keeps inv (v.importOne p)) : Keeps inv v.importConfig := by
  unfold Service.importConfig
  refine (Leads.blaming hread).bind fun text => ?_
  split
  · exact keeps_throw _
  · refine (keeps_importAll fun l _ => hlistener l).bind fun counts => ?_
    exact (keeps_importAll fun p _ => hpool p).bind fun counts' => keeps_pure _

end Imports

/-! ## Steps -/

/-- Looking a record up, storing one and reading the file do not take a scene
out of `inv`. -/
structure SeedingKeeps (v : Service σ) (inv : Scene σ → Prop) : Prop where
  lookup (k : Kind) (name : String) : Keeps inv (ask (v.ports.lookup k name))
  put (k : Kind) (name text : String) : Keeps inv (ask (v.ports.put k name text))
  readConfig : Keeps inv (ask v.ports.readConfig)

namespace SeedingKeeps

variable {v : Service σ} (h : SeedingKeeps v inv)

include h

theorem get [Record α] (name : String) : Keeps inv (v.get α name) := by
  unfold Service.get Service.lookup
  refine Leads.blaming ((h.lookup _ name).bind fun found => ?_)
  cases found with
  | none => exact keeps_pure _
  | some text => exact (keeps_lift _).bind fun _ => keeps_pure _

theorem members (pool : String) : Keeps inv (v.members pool) := by
  unfold Service.members
  refine (h.get pool).bind fun found => ?_
  cases found with
  | none => exact keeps_throw _
  | some p => exact keeps_pure _

theorem store [Record α] (a : α) : Keeps inv (v.store a) := h.put ..

theorem importOne [Record α] (a : α) : Keeps inv (v.importOne a) := by
  unfold Service.importOne
  refine (keeps_normalize _).bind fun name => ?_
  refine (h.get name).bind fun found => ?_
  cases found with
  | some _ => exact keeps_pure _
  | none => exact (Leads.blaming (h.store _)).bind fun _ => keeps_pure _

theorem importConfig : Keeps inv v.importConfig :=
  keeps_importConfig h.readConfig h.importOne h.importOne

end SeedingKeeps

/-- No single port call but a reload takes a scene out of `inv`. -/
structure PortsKeep (v : Service σ) (inv : Scene σ → Prop) : Prop extends SeedingKeeps v inv where
  scan (k : Kind) : Keeps inv (ask (v.ports.scan k))
  remove (k : Kind) (name : String) : Keeps inv (ask (v.ports.remove k name))
  writeConfig (text : String) : Keeps inv (ask (v.ports.writeConfig text))

namespace PortsKeep

variable {v : Service σ} (h : PortsKeep v inv) (hsync : Keeps inv v.renderAndReload)

include h

theorem listAll [Record α] : Keeps inv (v.listAll α) := by
  unfold Service.listAll
  exact (h.scan _).bind fun _ => keeps_lift _

theorem discard [Record α] (name : String) : Keeps inv (v.discard α name) := h.remove ..

theorem renderCurrent : Keeps inv v.renderCurrent := by
  unfold Service.renderCurrent
  refine (Leads.blaming h.listAll).bind fun listeners => ?_
  refine (Leads.blaming h.listAll).bind fun pools => ?_
  exact Leads.blaming (h.writeConfig _)

/-! ## Changes -/

include hsync

theorem synchronize {undo : Act σ StoreFault Unit} (hundo : Keeps inv undo) :
    Keeps inv (v.synchronize undo) := by
  unfold Service.synchronize
  refine (Leads.attempt hsync).bind fun x => ?_
  cases x with
  | ok _ => exact keeps_pure _
  | error failure =>
      refine (Leads.attempt hundo).bind fun y => ?_
      cases y with
      | error rollback => exact keeps_throw _
      | ok _ =>
          dsimp only
          split
          · exact (Leads.attempt h.renderCurrent).bind fun _ => keeps_throw _
          · exact keeps_throw _

theorem saveAs [Record α] (a : α) : Keeps inv (v.saveAs a) := by
  unfold Service.saveAs
  split
  · exact keeps_throw _
  refine (h.get _).bind fun previous => ?_
  refine (Leads.blaming (h.store a)).bind fun _ => ?_
  cases previous with
  | some old => exact (h.synchronize hsync (h.store old)).bind fun _ => keeps_pure _
  | none => exact (h.synchronize hsync (h.discard _)).bind fun _ => keeps_pure _

end PortsKeep

/-! ## Calls -/

/-- Reads and imports keep what port calls keep. -/
theorem PortsKeep.answer {v : Service σ} (h : PortsKeep v inv) {c : Call}
    (hc : c.change? = none) (hreload : c = .reload → Keeps inv v.reload) :
    Keeps inv (v.answer c) := by
  cases c with
  | save | merge | delete => cases hc
  | get k name =>
      obtain ⟨α, _, _, _, rfl⟩ := k.exists_record
      rw [CallRecord.answer_get]
      exact (h.get name).bind fun _ => keeps_pure _
  | list k =>
      obtain ⟨α, _, _, _, rfl⟩ := k.exists_record
      rw [CallRecord.answer_list]
      exact (Leads.blaming h.listAll).bind fun _ => keeps_pure _
  | members pool => exact (h.members pool).bind fun _ => keeps_pure _
  | readConfig => exact (Leads.blaming h.readConfig).bind fun _ => keeps_pure _
  | reload => exact (Leads.blaming (hreload rfl)).bind fun _ => keeps_pure _
  | importConfig => exact h.importConfig.bind fun _ => keeps_pure _

end ProxySync
