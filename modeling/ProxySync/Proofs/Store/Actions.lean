import ProxySync.Host.Ports
import ProxySync.Proofs.Files.Walk
import ProxySync.Proofs.Store.Entities

/-!
# A store in use

What a store holds after any saves and deletions, with the database closed and
opened again in between. An entity is live when it was saved and nothing was
saved or deleted under its kind and name since. The texts in the store are the
encodings of the live entities, each under its own key (`Represents`), and
every action keeps this. So the store reads as two maps, one for each kind
(`mirrors_of_actAll`).
-/

namespace ProxySync

open Files

/-! ## Actions -/

inductive StoreAction where
  | save (e : Entity)
  | delete (k : Kind) (name : String)
  | reopen

namespace StoreAction

variable {past : List StoreAction} {a : StoreAction} {e : Entity}

/-- The kind and the name under which an action writes. -/
def target? : StoreAction → Option (Kind × String)
  | .save e => some (e.kind, e.name)
  | .delete k name => some (k, name)
  | .reopen => none

/-- What an action writes there; a deletion leaves nothing. -/
def record? : StoreAction → Option String
  | .save e => some e.text
  | .delete .. | .reopen => none

def onStore (s : Store) : StoreAction → Store
  | .save e => s.saveEntity e
  | .delete k name => s.deleteEntity k name
  | .reopen => s

/-- The entity was saved and not replaced or deleted since. -/
def Live (actions : List StoreAction) (e : Entity) : Prop :=
  ∃ before since, actions = before ++ .save e :: since ∧
    ∀ a ∈ since, a.target? ≠ some (e.kind, e.name)

theorem not_live_nil (e : Entity) : ¬ Live [] e := by
  rintro ⟨before, since, hsplit, -⟩
  exact List.append_ne_nil_of_right_ne_nil before (List.cons_ne_nil _ _) hsplit.symm

/-- An action adds the entity that it saves, and of the others keeps those it
does not write over. -/
theorem live_concat :
    Live (past ++ [a]) e ↔ a = .save e ∨ Live past e ∧ a.target? ≠ some (e.kind, e.name) := by
  constructor
  · rintro ⟨before, since, hsplit, hsince⟩
    rcases List.eq_nil_or_concat' since with rfl | ⟨since, last, rfl⟩
    · exact Or.inl (List.singleton_inj.mp (List.append_inj_right' hsplit rfl))
    · rw [← List.cons_append, ← List.append_assoc] at hsplit
      obtain ⟨rfl, hlast⟩ := List.append_inj' hsplit rfl
      obtain rfl := List.singleton_inj.mp hlast
      obtain ⟨hsince, ha⟩ := List.forall_mem_append.mp hsince
      exact Or.inr ⟨⟨before, since, rfl, hsince⟩, ha a List.mem_cons_self⟩
  · rintro (rfl | ⟨⟨before, since, rfl, hsince⟩, ha⟩)
    · exact ⟨past, [], rfl, List.forall_mem_nil _⟩
    · refine ⟨before, since ++ [a], by simp, ?_⟩
      exact List.forall_mem_append.mpr ⟨hsince, List.forall_mem_singleton.mpr ha⟩

theorem text?_onStore (s : Store) (a : StoreAction) (k : Kind) (name : String) :
    (a.onStore s).text? k name =
      if a.target? = some (k, name) then a.record? else s.text? k name := by
  cases a with
  | save e => simp [onStore, target?, record?, Store.saveEntity_eq, Store.text?_put]
  | delete k' name' => simp [onStore, target?, record?, Store.deleteEntity_eq, Store.text?_remove]
  | reopen => rfl

end StoreAction

open StoreAction

/-! ## What the store holds -/

namespace Store

variable {s : Store} {past : List StoreAction}

/-- The texts in the store are the encodings of the entities that are live
after the actions, each under its own key. -/
def Represents (s : Store) (past : List StoreAction) : Prop :=
  ∀ k name text, s.text? k name = some text ↔
    ∃ e : Entity, Live past e ∧ e.kind = k ∧ e.name = name ∧ e.text = text

theorem represents_empty : Store.empty.Represents [] := fun _ _ _ =>
  ⟨nofun, fun ⟨e, hlive, _⟩ => absurd hlive (not_live_nil e)⟩

theorem Represents.onStore (hs : s.Represents past) (a : StoreAction) :
    (a.onStore s).Represents (past ++ [a]) := by
  intro k name text
  rw [text?_onStore]
  split
  · next htarget =>
    constructor
    · intro hrecord
      cases a with
      | save e =>
          obtain ⟨rfl, rfl⟩ := Prod.mk.inj (Option.some.inj htarget)
          exact ⟨e, live_concat.mpr (Or.inl rfl), rfl, rfl, Option.some.inj hrecord⟩
      | delete | reopen => cases hrecord
    · rintro ⟨e, hlive, rfl, rfl, rfl⟩
      rcases live_concat.mp hlive with rfl | ⟨-, hother⟩
      · rfl
      · exact absurd htarget hother
  · next hother =>
    rw [hs k name text]
    constructor
    · rintro ⟨e, hlive, rfl, rfl, rfl⟩
      exact ⟨e, live_concat.mpr (Or.inr ⟨hlive, hother⟩), rfl, rfl, rfl⟩
    · rintro ⟨e, hlive, rfl, rfl, rfl⟩
      rcases live_concat.mp hlive with rfl | ⟨hlive, -⟩
      · exact absurd rfl hother
      · exact ⟨e, hlive, rfl, rfl, rfl⟩

theorem Represents.canonical (hs : s.Represents past) : s.Canonical := by
  intro k name text htext
  obtain ⟨e, -, hk, hname, rfl⟩ := (hs k name text).mp htext
  exact ⟨e, hk, hname, rfl⟩

theorem Represents.text?_eq_some_iff (hs : s.Represents past) {e : Entity} :
    s.text? e.kind e.name = some e.text ↔ Live past e := by
  rw [hs]
  constructor
  · rintro ⟨e', hlive, hk, -, htext⟩
    have hread := e'.ofText_text
    rw [hk, htext, e.ofText_text] at hread
    rwa [Except.ok.inj hread]
  · intro hlive
    exact ⟨e, hlive, rfl, rfl, rfl⟩

/-- The store reads as two maps from names to entities, one for each kind,
that hold the entities for which `live` is true. -/
structure Mirrors (s : Store) (live : Entity → Prop) : Prop where
  /-- Under a name stands the live entity of that kind and name. -/
  get : ∀ e, live e → s.entity? e.kind e.name = .ok (some e)
  /-- Where there is none, nothing is found, and deleting changes nothing. -/
  absent : ∀ k name, (∀ e, live e → ¬ (e.kind = k ∧ e.name = name)) →
    s.entity? k name = .ok none ∧ s.deleteEntity k name = s
  /-- A listing has the live entities of its kind and no others, strictly
  ascending by the bytes of their names. -/
  list : ∀ k, ∃ es, s.entities k = .ok es ∧
    (es.Pairwise fun e e' => Text.utf8Bytes e.name < Text.utf8Bytes e'.name) ∧
    ∀ e, e ∈ es ↔ e.kind = k ∧ live e

theorem remove_of_none {k : Kind} {name : String} (h : s.text? k name = none) :
    s.remove k name = s := by
  refine congrArg Store.mk (Dict.ext_get? fun key => ?_)
  rw [Dict.get?_erase]
  split
  · next hkey =>
    rw [hkey]
    exact h.symm
  · rfl

theorem Represents.mirrors (hs : s.Represents past) : s.Mirrors (Live past) where
  get e hlive := entity?_of_text? (hs.text?_eq_some_iff.mpr hlive)
  absent k name hdead := by
    have hnone : s.text? k name = none := by
      refine Option.eq_none_iff_forall_ne_some.mpr fun text htext => ?_
      obtain ⟨e, hlive, hk, hname, -⟩ := (hs k name text).mp htext
      exact hdead e hlive ⟨hk, hname⟩
    exact ⟨entity?_of_none hnone, (deleteEntity_eq s k name).trans (remove_of_none hnone)⟩
  list k := by
    obtain ⟨es, hread, hes⟩ := exists_entities hs.canonical k
    refine ⟨es, hread, hes.inByteOrder, fun e => (hes.mem_iff e).trans ?_⟩
    exact and_congr_right fun hk => hk ▸ hs.text?_eq_some_iff

end Store

/-! ## Runs on a host -/

namespace Host

variable {folder : String} {h : Host}

/-- What an action makes of a host with its database in `folder`. -/
def act (folder : String) (h : Host) : StoreAction → Except StoreFault Host
  | .save e => .ok { h with store := h.store.saveEntity e }
  | .delete k name => .ok { h with store := h.store.deleteEntity k name }
  | .reopen => h.openStore folder

def actAll (folder : String) (h : Host) : List StoreAction → Except StoreFault Host
  | [] => .ok h
  | a :: actions => (h.act folder a).bind fun h => h.actAll folder actions

/-- Opening a database that is there leaves the disk as it is. -/
theorem openDatabase_of_hasDatabase {d : Disk} (h : hasDatabase d folder = true) :
    openDatabase d folder = (.ok (), d) := by
  have hread : d.readContent (databasePath folder) = .ok .database := by
    unfold hasDatabase at h
    split at h
    · assumption
    · cases h
  have hname : IsStep databaseName := ⟨by decide, by decide⟩
  unfold openDatabase
  rw [Disk.makeFolders_of_readContent hname hread]
  dsimp only
  rw [hread]

theorem act_eq (hdb : hasDatabase h.disk folder = true) (a : StoreAction) :
    h.act folder a = .ok { h with store := a.onStore h.store } := by
  cases a with
  | save | delete => rfl
  | reopen => simp only [act, openStore, hdb, openDatabase_of_hasDatabase hdb, if_true, onStore]

theorem represents_of_actAll (hdb : hasDatabase h.disk folder = true) {past : List StoreAction}
    (hs : h.store.Represents past) (actions : List StoreAction) :
    ∃ h', h.actAll folder actions = .ok h' ∧ h'.store.Represents (past ++ actions) := by
  induction actions generalizing h past with
  | nil => exact ⟨h, rfl, (List.append_nil past).symm ▸ hs⟩
  | cons a actions ih =>
      obtain ⟨h', hrun, hs'⟩ := ih (h := { h with store := a.onStore h.store }) hdb (hs.onStore a)
      refine ⟨h', ?_, List.append_cons past a actions ▸ hs'⟩
      rw [actAll, act_eq hdb]
      exact hrun

/-- **A store is two maps.** From an empty store with its database in place, all
saves, deletions and reopenings go through. Then a look-up finds the entity that
was last saved under its kind and name, unless it was deleted since; deleting a
name that is not there changes nothing; and a listing has the live entities of
its kind, each once, by the bytes of their names. Names may be any texts. -/
theorem mirrors_of_actAll (folder : String) (h : Host) (hdb : hasDatabase h.disk folder = true)
    (hempty : h.store = .empty) (actions : List StoreAction) :
    ∃ h', h.actAll folder actions = .ok h' ∧ h'.store.Mirrors (Live actions) := by
  have hs : h.store.Represents [] := hempty ▸ Store.represents_empty
  obtain ⟨h', hrun, hs'⟩ := represents_of_actAll hdb hs actions
  exact ⟨h', hrun, hs'.mirrors⟩

/-- A disk on which a database has just been made. -/
def freshDisk : Disk where
  nodes := [(["db"], .folder 0o755), (["db", "conduit.redb"], .file 0)]
  files := [(0, { content := .database })]
  nextNumber := 1

theorem mirrors_of_actAll_lookalikes :
    let actions : List StoreAction :=
      [.save (.listener { name := "pool/a" }), .save (.pool { name := "a" }), .reopen,
        .save (.pool { name := "a", mode := "tcp" }), .delete .frontend "a",
        .save (.pool { name := "" }), .delete .backend "", .reopen]
    hasDatabase freshDisk "./db/" = true ∧
      ∃ h, Host.actAll "./db/" { disk := freshDisk } actions = .ok h ∧
        h.store.entity? .backend "a" = .ok (some (.pool { name := "a", mode := "tcp" })) ∧
        h.store.Mirrors (Live actions) := by
  intro actions
  have hdb : hasDatabase freshDisk "./db/" = true := by decide +kernel
  obtain ⟨h, hrun, hmirrors⟩ := mirrors_of_actAll "./db/" { disk := freshDisk } hdb rfl actions
  have hlive : Live actions (.pool { name := "a", mode := "tcp" }) :=
    ⟨actions.take 3, actions.drop 4, rfl, by decide⟩
  exact ⟨hdb, h, hrun, hmirrors.get _ hlive, hmirrors⟩

end Host

end ProxySync
