import Mathlib.Data.List.Basic
import Mathlib.Logic.Basic
import Mathlib.Tactic.MkIffOfInductiveProp
import ProxySync.Entity.Basic

/-!
# Texts on single lines

An entity is accepted when none of the texts that are rendered breaks its
line (`brokenField?_eq_none_iff`). Here this is said of the fields of a
listener and of a pool by name, for one character at a time.
-/

namespace ProxySync

/-- None of the texts has the character. -/
def Avoids (c : Char) (fields : List LineField) : Prop := ∀ f ∈ fields, c ∉ f.2.toList

theorem avoids_iff_texts {c : Char} {fields : List LineField} :
    Avoids c fields ↔ ∀ s ∈ fields.map (·.2), c ∉ s.toList := by
  rw [List.forall_mem_map]
  rfl

/-- Of fields with running numbers only the texts count. -/
theorem map_mapIdx_of_forall {α β γ : Type} {f : Nat → α → β} {g : β → γ} {h : α → γ}
    (hfg : ∀ i a, g (f i a) = h a) (l : List α) : (l.mapIdx f).map g = l.map h := by
  refine List.ext_getElem (by simp) fun i hi hi' => ?_
  rw [List.getElem_map, List.getElem_mapIdx, List.getElem_map, hfg]

theorem hasLineBreak_eq_false_iff {s : String} :
    hasLineBreak s = false ↔ '\n' ∉ s.toList ∧ '\r' ∉ s.toList := by
  rw [hasLineBreak, List.any_eq_false]
  constructor
  · intro h
    exact ⟨fun hmem => h _ hmem rfl, fun hmem => h _ hmem rfl⟩
  · rintro ⟨hfeed, hreturn⟩ c hc hbreak
    rcases (Bool.or_eq_true ..).mp hbreak with heq | heq
    · exact hfeed (eq_of_beq heq ▸ hc)
    · exact hreturn (eq_of_beq heq ▸ hc)

/-- **No field is broken when no text has a line feed or a carriage return.** -/
theorem brokenField?_eq_none_iff {fields : List LineField} :
    brokenField? fields = none ↔ Avoids '\n' fields ∧ Avoids '\r' fields := by
  have hfields : brokenField? fields = none ↔ ∀ f ∈ fields, hasLineBreak f.2 = false := by
    rw [brokenField?, Option.map_eq_none_iff, List.find?_eq_none]
    simp only [Bool.not_eq_true]
  rw [hfields, Avoids, Avoids, ← forall₂_and]
  exact forall₂_congr fun f _ => hasLineBreak_eq_false_iff

/-! ## Listeners -/

namespace Listener

theorem map_snd_lineFields (l : Listener) :
    l.lineFields.map (·.2) =
      [l.name, l.bind, l.mode, l.defaultBackend, l.option] ++ l.rules := by
  have hrules : (l.rules.mapIdx fun i rule => ("rules[" ++ toString i ++ "]", rule)).map (·.2) =
      l.rules.map id := by
    apply map_mapIdx_of_forall
    exact fun _ _ => rfl
  rw [List.map_id] at hrules
  rw [lineFields, List.map_append, hrules]
  rfl

/-- The texts of a listener that are rendered do without a character. -/
@[mk_iff]
structure Lacks (l : Listener) (c : Char) : Prop where
  name : c ∉ l.name.toList
  bind : c ∉ l.bind.toList
  mode : c ∉ l.mode.toList
  defaultBackend : c ∉ l.defaultBackend.toList
  option : c ∉ l.option.toList
  rules : ∀ rule ∈ l.rules, c ∉ rule.toList

theorem avoids_lineFields_iff {l : Listener} {c : Char} : Avoids c l.lineFields ↔ l.Lacks c := by
  rw [avoids_iff_texts, map_snd_lineFields, lacks_iff]
  simp [or_imp, forall_and]

theorem brokenField?_lineFields_iff {l : Listener} :
    brokenField? l.lineFields = none ↔ l.Lacks '\n' ∧ l.Lacks '\r' := by
  rw [brokenField?_eq_none_iff, avoids_lineFields_iff, avoids_lineFields_iff]

end Listener

/-! ## Pools -/

namespace Pool

theorem map_snd_lineFields (p : Pool) :
    p.lineFields.map (·.2) =
      [p.name, p.mode, p.balance] ++ p.members.flatMap fun m => [m.name, m.host] := by
  rw [lineFields, List.map_append, List.map_flatten,
    map_mapIdx_of_forall (h := fun m : Member => [m.name, m.host]) (fun _ _ => rfl)]
  rfl

/-- The texts of a pool that are rendered do without a character. -/
@[mk_iff]
structure Lacks (p : Pool) (c : Char) : Prop where
  name : c ∉ p.name.toList
  mode : c ∉ p.mode.toList
  balance : c ∉ p.balance.toList
  members : ∀ m ∈ p.members, c ∉ m.name.toList ∧ c ∉ m.host.toList

theorem avoids_lineFields_iff {p : Pool} {c : Char} : Avoids c p.lineFields ↔ p.Lacks c := by
  rw [avoids_iff_texts, map_snd_lineFields, lacks_iff]
  simp only [List.forall_mem_append, List.forall_mem_flatMap]
  simp [and_assoc]

theorem brokenField?_lineFields_iff {p : Pool} :
    brokenField? p.lineFields = none ↔ p.Lacks '\n' ∧ p.Lacks '\r' := by
  rw [brokenField?_eq_none_iff, avoids_lineFields_iff, avoids_lineFields_iff]

end Pool

end ProxySync
