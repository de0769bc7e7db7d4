import ProxySync.ConfigFile.Section

/-!
# Templates of the configuration file

A template is a text with a slot for the frontend sections and a slot for
the backend sections, each at least once. It is cut into its pieces before
anything is filled in, so text that enters through a slot is never taken
for a slot itself.
-/

namespace ProxySync.ConfigFile

open ProxySync.Text

/-- How a slot is written. -/
def slotMark (k : Kind) : String := "\x7b\x7b" ++ k.noun ++ "s\x7d\x7d"

/-- A character that stands for itself, or a slot. -/
inductive Piece where
  | char (c : Char)
  | slot (k : Kind)
deriving DecidableEq, Repr

/-- The slot that starts a text, and the text after it. -/
def leadingSlot? (s : List Char) : Option (Kind × List Char) :=
  match dropLead? (slotMark .frontend).toList s with
  | some rest => some (.frontend, rest)
  | none =>
    match dropLead? (slotMark .backend).toList s with
    | some rest => some (.backend, rest)
    | none => none

theorem length_leadingSlot {s : List Char} {r : Kind × List Char}
    (h : leadingSlot? s = some r) : r.2.length < s.length := by
  unfold leadingSlot? at h
  split at h
  case h_1 rest hd =>
    cases h
    rw [dropLead?_eq_some_iff.1 hd]
    simp [slotMark, Kind.noun]
    omega
  case h_2 =>
    split at h
    case h_1 rest hd =>
      cases h
      rw [dropLead?_eq_some_iff.1 hd]
      simp [slotMark, Kind.noun]
      omega
    case h_2 => simp at h

/-- The pieces of a text, slots taken where they first occur. -/
def pieces (s : List Char) : List Piece :=
  match h : leadingSlot? s with
  | some (k, rest) =>
    have := length_leadingSlot h
    .slot k :: pieces rest
  | none =>
    match s with
    | [] => []
    | c :: rest => .char c :: pieces rest
termination_by s.length

/-! ## Templates -/

structure Template where
  source : String
  hasSlots : ∀ k, Piece.slot k ∈ pieces source.toList

/-- The first slot that is missing, looked for in the order of the kinds. -/
def missingSlot? (s : List Char) : Option Kind :=
  [Kind.frontend, .backend].find? fun k => !(pieces s).contains (.slot k)

theorem slot_mem_of_missingSlot {s : List Char} (h : missingSlot? s = none) (k : Kind) :
    Piece.slot k ∈ pieces s := by
  simp only [missingSlot?, List.find?_eq_none, List.mem_cons, List.not_mem_nil, or_false,
    forall_eq_or_imp, forall_eq] at h
  cases k
  · simpa using h.1
  · simpa using h.2

/-- The template of a text, or the slot it lacks. -/
def Template.ofString (source : String) : Except Kind Template :=
  match h : missingSlot? source.toList with
  | none => .ok ⟨source, slot_mem_of_missingSlot h⟩
  | some k => .error k

def defaultSource : String :=
  "global\n  maxconn 256\n\n  defaults\n    timeout connect 5000ms\n\n" ++
    slotMark .frontend ++ "\n" ++ slotMark .backend ++ "\n"

theorem missingSlot_defaultSource : missingSlot? defaultSource.toList = none := by
  decide +kernel

/-- The template that serves when no other is set. -/
def Template.default : Template :=
  ⟨defaultSource, slot_mem_of_missingSlot missingSlot_defaultSource⟩

def fill (frontends backends : List Char) : Piece → List Char
  | .char c => [c]
  | .slot .frontend => frontends
  | .slot .backend => backends

/-- The configuration text of all listeners and all pools. -/
def Template.render (t : Template) (listeners : List Listener) (pools : List Pool) : String :=
  let frontends := unlines (listeners.flatMap listenerBlock)
  let backends := unlines (pools.flatMap poolBlock)
  String.ofList ((pieces t.source.toList).flatMap (fill frontends backends))

end ProxySync.ConfigFile
