import ProxySync.Tool.Basic

/-!
# Trees of files

Going through folders: what stands at and below a path, in the order in which
it is come to.
-/

namespace ProxySync.Tool

open Files

/-- The names in a folder, in order. -/
def sortedNames (d : Disk) (p : Place) : List String :=
  ((d.names p).map Text.toOctets).mergeSort fun a b => a ≤ b

/-- A path that was come to. -/
structure Visit where
  path : String
  place : Place
  node : Node
  depth : Nat

/-- How deep trees of folders may be. -/
def depthLimit : Nat := 400

/-- Everything at and below a place, folders before what is in them. -/
def visitsBelow (d : Disk) : (fuel : Nat) → (depth : Nat) → (path : String) → Place → Node →
    List Visit
  | 0, _, _, _, _ => []
  | fuel + 1, depth, path, place, node =>
    let own : Visit := ⟨path, place, node, depth⟩
    match node with
    | .folder _ =>
      own :: (sortedNames d place).flatMap fun name =>
        let q := place ++ [Text.ofOctets name]
        match d.node? q with
        | some n => visitsBelow d fuel (depth + 1) (child path name) q n
        | none => []
    | _ => [own]

/-- Everything at and below a path, whose last link is followed where that is
asked for. -/
def visits (d : Disk) (base : Place) (path : String) (follow : Bool) :
    Except IoFault (List Visit) := do
  let (place, node) ← d.lookup (pathOf path) follow base
  pure (visitsBelow d depthLimit 0 path place node)

end ProxySync.Tool
