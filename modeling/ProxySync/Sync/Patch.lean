import ProxySync.Sync.Fault

/-!
# Patches

A patch is an object whose fields replace the fields of an encoded entity.
Fields that the entity does not have are passed over, and the name stays.
-/

namespace ProxySync

/-- The fields of `value` with those of the patch over them, in key order. -/
def overlay (value patch : List (String × Json)) : Json := .object (Json.inOrder (value ++ patch))

/-- An entity with the fields of a patch in place of its own. -/
def patched {α : Type} [Record α] (current : α) (patch : Json) : Except ServiceFault α :=
  match Record.encode current, patch with
  | .object value, .object fields =>
    match Record.decode .value (overlay value fields).draft with
    | .ok merged => .ok (Record.rename (Record.name current) merged)
    | .error fault => .error (.patchMismatch (Record.kind α) fault)
  | _, _ => .error (.patchNoObject (Record.kind α))

end ProxySync
