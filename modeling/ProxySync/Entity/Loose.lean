import ProxySync.Entity.Basic

/-!
# Loose records

A record of any content under a name, for entities that this version does
not know. Only its name has to stay on one line.
-/

namespace ProxySync

structure Loose (k : Kind) where
  name : String
  content : Json

/-- The text in the field `name` of an object. -/
def nameIn (v : Json) : String :=
  match v with
  | .object fields =>
    match fields.lookup "name" with
    | some (.string s) => s
    | _ => ""
  | _ => ""

instance (k : Kind) : Record (Loose k) where
  kind := k
  name := Loose.name
  rename name r := { r with name := name }
  lineFields r := [("name", r.name)]
  encode := Loose.content
  decode _ d :=
    match Json.ofDraft? Json.depthLimit d with
    | some v => .ok ⟨nameIn v, v⟩
    | none => .error .malformed

end ProxySync
