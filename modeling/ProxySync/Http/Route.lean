import ProxySync.Entity.Basic
import ProxySync.Http.Message

/-!
# Routes of the admin interface

A route is found by the path as it was sent; the name in it is decoded
afterwards, so an encoded slash belongs to the name.
-/

namespace ProxySync.Http

inductive Route where
  | status
  | metrics
  | restart
  | config
  | reload
  | collection (k : Kind)
  | entity (k : Kind) (name : String)
  | members (pool : String)
deriving DecidableEq, Repr

namespace Route

/-- The kind of a collection by its word in a path. -/
def collectionKind? (s : String) : Option Kind :=
  [Kind.frontend, .backend].find? fun k => s == k.noun ++ "s"

/-- The route of a path. The name of an entity is not empty at the end of a
path, but may be empty in the middle. -/
def ofPath? (path : String) : Option Route :=
  match (path.toList.splitOn '/').map String.ofList with
  | ["", "status"] => some .status
  | ["", "metrics"] => some .metrics
  | ["", "restart"] => some .restart
  | ["", "haproxy", "config"] => some .config
  | ["", "haproxy", "reload"] => some .reload
  | ["", c] => (collectionKind? c).map .collection
  | ["", c, name] => if name.isEmpty then none else (collectionKind? c).map (.entity · name)
  | ["", c, name, "members"] =>
    if collectionKind? c = some .backend then some (.members name) else none
  | _ => none

/-- The methods of a route, in the order in which they are offered. -/
def methods : Route → List Method
  | .collection _ => [.get, .head, .put]
  | .entity .. => [.get, .head, .put, .post, .delete]
  | _ => [.get, .head]

end Route

/-! ## Names in paths -/

def hexOctet? (b : UInt8) : Option UInt8 :=
  if 0x30 ≤ b && b ≤ 0x39 then some (b - 0x30)
  else if 0x41 ≤ b && b ≤ 0x46 then some (b - 0x37)
  else if 0x61 ≤ b && b ≤ 0x66 then some (b - 0x57)
  else none

/-- Replaces a percent sign and two hexadecimal digits by the byte they
spell; any other percent sign stays. -/
def percentDecode : List UInt8 → List UInt8
  | 0x25 :: a :: b :: rest =>
    match hexOctet? a, hexOctet? b with
    | some x, some y => (16 * x + y) :: percentDecode rest
    | _, _ => 0x25 :: percentDecode (a :: b :: rest)
  | c :: rest => c :: percentDecode rest
  | [] => []

/-- The name that a part of a path spells, if that is a text. -/
def decodeName? (s : String) : Option String :=
  Text.ofUtf8? (percentDecode (Text.utf8Bytes s))

end ProxySync.Http
