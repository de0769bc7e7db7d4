import ProxySync.Entity.Basic

/-!
# Encoded entities

Entities are encoded as objects with all their fields in declared order,
and decode from objects or arrays with missing fields at their defaults.
-/

namespace ProxySync

open Json

/-! ## Encoding -/

def encodeMetadata (d : Dict String) : Json := .object (d.entries.map fun e => (e.1, .string e.2))

def Listener.encode (l : Listener) : Json :=
  .object [
    ("name", .string l.name),
    ("bind", .string l.bind),
    ("defaultBackend", .string l.defaultBackend),
    ("mode", .string l.mode),
    ("keepalive", .string l.keepAlive),
    ("option", .string l.option),
    ("rules", .array (l.rules.map .string)),
    ("meta", encodeMetadata l.metadata)]

def encodeInstant : Option Calendar.Instant → Json
  | none => .null
  | some t => .string t.text

def Member.encode (m : Member) : Json :=
  .object [
    ("name", .string m.name),
    ("version", .string m.version),
    ("host", .string m.host),
    ("port", .number (.natural m.port.toNat)),
    ("lastKnown", encodeInstant m.lastKnown),
    ("meta", encodeMetadata m.metadata)]

def Pool.encode (p : Pool) : Json :=
  .object [
    ("name", .string p.name),
    ("version", .string p.version),
    ("balance", .string p.balance),
    ("host", .string p.host),
    ("mode", .string p.mode),
    ("members", .array (p.members.map Member.encode)),
    ("meta", encodeMetadata p.metadata)]

/-! ## Decoding -/

def decodeMetadata : Draft → Except Fault (Dict String) := decodeDict decodeString

def decodeInstant : Draft → Except Fault (Option Calendar.Instant)
  | .null => .ok none
  | .string (some s) =>
    match Calendar.Instant.read s.toList with
    | .ok t => .ok (some t)
    | .error e => .error (.mismatch [] (.unreadable e.message))
  | d => .error (d.reject .instant)

/-- A field that `decode` reads and `set` puts in place. -/
def fieldOf {α ρ : Type} (name : String) (decode : Draft → Except Fault α)
    (set : ρ → α → ρ) : Json.Field ρ :=
  ⟨name, fun d r => do pure (set r (← decode d))⟩

def Listener.fields : List (Json.Field Listener) := [
  fieldOf "name" decodeString fun l s => { l with name := s },
  fieldOf "bind" decodeString fun l s => { l with bind := s },
  fieldOf "defaultBackend" decodeString fun l s => { l with defaultBackend := s },
  fieldOf "mode" decodeString fun l s => { l with mode := s },
  fieldOf "keepalive" decodeString fun l s => { l with keepAlive := s },
  fieldOf "option" decodeString fun l s => { l with option := s },
  fieldOf "rules" (decodeList decodeString) fun l rules => { l with rules := rules },
  fieldOf "meta" decodeMetadata fun l d => { l with metadata := d }]

def Member.fields : List (Json.Field Member) := [
  fieldOf "name" decodeString fun m s => { m with name := s },
  fieldOf "version" decodeString fun m s => { m with version := s },
  fieldOf "host" decodeString fun m s => { m with host := s },
  fieldOf "port" decodePort fun m n => { m with port := n },
  fieldOf "lastKnown" decodeInstant fun m t => { m with lastKnown := t },
  fieldOf "meta" decodeMetadata fun m d => { m with metadata := d }]

def Member.decode (origin : Origin) : Draft → Except Fault Member :=
  decodeRecord origin "Member" Member.fields {}

def Pool.fields (origin : Origin) : List (Json.Field Pool) := [
  fieldOf "name" decodeString fun p s => { p with name := s },
  fieldOf "version" decodeString fun p s => { p with version := s },
  fieldOf "balance" decodeString fun p s => { p with balance := s },
  fieldOf "host" decodeString fun p s => { p with host := s },
  fieldOf "mode" decodeString fun p s => { p with mode := s },
  fieldOf "members" (decodeList (Member.decode origin)) fun p ms => { p with members := ms },
  fieldOf "meta" decodeMetadata fun p d => { p with metadata := d }]

def Listener.decode (origin : Origin) : Draft → Except Fault Listener :=
  decodeRecord origin "Listener" Listener.fields {}

def Pool.decode (origin : Origin) : Draft → Except Fault Pool :=
  decodeRecord origin "BackendPool" (Pool.fields origin) {}

/-! ## Records -/

instance : Record Listener where
  kind := .frontend
  name := Listener.name
  rename name l := { l with name := name }
  lineFields := Listener.lineFields
  encode := Listener.encode
  decode := Listener.decode

instance : Record Pool where
  kind := .backend
  name := Pool.name
  rename name p := { p with name := name }
  lineFields := Pool.lineFields
  encode := Pool.encode
  decode := Pool.decode

/-! ## Kinds -/

/-- What a token shows where a value is wanted. -/
def foundToken? : Token → Option Found
  | .null => some .null
  | .bool b => some (.bool b)
  | .number n => n.map .number
  | .string s => s.map .string
  | .openArray => some .sequence
  | .openObject => some .map
  | _ => none

def rejectToken (t : Token) (wanted : Shape) : Fault :=
  match foundToken? t with
  | some found => .mismatch [] (.wrongType found wanted)
  | none => .malformed

def Kind.ofTag (tag : String) : Except Fault Kind :=
  match [Kind.frontend, .backend].find? (·.tag == tag) with
  | some k => .ok k
  | none =>
    .error (.mismatch [] (.unknownVariant tag ([Kind.frontend, .backend].map Kind.tag)))

def Kind.ofTokens : List Token → Except Fault Kind
  | .string (some tag) :: rest => do
    let k ← Kind.ofTag tag
    if rest.isEmpty then pure k else .error .malformed
  | .openObject :: .string (some tag) :: rest => do
    let k ← Kind.ofTag tag
    match rest with
    | [.colon, .null, .closeObject] => pure k
    | .colon :: .null :: _ => .error .malformed
    | .colon :: t :: _ => .error (rejectToken t .unit)
    | _ => .error .malformed
  | _ => .error .malformed

/-- Reads a kind off its tag, or off an object with the tag as only key. -/
def Kind.ofText (s : String) : Except Fault Kind := Kind.ofTokens (tokens (.ofString s))

def Kind.encode (k : Kind) : Json := .string k.tag

end ProxySync
