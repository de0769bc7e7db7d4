import ProxySync.Json.Fault

/-!
# Decoders

A decoder takes a draft to a domain value or to the first fault in reading
order. A record decodes from an object, in which unknown fields are passed
over and missing ones keep their defaults, or from an array of its fields
in declared order.
-/

namespace ProxySync.Json

/-- Where a draft comes from: an array longer than its record is malformed
as text, and a mismatch once it is a value. -/
inductive Origin where
  | text
  | value
deriving DecidableEq, Repr

def within {α : Type} (step : Step) (r : Except Fault α) : Except Fault α :=
  r.mapError (·.under step)

/-- What a draft shows at first sight, none where it is malformed. -/
def Draft.found? : Draft → Option Found
  | .broken => none
  | .null => some .null
  | .bool b => some (.bool b)
  | .number n => n.map .number
  | .string s => s.map .string
  | .array _ _ => some .sequence
  | .object _ _ => some .map

/-- The fault of a draft that is not of the wanted shape. -/
def Draft.reject (d : Draft) (wanted : Shape) : Fault :=
  match d.found? with
  | some found => .mismatch [] (.wrongType found wanted)
  | none => .malformed

/-! ## Scalars and collections -/

def decodeString : Draft → Except Fault String
  | .string (some s) => .ok s
  | d => .error (d.reject .string)

/-- A 16-bit port number. -/
def decodePort : Draft → Except Fault UInt16
  | .number (some (.natural n)) =>
    if n < UInt16.size then .ok n.toUInt16
    else .error (.mismatch [] (.outOfRange (.natural n) .port))
  | .number (some (.negative n)) => .error (.mismatch [] (.outOfRange (.negative n) .port))
  | d => .error (d.reject .port)

def mustClose {α : Type} (closed : Bool) (a : α) : Except Fault α :=
  if closed then .ok a else .error .malformed

def decodeItems {α : Type} (item : Draft → Except Fault α) :
    (index : Nat) → List Draft → Except Fault (List α)
  | _, [] => .ok []
  | i, d :: rest => do
    let a ← within (.item i) (item d)
    let rest ← decodeItems item (i + 1) rest
    pure (a :: rest)

def decodeList {α : Type} (item : Draft → Except Fault α) : Draft → Except Fault (List α)
  | .array items closed => do mustClose closed (← decodeItems item 0 items)
  | d => .error (d.reject .sequence)

/-- Adds the entries to `acc`, the last of two equal keys standing. -/
def decodeEntries {α : Type} (value : Draft → Except Fault α) (acc : Dict α) :
    List (Option String × Draft) → Except Fault (Dict α)
  | [] => .ok acc
  | (none, _) :: _ => .error .malformed
  | (some key, d) :: rest => do
    let a ← within (.field key) (value d)
    decodeEntries value (acc.insert key a) rest

def decodeDict {α : Type} (value : Draft → Except Fault α) : Draft → Except Fault (Dict α)
  | .object fields closed => do mustClose closed (← decodeEntries value ∅ fields)
  | d => .error (d.reject .map)

/-! ## Records -/

/-- A named field of a record and how its value enters the record. -/
structure Field (ρ : Type) where
  name : String
  put : Draft → ρ → Except Fault ρ

/-- The fields of an object, in text order; `seen` holds the known fields met
so far. -/
def decodeFields {ρ : Type} (known : List (Field ρ)) (seen : List String) :
    List (Option String × Draft) → ρ → Except Fault ρ
  | [], r => .ok r
  | (none, _) :: _, _ => .error .malformed
  | (some key, d) :: rest, r =>
    match known.find? (·.name == key) with
    | none => if d.isWhole then decodeFields known seen rest r else .error .malformed
    | some field =>
      if seen.contains key then .error (.mismatch [] (.duplicateField key))
      else do
        let r ← within (.field key) (field.put d r)
        decodeFields known (key :: seen) rest r

/-- The items of an array for the fields in declared order; also the items
left over. -/
def decodePositions {ρ : Type} : List (Field ρ) → (index : Nat) → List Draft → ρ →
    Except Fault (ρ × List Draft)
  | field :: fields, i, d :: rest, r => do
    let r ← within (.item i) (field.put d r)
    decodePositions fields (i + 1) rest r
  | _, _, rest, r => .ok (r, rest)

/-- A record whose missing fields are those of `default`. -/
def decodeRecord {ρ : Type} (origin : Origin) (name : String) (known : List (Field ρ))
    (default : ρ) : Draft → Except Fault ρ
  | .object fields closed => do mustClose closed (← decodeFields known [] fields default)
  | .array items closed => do
    let (r, left) ← decodePositions known 0 items default
    if left.isEmpty then mustClose closed r
    else match origin with
      | .text => .error .malformed
      | .value => .error (.mismatch [] (.tooManyItems items.length))
  | d => .error (d.reject (.record name))

/-! ## Whole texts -/

/-- Decodes a text that holds one value and nothing else. What follows the
value is looked at last. -/
def decodeText {α : Type} (decode : Draft → Except Fault α) (text : WireText) :
    Except Fault α := do
  let r := read text
  let a ← decode r.value
  if r.atEnd then pure a else .error .malformed

end ProxySync.Json
