import ProxySync.Json.Number
import ProxySync.Dict

/-!
# JSON values, and values as far as a text holds them

`Json` is a complete value. `Draft` is what reading a text yields: a value
with the faults left in place, each where the text stops being JSON. A
decoder walks a draft in reading order, so the first problem it meets is
the first one in the text, whether the text is malformed there or holds
the wrong kind of value.
-/

namespace ProxySync

inductive Json where
  | null
  | bool (b : Bool)
  | number (n : Json.Number)
  | string (s : String)
  | array (items : List Json)
  | object (fields : List (String × Json))
deriving Repr

namespace Json

/-- A value as far as a text holds it. A string or a number without value is
spelled correctly but cannot be represented; only passing over it is
possible. A bracket that is not `closed` ends in a fault. -/
inductive Draft where
  | broken
  | null
  | bool (b : Bool)
  | number (n : Option Number)
  | string (s : Option String)
  | array (items : List Draft) (closed : Bool)
  | object (fields : List (Option String × Draft)) (closed : Bool)

namespace Draft

/-- The text of the value is complete, so a reader can pass over it. -/
def isWhole : Draft → Bool
  | .broken => false
  | .array _ closed => closed
  | .object _ closed => closed
  | _ => true

end Draft

/-! ## Values as drafts without faults -/

mutual

def draft : Json → Draft
  | .null => .null
  | .bool b => .bool b
  | .number n => .number (some n)
  | .string s => .string (some s)
  | .array items => .array (draftItems items) true
  | .object fields => .object (draftFields fields) true

def draftItems : List Json → List Draft
  | [] => []
  | v :: items => v.draft :: draftItems items

def draftFields : List (String × Json) → List (Option String × Draft)
  | [] => []
  | f :: fields => (some f.1, f.2.draft) :: draftFields fields

end

/-! ## Drafts as values -/

/-- Bracket levels that a value may have. -/
def depthLimit : Nat := 127

/-- Fields in key order, the last of two equal keys standing. -/
def inOrder (fields : List (String × Json)) : List (String × Json) :=
  fields.foldl (fun acc f => insertEntry f.1 f.2 acc) []

/-- The value of a draft without faults, at most `depth` brackets deep. The
fields of its objects are in order. -/
def ofDraft? : (depth : Nat) → Draft → Option Json
  | _, .broken => none
  | _, .null => some .null
  | _, .bool b => some (.bool b)
  | _, .number n => n.map .number
  | _, .string s => s.map .string
  | 0, .array _ _ => none
  | 0, .object _ _ => none
  | depth + 1, .array items closed =>
    if closed then (items.mapM (ofDraft? depth)).map .array else none
  | depth + 1, .object fields closed =>
    if closed then
      (fields.mapM fun (f : Option String × Draft) =>
        f.1.bind fun key => (ofDraft? depth f.2).map (key, ·)).map
        fun entries => .object (inOrder entries)
    else none

end Json

end ProxySync
