import ProxySync.Json.Reader
import ProxySync.Text.Quoted

/-!
# Why a text does not decode

Either the text is malformed where the decoder got to, or it holds a value
of the wrong kind there. A mismatch carries the path from the decoded value
down to the place.
-/

namespace ProxySync.Json

/-- What stands where something else was wanted. -/
inductive Found where
  | null
  | bool (b : Bool)
  | number (n : Number)
  | string (s : String)
  | sequence
  | map
deriving DecidableEq, Repr

def Found.message : Found → String
  | .null => "null"
  | .bool b => "boolean \x60" ++ toString b ++ "\x60"
  | .number (.binary x) => "floating point \x60" ++ x.text ++ "\x60"
  | .number n => "integer \x60" ++ n.text ++ "\x60"
  | .string s => "string " ++ Text.quoted s
  | .sequence => "sequence"
  | .map => "map"

/-- What a decoder wants. -/
inductive Shape where
  | string
  | port
  | sequence
  | map
  | instant
  | unit
  | variant
  | record (name : String)
deriving DecidableEq, Repr

def Shape.message : Shape → String
  | .string => "a string"
  | .port => "u16"
  | .sequence => "a sequence"
  | .map => "a map"
  | .instant => "an RFC 3339 formatted date and time string"
  | .unit => "unit"
  | .variant => "variant identifier"
  | .record name => "struct " ++ name

inductive Mismatch where
  | wrongType (found : Found) (wanted : Shape)
  | outOfRange (found : Number) (wanted : Shape)
  | duplicateField (name : String)
  /-- An array of more items than the record has fields. -/
  | tooManyItems (count : Nat)
  | unknownVariant (name : String) (known : List String)
  /-- A string that does not read as what it should spell. -/
  | unreadable (reason : String)
deriving DecidableEq, Repr

def Mismatch.message : Mismatch → String
  | .wrongType found wanted =>
    "invalid type: " ++ found.message ++ ", expected " ++ wanted.message
  | .outOfRange n wanted =>
    "invalid value: " ++ (Found.number n).message ++ ", expected " ++ wanted.message
  | .duplicateField name => "duplicate field \x60" ++ name ++ "\x60"
  | .tooManyItems count =>
    "invalid length " ++ toString count ++ ", expected fewer elements in array"
  | .unknownVariant name known =>
    "unknown variant \x60" ++ name ++ "\x60, expected " ++
      " or ".intercalate (known.map fun k => "\x60" ++ k ++ "\x60")
  | .unreadable reason => reason

/-- One step down into a value. -/
inductive Step where
  | field (name : String)
  | item (index : Nat)
deriving DecidableEq, Repr

/-- Fields after dots, items in brackets; no dot in front. -/
def pathText : List Step → String
  | [] => ""
  | .field name :: rest => name ++ go rest
  | .item i :: rest => "[" ++ toString i ++ "]" ++ go rest
where
  go : List Step → String
    | [] => ""
    | .field name :: rest => "." ++ name ++ go rest
    | .item i :: rest => "[" ++ toString i ++ "]" ++ go rest

inductive Fault where
  | malformed
  | mismatch (path : List Step) (cause : Mismatch)
deriving DecidableEq, Repr

/-- The fault as seen from one level further out. -/
def Fault.under (step : Step) : Fault → Fault
  | .malformed => .malformed
  | .mismatch path cause => .mismatch (step :: path) cause

end ProxySync.Json
