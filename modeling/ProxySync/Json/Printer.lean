import ProxySync.Json.Basic

/-!
# JSON texts of values

The compact text of a value: no spaces, fields as they are listed, and in
strings only the quote, the backslash and the control characters escaped.
-/

namespace ProxySync.Json

def lowerHex (n : Nat) : Char := (Nat.toDigits 16 n).headD '0'

def escapeChar (c : Char) : List Char :=
  match c with
  | '"' => ['\\', '"']
  | '\\' => ['\\', '\\']
  | '\x08' => ['\\', 'b']
  | '\x0c' => ['\\', 'f']
  | '\n' => ['\\', 'n']
  | '\r' => ['\\', 'r']
  | '\t' => ['\\', 't']
  | c =>
    if c < ' ' then ['\\', 'u', '0', '0', lowerHex (c.toNat / 16), lowerHex (c.toNat % 16)]
    else [c]

def printString (s : String) : List Char := '"' :: s.toList.flatMap escapeChar ++ ['"']

mutual

def print : Json → List Char
  | .null => "null".toList
  | .bool true => "true".toList
  | .bool false => "false".toList
  | .number n => n.text.toList
  | .string s => printString s
  | .array items => '[' :: printItems items
  | .object fields => '\x7b' :: printFields fields

/-- The items of an array and its closing bracket. -/
def printItems : List Json → List Char
  | [] => [']']
  | [v] => v.print ++ [']']
  | v :: items => v.print ++ ',' :: printItems items

/-- The fields of an object and its closing brace. -/
def printFields : List (String × Json) → List Char
  | [] => ['\x7d']
  | [f] => printString f.1 ++ ':' :: f.2.print ++ ['\x7d']
  | f :: fields => printString f.1 ++ ':' :: f.2.print ++ ',' :: printFields fields

end

def text (v : Json) : String := String.ofList v.print

end ProxySync.Json
