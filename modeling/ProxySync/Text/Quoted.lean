import ProxySync.Text.Extending

/-!
# Texts quoted in messages

A text shown inside a message stands between double quotes, with every
character that would not be seen, or would attach itself to its neighbour,
written by its code.
-/

namespace ProxySync.Text

/-- The lower case hexadecimal digits of a number. -/
def hexDigits (n : Nat) : List Char := Nat.toDigits 16 n

def quoteChar (c : Char) : List Char :=
  match c with
  | '\x00' => ['\\', '0']
  | '\t' => ['\\', 't']
  | '\r' => ['\\', 'r']
  | '\n' => ['\\', 'n']
  | '\\' => ['\\', '\\']
  | '"' => ['\\', '"']
  | c =>
    if ' ' ≤ c ∧ c ≤ '~' then [c]
    else if isExtending c || !isPrintable c then
      ['\\', 'u', '\x7b'] ++ hexDigits c.toNat ++ ['\x7d']
    else [c]

def quoted (s : String) : String :=
  String.ofList (['"'] ++ s.toList.flatMap quoteChar ++ ['"'])

end ProxySync.Text
