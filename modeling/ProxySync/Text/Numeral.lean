/-!
# Decimal numerals with a bound

Ports and other counts are written as an optional plus sign and decimal
digits, leading zeros allowed. Reading stops at the first character that
shows a fault, so a numeral that is both too large and misspelt is judged
by what comes first.
-/

namespace ProxySync.Text

/-- Why a text is no numeral within its bound. -/
inductive NumeralFault where
  | empty
  | invalidDigit
  | tooLarge
deriving DecidableEq, Repr

def NumeralFault.message : NumeralFault → String
  | .empty => "cannot parse integer from empty string"
  | .invalidDigit => "invalid digit found in string"
  | .tooLarge => "number too large to fit in target type"

def digitValue? (c : Char) : Option Nat :=
  if '0' ≤ c ∧ c ≤ '9' then some (c.toNat - '0'.toNat) else none

/-- Digits read onto the value `acc`, up to `bound`. -/
def readDigits (bound : Nat) : (acc : Nat) → List Char → Except NumeralFault Nat
  | acc, [] => .ok acc
  | acc, c :: rest =>
    match digitValue? c with
    | none => .error .invalidDigit
    | some d =>
      if 10 * acc + d ≤ bound then readDigits bound (10 * acc + d) rest
      else .error .tooLarge

/-- A numeral of value at most `bound`. -/
def readNumeral (bound : Nat) : List Char → Except NumeralFault Nat
  | [] => .error .empty
  | ['+'] => .error .invalidDigit
  | '+' :: digits => readDigits bound 0 digits
  | digits => readDigits bound 0 digits

/-- The decimal digits of a number, without leading zeros. -/
def digits (n : Nat) : List Char := Nat.toDigits 10 n

end ProxySync.Text
