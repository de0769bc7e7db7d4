import ProxySync.Decimal.Shortest

/-!
# Numbers of a JSON text

A spelled number is a sign, digits before and after the point and a power
of ten. Without point and exponent, and inside the 64-bit ranges, it is an
integer; anything else is a binary floating point number, built from the
leading digits that fit 64 bits and one scaling step. A number beyond the
largest finite one has no value.
-/

namespace ProxySync.Json

open ProxySync.Decimal

inductive Number where
  | natural (n : Nat)
  /-- The integer `-n`. -/
  | negative (n : Nat)
  | binary (x : Binary)
deriving DecidableEq, Repr

def Number.text : Number → String
  | .natural n => toString n
  | .negative n => "-" ++ toString n
  | .binary x => x.text

/-- A number as it is written; digits are most significant first. -/
structure Spelling where
  minus : Bool
  whole : List Nat
  fraction : List Nat
  hasFraction : Bool
  exponent : Option Int
deriving Repr

/-! ## Leading digits -/

/-- Reads digits onto `acc` while the result fits 64 bits; also the rest. -/
def readSignificand : (acc : Nat) → List Nat → Nat × List Nat
  | acc, [] => (acc, [])
  | acc, d :: rest =>
    if 10 * acc + d < UInt64.size then readSignificand (10 * acc + d) rest else (acc, d :: rest)

def powerOfTen? (k : Nat) : Option Magnitude := Magnitude.ofNat? (Nat.pow 10 k)

/-- The places that one scaling step covers at most: `10 ^ 308` is the largest
power of ten in the format. -/
def stepPlaces : Nat := 308

/-- Divides by `10 ^ stepPlaces` as often as told, or until nothing is left. -/
def stepsDown : (steps : Nat) → Magnitude → Option Magnitude
  | 0, x => some x
  | n + 1, x =>
    if x.mantissa = 0 then some x
    else do stepsDown n (← x.div? (← powerOfTen? stepPlaces))

/-- Divides by `10 ^ k`, in steps rounded one by one. -/
def scaleDown (x : Magnitude) (k : Nat) : Option Magnitude := do
  let steps := (k - 1) / stepPlaces
  (← stepsDown steps x).div? (← powerOfTen? (k - steps * stepPlaces))

/-- The number `significand * 10 ^ exponent`, none where it is too large. -/
def scale (significand : Nat) (exponent : Int) : Option Magnitude := do
  let x ← Magnitude.ofNat? significand
  if exponent < 0 then scaleDown x exponent.natAbs
  else if exponent.natAbs ≤ stepPlaces then x.mul? (← powerOfTen? exponent.natAbs)
  else if significand = 0 then some x
  else none

/-- The value of a spelled number, none where it is out of range. -/
def Spelling.value? (s : Spelling) : Option Number :=
  let (significand, dropped) := readSignificand 0 s.whole
  if dropped.isEmpty ∧ ¬ s.hasFraction ∧ s.exponent.isNone then
    if ¬ s.minus then some (.natural significand)
    else if 0 < significand ∧ 2 * significand ≤ UInt64.size then some (.negative significand)
    else (Magnitude.ofNat? significand).map fun x => .binary ⟨true, x⟩
  else
    let (significand, cut) := readSignificand significand s.fraction
    let places : Int := dropped.length - (s.fraction.length - cut.length : Nat)
    (scale significand (places + s.exponent.getD 0)).map fun x => .binary ⟨s.minus, x⟩

end ProxySync.Json
