/-!
# Binary floating point, exactly

A finite number of the 64-bit binary format as a sign, a mantissa and a
power of two, with rounding done in exact natural number arithmetic:
to nearest, a tie going to the even mantissa. Nothing here depends on the
machine's own floating point.
-/

namespace ProxySync.Decimal

/-- The value `mantissa * 2 ^ exponent`. Mantissas stay below `2 ^ 53`. -/
structure Magnitude where
  mantissa : Nat
  exponent : Int
deriving DecidableEq, Repr

namespace Magnitude

/-- The least mantissa of full length, `2 ^ 52`. -/
def leastNormal : Nat := 4503599627370496

def zero : Magnitude := ⟨0, -1074⟩

/-- The value as a ratio of two natural numbers. -/
def ratio (x : Magnitude) : Nat × Nat :=
  if x.exponent < 0 then (x.mantissa, Nat.pow 2 x.exponent.natAbs)
  else (x.mantissa * Nat.pow 2 x.exponent.natAbs, 1)

/-- The quotient rounded to a whole number, a tie to the even one. -/
def roundDiv (num den : Nat) : Nat :=
  let q := num / den
  let r := num % den
  if 2 * r < den then q
  else if den < 2 * r then q + 1
  else if q % 2 = 0 then q else q + 1

/-- The largest `e` with `2 ^ e ≤ num / den`, both positive. -/
def log2Ratio (num den : Nat) : Int :=
  let e : Int := (num.log2 : Int) - den.log2
  let power := Nat.pow 2 e.natAbs
  let reached := if e < 0 then decide (den ≤ num * power) else decide (den * power ≤ num)
  if reached then e else e - 1

/-- The number of the format nearest to `num / den`; none where it
overflows to infinity. -/
def ofRatio? (num den : Nat) : Option Magnitude :=
  if num = 0 then some zero else
  let q : Int := max (log2Ratio num den - 52) (-1074)
  let power := Nat.pow 2 q.natAbs
  let m := if q < 0 then roundDiv (num * power) den else roundDiv num (den * power)
  let x : Magnitude := if m = 2 * leastNormal then ⟨leastNormal, q + 1⟩ else ⟨m, q⟩
  if 971 < x.exponent then none else some x

def ofNat? (n : Nat) : Option Magnitude := ofRatio? n 1

def mul? (x y : Magnitude) : Option Magnitude :=
  let (a, b) := x.ratio
  let (c, d) := y.ratio
  ofRatio? (a * c) (b * d)

/-- The rounded quotient by a nonzero number. -/
def div? (x y : Magnitude) : Option Magnitude :=
  let (a, b) := x.ratio
  let (c, d) := y.ratio
  ofRatio? (a * d) (b * c)

end Magnitude

/-- A finite 64-bit binary number. -/
structure Binary where
  negative : Bool
  magnitude : Magnitude
deriving DecidableEq, Repr

end ProxySync.Decimal
