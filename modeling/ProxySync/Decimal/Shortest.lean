import ProxySync.Decimal.Binary

/-!
# The shortest decimal text of a binary number

Among the decimals that round to a given number, those with the fewest
digits come first, and of those the nearest. The search walks the digit
counts from one upwards and tests the two neighbours of the value on each
decimal grid.
-/

namespace ProxySync.Decimal

/-- The value `digits * 10 ^ exponent`. -/
structure Scientific where
  digits : Nat
  exponent : Int
deriving DecidableEq, Repr

/-! ## The interval of a number -/

/-- The reals that round to a number, as natural multiples of `1 / scale`:
the value itself, the two ends, and whether the ends belong. -/
structure RoundingInterval where
  value : Nat
  low : Nat
  high : Nat
  scale : Nat
  closed : Bool

/-- The gap below a power of two is half as wide as the one above it. -/
def Magnitude.interval (x : Magnitude) : RoundingInterval :=
  let narrow := x.mantissa = leastNormal ∧ -1074 < x.exponent
  let value := 4 * x.mantissa
  let low := if narrow then value - 1 else value - 2
  let high := value + 2
  let closed := x.mantissa % 2 = 0
  let e := x.exponent - 2
  if e < 0 then ⟨value, low, high, Nat.pow 2 e.natAbs, closed⟩
  else
    let unit := Nat.pow 2 e.natAbs
    ⟨value * unit, low * unit, high * unit, 1, closed⟩

/-- Whether `s` lies in the interval. -/
def RoundingInterval.contains (i : RoundingInterval) (s : Scientific) : Bool :=
  let unit := Nat.pow 10 s.exponent.natAbs
  let (point, by_) := if s.exponent < 0 then (s.digits * i.scale, unit)
    else (s.digits * i.scale * unit, 1)
  if i.closed then decide (i.low * by_ ≤ point ∧ point ≤ i.high * by_)
  else decide (i.low * by_ < point ∧ point < i.high * by_)

/-! ## The search -/

/-- The largest `e` with `10 ^ e ≤ num / den`, both positive. -/
def log10Ratio (num den : Nat) : Int :=
  if den ≤ num then ((Nat.toDigits 10 (num / den)).length : Int) - 1
  else -((Nat.toDigits 10 ((den + num - 1) / num - 1)).length : Int)

/-- The grid point nearest to the value with `count` digits, when one of the
two neighbours lies in the interval. -/
def RoundingInterval.nearest? (i : RoundingInterval) (top : Int) (count : Nat) :
    Option Scientific :=
  let e : Int := top - count + 1
  let unit := Nat.pow 10 e.natAbs
  let (num, den) := if e < 0 then (i.value * unit, i.scale) else (i.value, i.scale * unit)
  let below : Scientific := ⟨num / den, e⟩
  let above : Scientific := ⟨num / den + 1, e⟩
  let r := num % den
  match i.contains below, i.contains above with
  | true, true =>
    if 2 * r < den ∨ (2 * r = den ∧ below.digits % 2 = 0) then some below else some above
  | true, false => some below
  | false, true => some above
  | false, false => none

/-- The fewest digits that read back, and of those the nearest. -/
def Magnitude.shortest (x : Magnitude) : Scientific :=
  if x.mantissa = 0 then ⟨0, 0⟩ else
  let i := x.interval
  let top := log10Ratio i.value i.scale
  (List.range' 1 17).findSome? (i.nearest? top) |>.getD ⟨i.value / i.scale, 0⟩

/-! ## Text -/

/-- Positional below `10 ^ 16` and above `10 ^ -6`, with a point and at least
one digit on each side of it; else scientific with a signed exponent. -/
def Scientific.text (s : Scientific) : String :=
  let trimmed := (Nat.toDigits 10 s.digits).reverse.dropWhile (· == '0') |>.reverse
  let all := Nat.toDigits 10 s.digits
  let digits := if trimmed.isEmpty then ['0'] else trimmed
  let e : Int := (all.length : Int) - 1 + s.exponent
  if s.digits = 0 then "0.0"
  else if 16 ≤ e ∨ e ≤ -6 then
    let fraction := if digits.length ≤ 1 then [] else '.' :: digits.drop 1
    String.ofList (digits.take 1 ++ fraction) ++ "e" ++ (if e < 0 then "-" else "+") ++
      toString e.natAbs
  else if e < 0 then
    "0." ++ String.ofList (List.replicate (e.natAbs - 1) '0' ++ digits)
  else
    let whole := digits.take (e.natAbs + 1)
    let fraction := digits.drop (e.natAbs + 1)
    String.ofList (whole ++ List.replicate (e.natAbs + 1 - whole.length) '0') ++ "." ++
      String.ofList (if fraction.isEmpty then ['0'] else fraction)

def Binary.text (x : Binary) : String :=
  (if x.negative then "-" else "") ++ x.magnitude.shortest.text

end ProxySync.Decimal
