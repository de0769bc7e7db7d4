import ProxySync.Calendar.Date
import ProxySync.Text.Blank
import ProxySync.Text.Numeral

/-!
# Points in time

An instant is a day and a time of day in UTC, down to the nanosecond; the
second 60 is a leap second. It is written in the extended ISO form with a
final Z, the fraction in as many groups of three digits as it needs, and
years that have not four digits with a sign.
-/

namespace ProxySync.Calendar

open ProxySync.Text

def nanosPerSecond : Nat := 1000000000

structure Instant where
  date : Date
  /-- Minutes since midnight. -/
  minute : Nat
  second : Nat
  nano : Nat
  minute_lt : minute < 1440
  second_le : second ≤ 60
  nano_lt : nano < nanosPerSecond
deriving DecidableEq

/-! ## Writing -/

/-- The decimal digits, with zeros in front up to the width. -/
def padded (width n : Nat) : List Char :=
  List.replicate (width - (digits n).length) '0' ++ digits n

def yearText (year : Int) : List Char :=
  if 0 ≤ year ∧ year ≤ 9999 then padded 4 year.natAbs
  else (if year < 0 then '-' else '+') :: padded 4 year.natAbs

def fractionText (nano : Nat) : List Char :=
  if nano = 0 then []
  else if nano % 1000000 = 0 then '.' :: padded 3 (nano / 1000000)
  else if nano % 1000 = 0 then '.' :: padded 6 (nano / 1000)
  else '.' :: padded 9 nano

def Instant.print (t : Instant) : List Char :=
  yearText t.date.year ++ '-' :: padded 2 t.date.month ++ '-' :: padded 2 t.date.day ++
    'T' :: padded 2 (t.minute / 60) ++ ':' :: padded 2 (t.minute % 60) ++
    ':' :: padded 2 t.second ++ fractionText t.nano ++ ['Z']

def Instant.text (t : Instant) : String := String.ofList t.print

/-! ## Reading -/

inductive InstantFault where
  | invalidCharacter
  | tooShort
  | tooLong
  | outOfRange
  /-- A day at the edge of the calendar whose UTC day lies beyond it. -/
  | impossible
deriving DecidableEq, Repr

def InstantFault.message : InstantFault → String
  | .invalidCharacter => "input contains invalid characters"
  | .tooShort => "premature end of input"
  | .tooLong => "trailing input"
  | .outOfRange => "input is out of range"
  | .impossible => "no possible date and time matching input"

/-- Reads a part off the front of a text. -/
abbrev PartReader (α : Type) := StateT (List Char) (Except InstantFault) α

def isDigit (c : Char) : Bool := (digitValue? c).isSome

def valueOf (s : List Char) : Nat := (s.filterMap digitValue?).foldl (10 * · + ·) 0

def skipBlanks : PartReader Unit := modify trimStart

/-- At least one digit and at most `width`, the limit none for no limit. -/
def readCount (width : Option Nat) : PartReader Nat := do
  let s ← get
  if s.isEmpty then throw .tooShort
  let all := s.takeWhile isDigit
  let taken := match width with
    | some w => all.take w
    | none => all
  if taken.isEmpty then throw .invalidCharacter
  set (s.drop taken.length)
  pure (valueOf taken)

/-- A number of at most two digits in a range, blanks before it skipped. -/
def readRanged (low high : Nat) : PartReader Nat := do
  skipBlanks
  let n ← readCount (some 2)
  if low ≤ n ∧ n ≤ high then pure n else throw .outOfRange

/-- Four digits at most, or a sign and any number of digits. -/
def readYear : PartReader Int := do
  skipBlanks
  let year : Int ← match ← get with
    | '-' :: rest => do set rest; pure (-(← readCount none : Int))
    | '+' :: rest => do set rest; pure (← readCount none : Int)
    | _ => do pure (← readCount (some 4) : Int)
  if -2147483648 ≤ year ∧ year ≤ 2147483647 then pure year else throw .outOfRange

/-- One of the characters that `accepts` holds of. -/
def readMark (accepts : Char → Bool) : PartReader Unit := do
  match ← get with
  | [] => throw .tooShort
  | c :: rest => if accepts c then set rest else throw .invalidCharacter

/-- A fraction as nanoseconds; digits after the ninth are dropped. -/
def readNano : PartReader Nat := do
  match ← get with
  | '.' :: s =>
    set s
    let n ← readCount (some 9)
    let places := s.length - (← get).length
    modify (·.dropWhile isDigit)
    pure (n * Nat.pow 10 (9 - places))
  | _ => pure 0

/-- The next two digits; a lone ASCII character is too short, any other
lone character is not a digit. -/
def readPair : PartReader Nat := do
  match ← get with
  | a :: b :: rest =>
    match digitValue? a, digitValue? b with
    | some m, some n => do set rest; pure (10 * m + n)
    | _, _ => throw .invalidCharacter
  | [c] => throw (if c.toNat < 128 then .tooShort else .invalidCharacter)
  | [] => throw .tooShort

/-- A sign and hours and minutes, with colons and blanks between them. -/
def readDistance : PartReader Int := do
  let negative ← match ← get with
    | '+' :: rest => do set rest; pure false
    | '-' :: rest | '\u2212' :: rest => do set rest; pure true
    | [] => throw .tooShort
    | _ => throw .invalidCharacter
  let hours ← readPair
  modify (·.dropWhile fun c => c == ':' || isBlank c)
  let minutes ← readPair
  if 60 ≤ minutes then throw .outOfRange
  let distance : Int := 60 * hours + minutes
  pure (if negative then -distance else distance)

/-- The distance from UTC in minutes. -/
def readOffset : PartReader Int := do
  match ← get with
  | 'Z' :: rest | 'z' :: rest => do set rest; pure 0
  | s =>
    if (s.take 3).map Char.toUpper = ['U', 'T', 'C'] then do set (s.drop 3); pure 0
    else readDistance

/-- The instant of a local day and minute, `offset` minutes ahead of UTC. -/
def Instant.ofLocal? (date : Date) (minute second nano : Nat) (offset : Int) :
    Except InstantFault Instant := do
  let utc : Int := minute - offset
  let sameDay? := if utc < 0 then date.previous? else if 1440 ≤ utc then date.next? else some date
  let day ← match sameDay? with
    | some day => pure day
    | none => .error .impossible
  if h : (utc % 1440).toNat < 1440 ∧ second ≤ 60 ∧ nano < nanosPerSecond then
    pure ⟨day, (utc % 1440).toNat, second, nano, h.1, h.2.1, h.2.2⟩
  else .error .outOfRange

def readInstant : PartReader Instant := do
  let year ← readYear
  skipBlanks
  readMark (· == '-')
  let month ← readRanged 1 12
  skipBlanks
  readMark (· == '-')
  let day ← readRanged 1 31
  readMark fun c => c == 'T' || c == 't' || c == ' '
  let hour ← readRanged 0 23
  skipBlanks
  readMark (· == ':')
  let minute ← readRanged 0 59
  skipBlanks
  readMark (· == ':')
  let second ← readRanged 0 60
  let nano ← readNano
  skipBlanks
  let offset ← readOffset
  skipBlanks
  if !(← get).isEmpty then throw .tooLong
  match Date.of? year month day with
  | none => throw .outOfRange
  | some date =>
    if 1440 ≤ offset.natAbs then throw .outOfRange
    Instant.ofLocal? date (60 * hour + minute) second nano offset

/-- Reads a date, a time and a distance from UTC, with blanks between the
parts allowed. -/
def Instant.read (s : List Char) : Except InstantFault Instant := readInstant.run' s

end ProxySync.Calendar
