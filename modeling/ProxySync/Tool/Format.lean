import ProxySync.Decimal.Binary
import ProxySync.Shell.Arithmetic
import ProxySync.Tool.Escape

/-!
# Formats

The formats of `printf`: text with directives, each of which takes an argument
and lays it out. A format is used again for as long as there are arguments
left.
-/

namespace ProxySync.Tool

open Decimal

/-! ## Layout -/

/-- The flags, width and precision of a directive. -/
structure Layout where
  left : Bool := false
  zero : Bool := false
  plus : Bool := false
  space : Bool := false
  alternate : Bool := false
  width : Nat := 0
  precision : Option Nat := none

namespace Layout

/-- A text at its place in the width. -/
def pad (l : Layout) (s : String) : String :=
  let blanks := "".pushn ' ' (l.width - s.length)
  if l.left then s ++ blanks else blanks ++ s

/-- A number of a sign and digits, with zeros in front where they are asked
for. -/
def padNumber (l : Layout) (zeros : Bool) (sign digits : String) : String :=
  if l.zero && !l.left && zeros then
    sign ++ "".pushn '0' (l.width - sign.length - digits.length) ++ digits
  else l.pad (sign ++ digits)

def text (l : Layout) (s : String) : String :=
  l.pad (match l.precision with
    | some n => String.ofList (s.toList.take n)
    | none => s)

def sign (l : Layout) (negative : Bool) : String :=
  if negative then "-" else if l.plus then "+" else if l.space then " " else ""

/-- The digits of a whole number, at least as many as the precision asks
for. -/
def wholeDigits (l : Layout) (base n : Nat) (capital : Bool) : String :=
  let digits := Nat.toDigits base n
  let digits := if capital then digits.map Char.toUpper else digits
  match l.precision with
  | some p =>
    if p == 0 && n == 0 then ""
    else "".pushn '0' (p - digits.length) ++ String.ofList digits
  | none => String.ofList digits

def signed (l : Layout) (n : Int) : String :=
  l.padNumber l.precision.isNone (l.sign (n < 0)) (l.wholeDigits 10 n.natAbs false)

def unsigned (l : Layout) (base n : Nat) (capital : Bool) : String :=
  let digits := l.wholeDigits base n capital
  let front := if !l.alternate then ""
    else if base == 8 && !digits.startsWith "0" then "0"
    else if base == 16 && n != 0 then if capital then "0X" else "0x"
    else ""
  l.padNumber l.precision.isNone front digits

end Layout

/-! ## Numbers with a fraction -/

/-- A number that a text gives. -/
inductive Real where
  | finite (negative : Bool) (magnitude : Magnitude)
  | infinite (negative : Bool)
  | nan

/-- The number in front of a text and what follows it. -/
def readReal (s : List Char) : Option (Real × List Char) :=
  let s := s.dropWhile Shell.isBlankChar
  let (negative, s) := match s with
    | '-' :: rest => (true, rest)
    | '+' :: rest => (false, rest)
    | rest => (false, rest)
  let lower := s.map Char.toLower
  if "infinity".toList.isPrefixOf lower then some (.infinite negative, s.drop 8)
  else if "inf".toList.isPrefixOf lower then some (.infinite negative, s.drop 3)
  else if "nan".toList.isPrefixOf lower then some (.nan, s.drop 3)
  else
    let (base, mark, s) := match s with
      | '0' :: x :: c :: rest =>
        if (x == 'x' || x == 'X') && (Shell.digitValue? c).isSome then (16, 'p', c :: rest)
        else (10, 'e', s)
      | _ => (10, 'e', s)
    let isOne (c : Char) : Bool := (Shell.digitValue? c).any (· < base)
    let whole := s.takeWhile isOne
    let after := s.drop whole.length
    let fraction := match after with
      | '.' :: rest => rest.takeWhile isOne
      | _ => []
    let hasPoint := after.head? == some '.' && !(whole.isEmpty && fraction.isEmpty)
    let after := if hasPoint then after.drop (1 + fraction.length) else after
    let digits := whole ++ fraction
    if digits.isEmpty then none
    else
      let (exponent, after) : Int × List Char := match after with
        | c :: rest =>
          if c.toLower == mark then
            let (below, rest) := match rest with
              | '-' :: rest => (true, rest)
              | '+' :: rest => (false, rest)
              | rest => (false, rest)
            let count := rest.takeWhile Char.isDigit
            if count.isEmpty then (0, after)
            else
              let n : Int := min 5000 ((Shell.spanDigits 10 count).2.1)
              (if below then -n else n, rest.drop count.length)
          else (0, after)
        | [] => (0, after)
      let value := digits.foldl (fun n c => base * n + (Shell.digitValue? c).getD 0) 0
      let (unit, scale) : Nat × Int :=
        if base == 16 then (2, exponent - 4 * fraction.length)
        else (10, exponent - fraction.length)
      let power := Nat.pow unit scale.natAbs
      let magnitude? := if scale < 0 then Magnitude.ofRatio? value power
        else Magnitude.ofRatio? (value * power) 1
      match magnitude? with
      | some m => some (.finite negative m, after)
      | none => some (.infinite negative, after)

/-- A magnitude with some places behind the point. -/
def fixedText (m : Magnitude) (places : Nat) (point : Bool) : String :=
  let (num, den) := m.ratio
  let n := Magnitude.roundDiv (num * Nat.pow 10 places) den
  let digits := Nat.toDigits 10 n
  let digits := List.replicate (places + 1 - digits.length) '0' ++ digits
  let whole := digits.take (digits.length - places)
  String.ofList whole ++ (if places == 0 && !point then "" else ".") ++
    String.ofList (digits.drop whole.length)

/-- The largest `e` with `10 ^ e` at most the quotient of two positive
numbers. -/
def tenthPower (num den : Nat) : Int :=
  if den ≤ num then ((Nat.toDigits 10 (num / den)).length : Int) - 1
  else
    let digits := (Nat.toDigits 10 ((den + num - 1) / num)).length
    let below : Int := -((digits : Int) - 1)
    if num * Nat.pow 10 below.natAbs < den then below - 1 else below

/-- The digits of a magnitude and the power of ten of the first one. -/
def scientificDigits (m : Magnitude) (places : Nat) : List Char × Int :=
  let (num, den) := m.ratio
  if num == 0 then (List.replicate (places + 1) '0', 0)
  else
    let e := tenthPower num den
    let shift := (places : Int) - e
    let power := Nat.pow 10 shift.natAbs
    let n := if shift < 0 then Magnitude.roundDiv num (den * power)
      else Magnitude.roundDiv (num * power) den
    let digits := Nat.toDigits 10 n
    if digits.length ≤ places + 1 then (digits, e) else (digits.take (places + 1), e + 1)

def scientificText (digits : List Char) (e : Int) (point capital : Bool) : String :=
  let exponent := Nat.toDigits 10 e.natAbs
  let exponent := if exponent.length < 2 then '0' :: exponent else exponent
  String.ofList (digits.take 1) ++ (if digits.length ≤ 1 && !point then "" else ".") ++
    String.ofList (digits.drop 1) ++ (if capital then "E" else "e") ++
    (if e < 0 then "-" else "+") ++ String.ofList exponent

def withoutZeros (s : List Char) : List Char := (s.reverse.dropWhile (· == '0')).reverse

/-- The shorter of both forms, with `count` digits that count. -/
def generalText (m : Magnitude) (count : Nat) (alternate capital : Bool) : String :=
  let count := max count 1
  let (digits, e) := scientificDigits m (count - 1)
  if e < -4 || (count : Int) ≤ e then
    let digits := if alternate then digits else digits.take 1 ++ withoutZeros (digits.drop 1)
    scientificText digits e alternate capital
  else
    let text := fixedText m ((count : Int) - 1 - e).toNat alternate
    if alternate || !text.toList.contains '.' then text
    else
      let kept := withoutZeros text.toList
      String.ofList (if kept.getLast? == some '.' then kept.dropLast else kept)

/-- A magnitude in base 16. -/
def hexText (m : Magnitude) (precision : Option Nat) (point capital : Bool) : String :=
  let isNormal := Magnitude.leastNormal ≤ m.mantissa
  let lead := if isNormal then 1 else 0
  let fraction := if isNormal then m.mantissa - Magnitude.leastNormal else m.mantissa
  let e : Int := if m.mantissa == 0 then 0 else m.exponent + 52
  let (lead, digits) : Nat × List Char := match precision with
    | some p =>
      if p < 13 then
        let n := Magnitude.roundDiv (fraction + lead * Magnitude.leastNormal) (Nat.pow 16 (13 - p))
        let unit := Nat.pow 16 p
        let digits := Nat.toDigits 16 (n % unit)
        (n / unit,
          if p == 0 then [] else List.replicate (p - digits.length) '0' ++ digits)
      else
        let digits := Nat.toDigits 16 fraction
        (lead, List.replicate (13 - digits.length) '0' ++ digits ++ List.replicate (p - 13) '0')
    | none =>
      let digits := Nat.toDigits 16 fraction
      (lead, withoutZeros (List.replicate (13 - digits.length) '0' ++ digits))
  let text := toString lead ++ (if digits.isEmpty && !point then "" else ".") ++
    String.ofList digits ++ "p" ++ (if e < 0 then "-" else "+") ++ toString e.natAbs
  if capital then text.map Char.toUpper else text

/-- A number as the letter of a directive asks for it. -/
def Layout.real (l : Layout) (letter : Char) (x : Real) : String :=
  let capital := letter.isUpper
  match x with
  | .nan => { l with zero := false }.pad (if capital then "NAN" else "nan")
  | .infinite negative =>
    { l with zero := false }.pad (l.sign negative ++ if capital then "INF" else "inf")
  | .finite negative m =>
    let places := l.precision.getD 6
    let body := match letter.toLower with
      | 'f' => fixedText m places l.alternate
      | 'e' =>
        let (digits, e) := scientificDigits m places
        scientificText digits e l.alternate capital
      | 'g' => generalText m places l.alternate capital
      | _ => hexText m l.precision l.alternate capital
    let front := if letter.toLower == 'a' then if capital then "0X" else "0x" else ""
    l.padNumber true (l.sign negative ++ front) body

/-! ## Using formats -/

/-- A run of a format. -/
structure Formatting where
  arguments : List String
  /-- What is written so far, the last part first. -/
  done : List String := []
  /-- What is said of arguments that are no numbers. -/
  complaints : List String := []
  /-- Nothing more is written. -/
  ended : Bool := false
  fault : Option String := none

namespace Formatting

def write (f : Formatting) (s : String) : Formatting := { f with done := s :: f.done }

def next (f : Formatting) : String × Formatting :=
  (f.arguments.headD "", { f with arguments := f.arguments.tail })

def complain (f : Formatting) (s : String) : Formatting :=
  { f with complaints := f.complaints ++ [s] }

/-- What is said of a text of which only a part, or nothing, is a number. -/
def checkRest (f : Formatting) (word : String) (rest : List Char) (nothing : Bool) :
    Formatting :=
  if rest.isEmpty then f
  else if nothing then f.complain (word ++ ": expected numeric value")
  else f.complain (word ++ ": not completely converted")

/-- The next argument as a whole number. -/
def nextWhole (signed : Bool) (f : Formatting) : Int × Formatting :=
  let (word, f) := f.next
  match word.toList with
  | '"' :: rest | '\'' :: rest => ((rest.headD '\x00').toNat, f)
  | letters =>
    let s := letters.dropWhile Shell.isBlankChar
    let (negative, s) := match s with
      | '-' :: rest => (true, rest)
      | '+' :: rest => (false, rest)
      | rest => (false, rest)
    let (count, n, rest) : Nat × Nat × List Char := match s with
      | '0' :: x :: more =>
        if x == 'x' || x == 'X' then
          let r := Shell.spanDigits 16 more
          if r.1 == 0 then (1, 0, x :: more) else r
        else Shell.spanDigits 8 s
      | _ => Shell.spanDigits 10 s
    if count == 0 then (0, f.checkRest word letters true)
    else
      let f := f.checkRest word rest false
      let bound := if signed then if negative then Shell.largest + 1 else Shell.largest
        else UInt64.size - 1
      let tooLarge := f.complain (word ++ ": Numerical result out of range")
      if bound < n then
        let f := if rest.isEmpty then tooLarge else f
        (if signed && negative then -(bound : Int) else bound, f)
      else (if negative then -(n : Int) else n, f)

def nextReal (f : Formatting) : Real × Formatting :=
  let (word, f) := f.next
  match word.toList with
  | '"' :: rest | '\'' :: rest =>
    (.finite false ((Magnitude.ofNat? (rest.headD '\x00').toNat).getD .zero), f)
  | letters =>
    match readReal letters with
    | some (x, rest) => (x, f.checkRest word rest false)
    | none => (.finite false .zero, f.checkRest word letters true)

/-- The number that a star or digits give. -/
def readCount (f : Formatting) (s : List Char) : Option Int × List Char × Formatting :=
  match s with
  | '*' :: rest =>
    let (n, f) := f.nextWhole true
    (some n, rest, f)
  | _ =>
    let digits := s.takeWhile Char.isDigit
    if digits.isEmpty then (none, s, f)
    else (some ((Shell.spanDigits 10 digits).2.1 : Int), s.drop digits.length, f)

/-- The directive behind a percent sign. -/
def directive (f : Formatting) (s : List Char) : List Char × Formatting :=
  let flags := s.takeWhile fun c => "#-+ 0".toList.contains c
  let rest := s.drop flags.length
  let (width, rest, f) := f.readCount rest
  let (precision, rest, f) : Option Nat × List Char × Formatting := match rest with
    | '.' :: rest =>
      let (n, rest, f) := f.readCount rest
      ((n.getD 0 |> fun n => if n < 0 then none else some n.toNat), rest, f)
    | _ => (none, rest, f)
  let width := width.getD 0
  let layout : Layout := {
    left := flags.contains '-' || width < 0
    zero := flags.contains '0'
    plus := flags.contains '+'
    space := flags.contains ' '
    alternate := flags.contains '#'
    width := width.natAbs
    precision := precision }
  match rest with
  | [] => ([], { f with fault := some "missing format character" })
  | letter :: rest =>
    let shown := "%" ++ String.ofList (s.take (s.length - rest.length))
    match letter with
    | 'b' =>
      let (word, f) := f.next
      let (text, more) := unescapeText word
      (rest, { f.write (layout.text text) with ended := !more })
    | 'c' =>
      let (word, f) := f.next
      (rest, f.write (layout.pad ((word.toList.headD '\x00').toString)))
    | 's' =>
      let (word, f) := f.next
      (rest, f.write (layout.text word))
    | 'd' | 'i' =>
      let (n, f) := f.nextWhole true
      (rest, f.write (layout.signed n))
    | 'o' | 'u' | 'x' | 'X' =>
      let (n, f) := f.nextWhole false
      let n := (n % (UInt64.size : Int)).toNat
      let base := if letter == 'o' then 8 else if letter == 'u' then 10 else 16
      (rest, f.write (layout.unsigned base n (letter == 'X')))
    | 'a' | 'A' | 'e' | 'E' | 'f' | 'F' | 'g' | 'G' =>
      let (x, f) := f.nextReal
      (rest, f.write (layout.real letter x))
    | _ => ([], { f with fault := some (shown ++ ": invalid directive") })

/-- Goes through the format once. -/
def pass : (steps : Nat) → Formatting → List Char → Formatting
  | 0, f, _ => f
  | steps + 1, f, s =>
    if f.ended || f.fault.isSome then f
    else
      match s with
      | [] => f
      | '\\' :: rest =>
        let (c, rest) := readEscape rest
        pass steps (f.write c.toString) rest
      | '%' :: '%' :: rest => pass steps (f.write "%") rest
      | '%' :: rest =>
        let (rest, f) := f.directive rest
        pass steps f rest
      | c :: rest => pass steps (f.write c.toString) rest

/-- Uses the format until no argument is left. -/
def passes (format : List Char) : (rounds : Nat) → Formatting → Formatting
  | 0, f => f
  | rounds + 1, f =>
    let g := pass (format.length + 1) f format
    let used := g.arguments.length < f.arguments.length
    if g.ended || g.fault.isSome || g.arguments.isEmpty || !used then g
    else passes format rounds g

end Formatting

/-- What a format and arguments give: the text, what is said of arguments,
and the fault that the format has. -/
def formatted (format : String) (arguments : List String) :
    String × List String × Option String :=
  let f := Formatting.passes format.toList (arguments.length + 1) { arguments := arguments }
  (String.join f.done.reverse, f.complaints, f.fault)

end ProxySync.Tool
