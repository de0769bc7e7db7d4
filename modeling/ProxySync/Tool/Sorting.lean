import ProxySync.Tool.Lines
import ProxySync.Tool.Format

/-!
# Sorted lines

Putting lines in order by keys, `sort`, and the tools that rely on the order:
`uniq` and `comm`. Texts are ordered by their octets.
-/

namespace ProxySync.Tool

open Files

/-! ## Orders of texts -/

/-- Compares a list of characters octet by octet. -/
def compareChars : List Char → List Char → Ordering
  | [], [] => .eq
  | [], _ => .lt
  | _, [] => .gt
  | a :: as, b :: bs => (compare a.toNat b.toNat).then (compareChars as bs)

def isBlankChar (c : Char) : Bool := c == ' ' || c == '\t'

/-- A decimal number at the start of a text, as a numerator over a power of
ten. -/
structure DecimalText where
  negative : Bool
  numerator : Nat
  places : Nat
  rest : List Char

def readDecimalText (s : List Char) : DecimalText :=
  let s := s.dropWhile isBlankChar
  let negative := s.head? == some '-'
  let s := if negative then s.tail else s
  let whole := s.takeWhile Char.isDigit
  let rest := s.drop whole.length
  let (fraction, rest) := match rest with
    | '.' :: more =>
      let digits := more.takeWhile Char.isDigit
      (digits, more.drop digits.length)
    | rest => ([], rest)
  let numerator := (whole ++ fraction).foldl (fun n c => 10 * n + (c.toNat - 48)) 0
  ⟨negative && numerator != 0, numerator, fraction.length, rest⟩

def DecimalText.compare (a b : DecimalText) : Ordering :=
  let scaled (x y : DecimalText) : Int :=
    let n : Int := (x.numerator * Nat.pow 10 y.places : Nat)
    if x.negative then -n else n
  Ord.compare (scaled a b) (scaled b a)

def compareNumbers (a b : List Char) : Ordering := (readDecimalText a).compare (readDecimalText b)

/-- How large the unit behind a number is; it has the sign of the number. -/
def unitOrder (n : DecimalText) : Int :=
  if n.numerator == 0 then 0
  else
    let order : Int := match n.rest with
      | 'k' :: _ => 1
      | c :: _ => ((("KMGTPEZYRQ".toList).zipIdx 1).lookup c).getD 0
      | [] => 0
    if n.negative then -order else order

def compareSizes (a b : List Char) : Ordering :=
  let x := readDecimalText a
  let y := readDecimalText b
  (Ord.compare (unitOrder x) (unitOrder y)).then (x.compare y)

/-- Floating point numbers behind everything that is none. -/
def compareReals (a b : List Char) : Ordering :=
  let rank (s : List Char) : Nat × Int × Int :=
    match readReal (s.dropWhile isSpaceChar) with
    | some (.finite negative m, _) =>
      let (n, d) := m.ratio
      (3, if negative then -(n : Int) else n, d)
    | some (.infinite negative, _) => if negative then (2, 0, 1) else (4, 0, 1)
    | some (.nan, _) => (1, 0, 1)
    | none => (0, 0, 1)
  let (i, m, d) := rank a
  let (j, n, e) := rank b
  (Ord.compare i j).then (Ord.compare (m * e) (n * d))

def monthNames : List String :=
  ["JAN", "FEB", "MAR", "APR", "MAY", "JUN", "JUL", "AUG", "SEP", "OCT", "NOV", "DEC"]

def monthOf (s : List Char) : Nat :=
  let name := String.ofList (((s.dropWhile isBlankChar).take 3).map Char.toUpper)
  match monthNames.idxOf? name with
  | some i => i + 1
  | none => 0

/-! ## Versions -/

/-- The rank of a character in a version, where letters come before other
characters and a tilde comes even before the end. -/
def versionRank : Option Char → Int
  | none => -1
  | some c =>
    if c.isDigit then 0
    else if c.isAlpha then c.toNat
    else if c == '~' then -2
    else c.toNat + 256

/-- The front of two texts that is not digits, compared; with what follows. -/
def compareVersionWords : (steps : Nat) → List Char → List Char →
    Ordering × List Char × List Char
  | 0, a, b => (.eq, a, b)
  | steps + 1, a, b =>
    let starts (s : List Char) : Bool := s.head?.any (!·.isDigit)
    if !starts a && !starts b then (.eq, a, b)
    else
      match compare (versionRank a.head?) (versionRank b.head?) with
      | .eq => compareVersionWords steps a.tail b.tail
      | o => (o, a, b)

def compareVersionParts : (steps : Nat) → List Char → List Char → Ordering
  | 0, _, _ => .eq
  | _, [], [] => .eq
  | steps + 1, a, b =>
    match compareVersionWords (a.length + b.length + 1) a b with
    | (.eq, a, b) =>
      let a := a.dropWhile (· == '0')
      let b := b.dropWhile (· == '0')
      let m := a.takeWhile Char.isDigit
      let n := b.takeWhile Char.isDigit
      ((compare m.length n.length).then (compareChars m n)).then
        (compareVersionParts steps (a.drop m.length) (b.drop n.length))
    | (o, _, _) => o

/-- The length of a file name without the endings behind it. -/
def stemLength (name : List Char) : Nat :=
  let isEndingChar (c : Char) : Bool := c.isAlphanum || c == '~'
  let rec go : (steps : Nat) → (trailing : Option Nat) → (at_ : Nat) → List Char → Nat
    | 0, _, at_, _ => at_
    | _, trailing, at_, [] => trailing.getD at_
    | steps + 1, trailing, at_, '.' :: c :: rest =>
      if at_ != 0 && (c.isAlpha || c == '~') then
        let ending := rest.takeWhile isEndingChar
        go steps (some (trailing.getD at_)) (at_ + 2 + ending.length) (rest.drop ending.length)
      else go steps none (at_ + 1) (c :: rest)
    | steps + 1, _, at_, _ :: rest => go steps none (at_ + 1) rest
  go (name.length + 1) none 0 name

def compareVersions (a b : List Char) : Ordering :=
  let dots (s : List Char) : Nat :=
    if s.isEmpty then 0 else if s == ['.'] then 1 else if s == ['.', '.'] then 2
    else if s.head? == some '.' then 3 else 4
  let parts (a b : List Char) : Ordering := compareVersionParts (a.length + b.length + 1) a b
  ((compare (dots a) (dots b)).then (parts (a.take (stemLength a)) (b.take (stemLength b)))).then
    (parts a b)

/-! ## Keys -/

/-- The letters that say how keys are compared. -/
abbrev KeyManner := List Char

/-- A part of the line and how it is compared. Without an end the part goes to
the end of the line. -/
structure SortKey where
  field : Nat
  offset : Nat := 0
  last : Option (Nat × Nat) := none
  /-- Blanks in front are skipped at the start and at the end of the part. -/
  skipsFront : Bool := false
  skipsBack : Bool := false
  manner : KeyManner := []

/-- What is behind some fields. -/
def behindFields (separator : Option Char) : Nat → List Char → List Char
  | 0, s => s
  | n + 1, s =>
    match separator with
    | some t => behindFields separator n ((s.dropWhile (· != t)).drop 1)
    | none => behindFields separator n ((s.dropWhile isBlankChar).dropWhile (!isBlankChar ·))

/-- How long the line is up to the end of a key. -/
def keyEnd (separator : Option Char) (skips : Bool) (field offset : Nat) (s : List Char) : Nat :=
  if offset == 0 then
    match separator with
    | some t =>
      let rest := behindFields separator field s
      s.length - (rest.dropWhile (· != t)).length
    | none => s.length - (behindFields none (field + 1) s).length
  else
    let rest := behindFields separator field s
    let rest := if skips then rest.dropWhile isBlankChar else rest
    s.length - (rest.drop offset).length

/-- The part of the line that is the key. -/
def SortKey.part (k : SortKey) (separator : Option Char) (s : List Char) : List Char :=
  let start := behindFields separator k.field s
  let start := if k.skipsFront then start.dropWhile isBlankChar else start
  let start := start.drop k.offset
  match k.last with
  | none => start
  | some (field, offset) =>
    let stop := keyEnd separator k.skipsBack field offset s
    start.take (stop - (s.length - start.length))

def comparePart (manner : KeyManner) (a b : List Char) : Ordering :=
  let has (c : Char) : Bool := manner.contains c
  let seen (s : List Char) : List Char :=
    let s := if has 'd' then s.filter fun c => c.isAlphanum || isBlankChar c
      else if has 'i' then s.filter fun c => 32 ≤ c.toNat && c.toNat < 127 else s
    if has 'f' then s.map Char.toUpper else s
  let o := if has 'n' then compareNumbers a b
    else if has 'g' then compareReals a b
    else if has 'h' then compareSizes a b
    else if has 'M' then compare (monthOf a) (monthOf b)
    else if has 'V' then compareVersions (seen a) (seen b)
    else compareChars (seen a) (seen b)
  if has 'r' then o.swap else o

def keyLetters : List Char := "bdfghiMnRrV".toList

/-- Reads where a key starts or ends. -/
def readKeyPlace (what : String) (s : List Char) : Except String (Nat × List Char) :=
  let digits := s.takeWhile Char.isDigit
  match count? (String.ofList digits) with
  | some n => .ok (n, s.drop digits.length)
  | none => .error (what ++ ": invalid count at start of " ++ quotedText (String.ofList s))

def readKey (text : String) : Except String SortKey := do
  let bad {α : Type} (s : String) : Except String α :=
    .error (s ++ ": invalid field specification " ++ quotedText text)
  let (field, rest) ← readKeyPlace "invalid number at field start" text.toList
  if field == 0 then bad "field number is zero"
  else
    let (offset, rest) ← match rest with
      | '.' :: rest => do
        let (n, rest) ← readKeyPlace "invalid number after '.'" rest
        if n == 0 then bad "character offset is zero" else pure (n - 1, rest)
      | rest => pure (0, rest)
    let letters := rest.takeWhile keyLetters.contains
    let rest := rest.drop letters.length
    let key : SortKey := {
      field := field - 1, offset := offset, skipsFront := letters.contains 'b'
      manner := letters.filter (· != 'b') }
    match rest with
    | [] => pure key
    | ',' :: rest => do
      let (field, rest) ← readKeyPlace "invalid number after ','" rest
      if field == 0 then bad "field number is zero"
      else
        let (offset, rest) ← match rest with
          | '.' :: rest => readKeyPlace "invalid number after '.'" rest
          | rest => pure (0, rest)
        let letters := rest.takeWhile keyLetters.contains
        if rest.length == letters.length then
          pure { key with
            last := some (field - 1, offset), skipsBack := letters.contains 'b'
            manner := key.manner ++ letters.filter (· != 'b') }
        else bad "stray character in field spec"
    | _ => bad "stray character in field spec"

/-! ## sort -/

structure SortManner where
  keys : List SortKey
  separator : Option Char
  reversed : Bool
  stable : Bool
  unique : Bool

def SortManner.compareKeys (m : SortManner) (a b : List Char) : Ordering :=
  m.keys.foldl (fun o k =>
    o.then (comparePart k.manner (k.part m.separator a) (k.part m.separator b))) .eq

def SortManner.compare (m : SortManner) (a b : List Char) : Ordering :=
  let o := m.compareKeys a b
  if m.stable || m.unique then o
  else o.then (if m.reversed then (compareChars a b).swap else compareChars a b)

/-- Leaves the first of lines that are equal next to each other. -/
def firstOfEach (same : List Char → List Char → Bool) : List (List Char) → List (List Char)
  | a :: b :: rest => if same a b then firstOfEach same (a :: rest) else a :: firstOfEach same (b :: rest)
  | lines => lines

def sortOptions : Options where
  letters := "bdfghiMnRrVcCmk:o:sS:t:T:uz\x01:\x02:\x03\x04::\x05:"
  names := [("ignore-leading-blanks", 'b'), ("dictionary-order", 'd'), ("ignore-case", 'f'),
    ("general-numeric-sort", 'g'), ("human-numeric-sort", 'h'), ("ignore-nonprinting", 'i'),
    ("month-sort", 'M'), ("numeric-sort", 'n'), ("random-sort", 'R'), ("reverse", 'r'),
    ("version-sort", 'V'), ("merge", 'm'), ("key", 'k'), ("output", 'o'), ("stable", 's'),
    ("buffer-size", 'S'), ("field-separator", 't'), ("temporary-directory", 'T'), ("unique", 'u'),
    ("zero-terminated", 'z'), ("parallel", '\x01'), ("sort", '\x02'), ("debug", '\x03'),
    ("check", '\x04'), ("batch-size", '\x05')]

/-- The letter of an order that is named in full. -/
def orderLetter? : String → Option Char
  | "general-numeric" => some 'g'
  | "human-numeric" => some 'h'
  | "month" => some 'M'
  | "numeric" => some 'n'
  | "random" => some 'R'
  | "version" => some 'V'
  | _ => none

def sortManner (p : Parsed) : Doing SortManner := do
  let give {α : Type} (s : String) : Doing α := do
    Doing.complain s
    Doing.quit 2
  let keys ← (p.all 'k').mapM fun text => do
    match readKey text with
    | .ok k => pure k
    | .error s => give s
  let named := (p.all '\x02').filterMap orderLetter?
  let global := (keyLetters.filter p.has ++ named).filter (· != 'b')
  let blanks := p.has 'b'
  let inherits (k : SortKey) : Bool := k.manner.isEmpty && !k.skipsFront && !k.skipsBack
  let keys := keys.map fun k =>
    if inherits k then { k with manner := global, skipsFront := blanks, skipsBack := blanks } else k
  let keys := if keys.isEmpty then
    [({ field := 0, manner := global, skipsFront := blanks } : SortKey)] else keys
  let separator ← match p.last? 't' with
    | none => pure none
    | some s =>
      match s.toList with
      | [] => give "empty tab"
      | [c] => pure (some c)
      | ['\\', '0'] => pure (some '\x00')
      | _ => give ("multi-character tab " ++ quotedText s)
  pure ⟨keys, separator, global.contains 'r', p.has 's', p.has 'u'⟩

/-- Says where the lines are not in order, if so. -/
def checkSorted (m : SortManner) (quiet : Bool) (path : String) (lines : List (List Char)) :
    Doing Unit := do
  let bad? := ((lines.zip lines.tail).zipIdx 2).find? fun ((a, b), _) =>
    match m.compare a b with
    | .gt => true
    | .eq => m.unique
    | .lt => false
  match bad? with
  | none => pure ()
  | some ((_, b), n) =>
    if !quiet then
      Doing.complain (path ++ ":" ++ toString n ++ ": disorder: " ++ String.ofList b)
    Doing.quit 1

/-- The tool `sort`. -/
def sort : Doing Unit := do
  let p ← sortOptions.parsed 2
  let m ← sortManner p
  let mark := p.mark
  let checks := p.has 'c' || p.has 'C' || p.has '\x04'
  match checks, p.operands with
  | true, _ :: second :: _ =>
    Doing.complain ("extra operand " ++ quotedText second ++ " not allowed with -" ++
      (if p.has 'C' then "C" else "c"))
    Doing.quit 2
  | _, _ => pure ()
  let texts ← p.sources.mapM fun path => do
    match ← operandText path with
    | .ok s => pure ((records mark s.toList).map (withoutMark mark))
    | .error e => do
      Doing.complain ((if e == .isADirectory then "read failed: " else "cannot read: ") ++ path ++
        ": " ++ e.reason)
      Doing.quit 2
  if checks then
    let quiet := p.has 'C' || (p.all '\x04').any fun s => s == "quiet" || s == "silent"
    checkSorted m quiet (p.sources.headD "-") texts.flatten
  else
    let isBefore (a b : List Char) : Bool := m.compare a b != .gt
    let lines := if p.has 'm' then texts.foldl (fun xs ys => xs.merge ys isBefore) []
      else texts.flatten.mergeSort isBefore
    let lines := if m.unique then firstOfEach (fun a b => m.compareKeys a b == .eq) lines else lines
    let text := String.ofList (lines.flatMap (· ++ [mark]))
    match p.last? 'o' with
    | none => Doing.write text
    | some path =>
      let c ← Doing.call
      let mode := Nat.land 0o666 (Nat.xor 0o777 c.mask)
      match ← Doing.onDisk fun d => d.write (pathOf path) (.ofOctets text) mode c.place with
      | .ok () => pure ()
      | .error e => do
        Doing.complain ("open failed: " ++ path ++ ": " ++ e.reason)
        Doing.quit 2

/-! ## uniq -/

def uniqueOptions : Options where
  letters := "cdDf:is:uw:z\x01::\x02::"
  names := [("count", 'c'), ("repeated", 'd'), ("skip-fields", 'f'), ("ignore-case", 'i'),
    ("skip-chars", 's'), ("unique", 'u'), ("check-chars", 'w'), ("zero-terminated", 'z'),
    ("all-repeated", '\x01'), ("group", '\x02')]

/-- The tool `uniq`. -/
def uniq : Doing Unit := do
  let p ← uniqueOptions.parsed
  let number (letter : Char) (what : String) : Doing (Option Nat) := do
    match p.last? letter with
    | none => pure none
    | some s =>
      match count? s with
      | some n => pure (some n)
      | none => do
        Doing.complain (s ++ ": invalid number of " ++ what)
        Doing.quit 1
  let fields := (← number 'f' "fields to skip").getD 0
  let skipped := (← number 's' "bytes to skip").getD 0
  let width ← number 'w' "bytes to compare"
  match p.operands with
  | _ :: _ :: extra :: _ => Doing.misuse ("extra operand " ++ quotedText extra)
  | _ => pure ()
  let all := p.has 'D' || p.has '\x01'
  if all && p.has 'c' then
    Doing.misuse "printing all duplicated lines and repeat counts is meaningless"
  let mark := p.mark
  let path := p.operands.headD "-"
  let text ← match ← operandText path with
    | .ok s => pure s
    | .error e => do
      Doing.complain (if e == .isADirectory then "error reading " ++ quotedText path ++ ": " ++ e.reason
        else path ++ ": " ++ e.reason)
      Doing.quit 1
  let key (s : List Char) : List Char :=
    let s := (behindFields none fields s).drop skipped
    let s := match width with
      | some n => s.take n
      | none => s
    if p.has 'i' then s.map Char.toLower else s
  let lines := (records mark text.toList).map (withoutMark mark)
  let runs := lines.splitBy fun a b => key a == key b
  let shown (line : List Char) (n : Nat) : List Char :=
    (if p.has 'c' then (padLeft 7 (toString n) ++ " ").toList else []) ++ line ++ [mark]
  let separated := (p.all '\x01').getLast?.any fun s => s == "separate" || s == "prepend"
  let prepended := (p.all '\x01').getLast? == some "prepend"
  let chosen : List (List Char) :=
    if all then
      let groups := (runs.filter fun r => 1 < r.length).map fun r => r.flatMap (· ++ [mark])
      if prepended then groups.map ([mark] ++ ·)
      else if separated then groups.intersperse [mark] else groups
    else if p.has '\x02' then (runs.map fun r => r.flatMap (· ++ [mark])).intersperse [mark]
    else runs.filterMap fun r =>
      let isShown := if r.length == 1 then !p.has 'd' else !p.has 'u'
      if isShown then some (shown (r.headD []) r.length) else none
  let result := String.ofList chosen.flatten
  match p.operands with
  | [_, target] =>
    if target == "-" then Doing.write result
    else
      let c ← Doing.call
      let mode := Nat.land 0o666 (Nat.xor 0o777 c.mask)
      match ← Doing.onDisk fun d => d.write (pathOf target) (.ofOctets result) mode c.place with
      | .ok () => pure ()
      | .error e => unreadable target e
  | _ => Doing.write result

/-! ## comm -/

/-- Where one of the two files is: the lines to come, and the two last ones. -/
structure Track where
  lines : List (List Char)
  previous : Option (List Char) := none
  beforeThat : Option (List Char) := none
  disordered : Bool := false

/-- Takes the next line; the order is looked at where that matters. -/
def Track.advance (t : Track) (looks : Bool) : Track :=
  match t.lines with
  | [] => t
  | a :: rest =>
    let isAfter (x y : Option (List Char)) : Bool :=
      match x, y with
      | some x, some y => compareChars x y == .gt
      | _, _ => false
    let bad := looks && match rest with
      | b :: _ => isAfter (some a) (some b)
      | [] => isAfter t.previous (some a)
    ⟨rest, some a, t.previous, t.disordered || bad⟩

/-- The lines with the number of the column they belong to. -/
def inColumns (checks : Option Bool) : (fuel : Nat) → (unpaired : Bool) → Track → Track →
    List (List Char × Nat) → List (List Char × Nat) × Track × Track
  | 0, _, a, b, done => (done.reverse, a, b)
  | fuel + 1, unpaired, a, b, done =>
    let o? := match a.lines, b.lines with
      | [], [] => none
      | [], _ => some Ordering.gt
      | _, [] => some Ordering.lt
      | x :: _, y :: _ => some (compareChars x y)
    match o? with
    | none => (done.reverse, a, b)
    | some o =>
      let unpaired := unpaired || o != .eq
      let looks := checks.getD unpaired
      match o with
      | .eq => inColumns checks fuel unpaired (a.advance looks) (b.advance looks)
          ((a.lines.headD [], 2) :: done)
      | .lt => inColumns checks fuel unpaired (a.advance looks) b ((a.lines.headD [], 0) :: done)
      | .gt => inColumns checks fuel unpaired a (b.advance looks) ((b.lines.headD [], 1) :: done)

def commonOptions : Options where
  letters := "123z\x01\x02\x03:\x04"
  names := [("check-order", '\x01'), ("nocheck-order", '\x02'), ("output-delimiter", '\x03'),
    ("total", '\x04'), ("zero-terminated", 'z')]

/-- The tool `comm`. -/
def comm : Doing Unit := do
  let p ← commonOptions.parsed
  let mark := p.mark
  match p.operands with
  | [] => Doing.misuse "missing operand"
  | [one] => Doing.misuse ("missing operand after " ++ quotedText one)
  | _ :: _ :: extra :: _ => Doing.misuse ("extra operand " ++ quotedText extra)
  | [first, second] =>
    let track (path : String) : Doing Track := do
      match ← operandText path with
      | .ok s => pure { lines := (records mark s.toList).map (withoutMark mark) }
      | .error e => do
        Doing.complain (path ++ ": " ++ e.reason)
        Doing.quit 1
    let a ← track first
    let b ← track second
    let checks := match p.lastOf ['\x01', '\x02'] with
      | some '\x01' => some true
      | some _ => some false
      | none => none
    let (lines, a, b) := inColumns checks (a.lines.length + b.lines.length + 1) false a b []
    let delimiter := ((p.last? '\x03').getD "\t").toList
    let hides (column : Nat) : Bool := p.has (Char.ofNat ('1'.toNat + column))
    let front (column : Nat) : List Char :=
      ((List.range column).filter (!hides ·)).flatMap fun _ => delimiter
    Doing.write (String.ofList (lines.flatMap fun (line, column) =>
      if hides column then [] else front column ++ line ++ [mark]))
    if p.has '\x04' then
      let total (column : Nat) : String := toString (lines.filter (·.2 == column)).length
      let d := String.ofList delimiter
      Doing.write (total 0 ++ d ++ total 1 ++ d ++ total 2 ++ d ++ "total" ++ mark.toString)
    if a.disordered then Doing.complain "file 1 is not in sorted order"
    if b.disordered then Doing.complain "file 2 is not in sorted order"
    if a.disordered || b.disordered then
      if checks.isNone then Doing.complain "input is not in sorted order"
      Doing.quit 1

end ProxySync.Tool
