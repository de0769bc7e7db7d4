import ProxySync.Tool.Lines
import ProxySync.Tool.Escape
import ProxySync.Text.Pattern

/-!
# Columns and characters

The tools that take lines apart and put them together by columns, `cut` and
`paste`, and the one that replaces characters, `tr`.
-/

namespace ProxySync.Tool

open Files

/-! ## cut -/

/-- The columns from one to another, or to the end. -/
structure ColumnRange where
  first : Nat
  last : Option Nat

def ColumnRange.has (r : ColumnRange) (n : Nat) : Bool := r.first ≤ n && r.last.all (n ≤ ·)

/-- One part of a list of columns. -/
def readRange (fields : Bool) (text : String) : Except String ColumnRange := do
  let fromOne := if fields then "fields are numbered from 1"
    else "byte/character positions are numbered from 1"
  let number (s : List Char) : Except String Nat :=
    match count? (String.ofList s) with
    | some 0 => .error fromOne
    | some n => .ok n
    | none =>
      let s := String.ofList (s.dropWhile Char.isDigit)
      .error ((if fields then "invalid field value " else "invalid byte/character position ") ++
        quotedText s)
  match text.toList.splitOn '-' with
  | [[]] => .error fromOne
  | [n] => do
    let n ← number n
    pure ⟨n, some n⟩
  | [[], []] => .error "invalid range with no endpoint: -"
  | [a, []] => do pure ⟨← number a, none⟩
  | [[], b] => do pure ⟨1, some (← number b)⟩
  | [a, b] => do
    let a ← number a
    let b ← number b
    if b < a then .error "invalid decreasing range" else pure ⟨a, some b⟩
  | _ => .error (if fields then "invalid field range" else "invalid byte or character range")

def readRanges (fields : Bool) (text : String) : Except String (List ColumnRange) :=
  let parts := (text.toList.map fun c => if c == ' ' || c == '\t' then ',' else c).splitOn ','
  parts.mapM fun s => readRange fields (String.ofList s)

/-- The members of a list in the columns; where two members are not next to
each other, a mark may stand between them. -/
def chosenColumns {α : Type} (wanted : Nat → Bool) (between : List α) (xs : List α) : List α :=
  let chosen := (xs.zipIdx 1).filter fun (_, n) => wanted n
  let rec go : Option Nat → List (α × Nat) → List α
    | _, [] => []
    | previous, (x, n) :: rest =>
      (if previous.any (· + 1 < n) then between else []) ++ x :: go (some n) rest
  go none chosen

def cutOptions : Options where
  letters := "b:c:d:f:nsz\x01:\x02"
  names := [("bytes", 'b'), ("characters", 'c'), ("delimiter", 'd'), ("fields", 'f'),
    ("only-delimited", 's'), ("zero-terminated", 'z'), ("output-delimiter", '\x01'),
    ("complement", '\x02')]

/-- The tool `cut`. -/
def cut : Doing Unit := do
  let p ← cutOptions.parsed
  let lists := p.options.filter fun (c, _) => c == 'b' || c == 'c' || c == 'f'
  match lists with
  | [] => Doing.misuse "you must specify a list of bytes, characters, or fields"
  | _ :: _ :: _ => Doing.misuse "only one list may be specified"
  | [(kind, text)] =>
    let fields := kind == 'f'
    match p.last? 'd' with
    | some d =>
      if 1 < d.length then Doing.misuse "the delimiter must be a single character"
      else if !fields then
        Doing.misuse "an input delimiter may be specified only when operating on fields"
    | none => pure ()
    if p.has 's' && !fields then
      Doing.misuse "suppressing non-delimited lines makes sense\n\tonly when operating on fields"
    let ranges ← match readRanges fields text with
      | .ok rs => pure rs
      | .error s => Doing.misuse s
    let wanted (n : Nat) : Bool := ranges.any (·.has n) != p.has '\x02'
    let delimiter := ((p.last? 'd').getD "\t").toList.head?.getD '\x00'
    let between := (p.last? '\x01').map String.toList
    let mark := p.mark
    let cutLine (line : List Char) : List (List Char) :=
      if fields then
        let parts := line.splitOn delimiter
        if parts.length < 2 then if p.has 's' then [] else [line]
        else
          let chosen := (parts.zipIdx 1).filter fun (_, n) => wanted n
          [(between.getD [delimiter]).intercalate (chosen.map (·.1))]
      else [chosenColumns wanted (between.getD []) line]
    for path in p.sources do
      match ← operandText path with
      | .error e => unreadable path e
      | .ok s =>
        let lines := (records mark s.toList).map (withoutMark mark)
        Doing.write (String.ofList ((lines.flatMap cutLine).flatMap (· ++ [mark])))

/-! ## paste -/

/-- The delimiters that a text names; none of them may be empty. -/
def readDelimiters : (steps : Nat) → List Char → Option (List (List Char))
  | 0, _ => some []
  | steps + 1, s =>
    match s with
    | [] => some []
    | ['\\'] => none
    | '\\' :: c :: rest => do
      let more ← readDelimiters steps rest
      let one := match c with
        | '0' => []
        | 'b' => ['\x08']
        | 'f' => ['\x0c']
        | 'n' => ['\n']
        | 'r' => ['\r']
        | 't' => ['\t']
        | 'v' => ['\x0b']
        | c => [c]
      pure (one :: more)
    | c :: rest => do pure ([c] :: (← readDelimiters steps rest))

/-- Texts joined by delimiters that are used in turn. -/
def joinInTurn (delimiters : List (List Char)) (parts : List (List Char)) : List Char :=
  let rec go : List (List Char) → List (List Char) → List Char
    | _, [] => []
    | _, [last] => last
    | [], x :: rest =>
      x ++ delimiters.headD [] ++ go delimiters.tail rest
    | d :: ds, x :: rest => x ++ d ++ go ds rest
  go delimiters parts

def pasteOptions : Options where
  letters := "d:sz"
  names := [("delimiters", 'd'), ("serial", 's'), ("zero-terminated", 'z')]

/-- Gives the lines of one text to several places in turn. -/
def dealt (places : Nat) (lines : List (List Char)) (place : Nat) : List (List Char) :=
  (lines.zipIdx.filter fun (_, i) => i % places == place).map (·.1)

/-- The tool `paste`. -/
def paste : Doing Unit := do
  let p ← pasteOptions.parsed
  let text := (p.last? 'd').getD "\t"
  let mark := p.mark
  let delimiters ← match readDelimiters (text.length + 1) text.toList with
    | some [] => pure [[]]
    | some ds => pure ds
    | none => do
      Doing.complain ("delimiter list ends with an unescaped backslash: " ++ text)
      Doing.quit 1
  if p.has 's' then
    for path in p.sources do
      match ← operandText path with
      | .error e => unreadable path e
      | .ok s =>
        let lines := (records mark s.toList).map (withoutMark mark)
        Doing.write (String.ofList (joinInTurn delimiters lines ++ [mark]))
  else
    let ofInput := (p.sources.filter (· == "-")).length
    let columns ← (p.sources.zipIdx).mapM fun (path, i) => do
      match ← operandText path with
      | .error e => do
        Doing.complain (path ++ ": " ++ e.reason)
        Doing.quit 1
      | .ok s =>
        let lines := (records mark s.toList).map (withoutMark mark)
        if path == "-" then
          pure (dealt ofInput lines ((p.sources.take i).filter (· == "-")).length)
        else pure lines
    let height := (columns.map List.length).foldl max 0
    let rows := (List.range height).map fun i =>
      joinInTurn delimiters (columns.map fun lines => (lines[i]?).getD []) ++ [mark]
    Doing.write (String.ofList rows.flatten)

/-! ## tr -/

/-- One part of a set of characters. -/
inductive CharSetPart where
  | chars (cs : List Char)
  | ofClass (name : String)
  /-- A character as often as it says, or as often as it takes. -/
  | repeated (c : Char) (count : Option Nat)

/-- A character and whether it was written with a backslash. -/
def unescapeSet : (steps : Nat) → List Char → List Text.Marked
  | 0, _ => []
  | steps + 1, s =>
    match s with
    | [] => []
    | ['\\'] => [('\\', false)]
    | '\\' :: c :: rest =>
      if isOctalDigit c then
        let digits := ((c :: rest).take 3).takeWhile isOctalDigit
        let digits := if 255 < digits.foldl (fun n d => 8 * n + (d.toNat - 48)) 0 then digits.take 2
          else digits
        (octalChar digits, true) :: unescapeSet steps ((c :: rest).drop digits.length)
      else
        let meant := if c == 'e' then 'e' else (escapedLetter? c).getD c
        (meant, true) :: unescapeSet steps rest
    | c :: rest => (c, false) :: unescapeSet steps rest

def charsBetween (a b : Char) : List Char :=
  (List.range (b.toNat + 1 - a.toNat)).map fun i => Char.ofNat (a.toNat + i)

/-- The count in a repeated character; a nought in front means octal digits. -/
def readRepeats? (s : List Char) : Option (Option Nat) :=
  match s with
  | [] => some none
  | '0' :: rest =>
    if rest.all isOctalDigit then
      match rest.foldl (fun n c => 8 * n + (c.toNat - 48)) 0 with
      | 0 => some none
      | n => some (some n)
    else none
  | s => (count? (String.ofList s)).map some

/-- Reads a set of characters. -/
def readCharSet : (steps : Nat) → List Text.Marked → Except String (List CharSetPart)
  | 0, _ => .ok []
  | steps + 1, s =>
    let upTo (end_ : Char) (rest : List Text.Marked) : Option (List Char × List Text.Marked) :=
      let inner := rest.takeWhile fun m => !(m.1 == end_ && !m.2)
      match rest.drop inner.length with
      | _ :: (']', false) :: more => some (inner.map (·.1), more)
      | _ => none
    let plain (s : List Text.Marked) : Except String (List CharSetPart) :=
      match s with
      | (a, _) :: ('-', false) :: (b, _) :: rest => do
        if b < a then
          .error ("range-endpoints of '" ++ a.toString ++ "-" ++ b.toString ++
            "' are in reverse collating sequence order")
        else pure (.chars (charsBetween a b) :: (← readCharSet steps rest))
      | (a, _) :: rest => do pure (.chars [a] :: (← readCharSet steps rest))
      | [] => .ok []
    match s with
    | ('[', false) :: (':', false) :: rest =>
      match upTo ':' rest with
      | some (name, more) => do
        let name := String.ofList name
        if Text.classNames.contains name then
          pure (.ofClass name :: (← readCharSet steps more))
        else .error ("invalid character class " ++ quotedText name)
      | none => plain s
    | ('[', false) :: ('=', false) :: (c, _) :: ('=', false) :: (']', false) :: rest => do
      pure (.chars [c] :: (← readCharSet steps rest))
    | ('[', false) :: (c, _) :: ('*', false) :: rest =>
      let inner := rest.takeWhile fun m => m.1 != ']'
      match rest.drop inner.length, readRepeats? (inner.map (·.1)) with
      | _ :: more, some n => do pure (.repeated c n :: (← readCharSet steps more))
      | _, _ => plain s
    | s => plain s

def classChars (name : String) : List Char :=
  ((List.range 256).map Char.ofNat).filter (Text.inClass name)

/-- The characters of a set; one that takes what it needs takes `filling`. -/
def CharSetPart.expand (filling : Nat) : CharSetPart → List Char
  | .chars cs => cs
  | .ofClass name => classChars name
  | .repeated c (some n) => List.replicate n c
  | .repeated c none => List.replicate filling c

def setChars (filling : Nat) (parts : List CharSetPart) : List Char :=
  parts.flatMap (·.expand filling)

/-- Leaves one of several same characters that are in a set. -/
def squeezed (set : Char → Bool) : Option Char → List Char → List Char
  | _, [] => []
  | previous, c :: rest =>
    if previous == some c && set c then squeezed set previous rest
    else c :: squeezed set (some c) rest

/-- Pairs of characters, the classes of capital and small letters being
paired with each other. -/
def pairedSets : List CharSetPart → List CharSetPart → List CharSetPart × List CharSetPart
  | .ofClass "lower" :: xs, .ofClass "upper" :: ys =>
    let (a, b) := pairedSets xs ys
    (.chars (charsBetween 'a' 'z') :: a, .chars (charsBetween 'A' 'Z') :: b)
  | .ofClass "upper" :: xs, .ofClass "lower" :: ys =>
    let (a, b) := pairedSets xs ys
    (.chars (charsBetween 'A' 'Z') :: a, .chars (charsBetween 'a' 'z') :: b)
  | x :: xs, y :: ys =>
    let (a, b) := pairedSets xs ys
    (x :: a, y :: b)
  | xs, ys => (xs, ys)

def replaceOptions : Options where
  letters := "cCdst"
  names := [("complement", 'c'), ("delete", 'd'), ("squeeze-repeats", 's'), ("truncate-set1", 't')]
  anywhere := false

/-- The tool `tr`. -/
def tr : Doing Unit := do
  let p ← replaceOptions.parsed
  let complement := p.has 'c' || p.has 'C'
  let deleting := p.has 'd'
  let squeezing := p.has 's'
  let misused (s hint : String) : Doing Unit :=
    Doing.misuse (if hint.isEmpty then s else s ++ "\n" ++ hint)
  let least := if deleting == squeezing then 2 else 1
  let most := if deleting && !squeezing then 1 else 2
  match p.operands with
  | [] => misused "missing operand" ""
  | operands =>
    if operands.length < least then
      misused ("missing operand after " ++ quotedText (operands.getLast?.getD ""))
        (if deleting then "Two strings must be given when both deleting and squeezing repeats."
          else "Two strings must be given when translating.")
    else if most < operands.length then
      misused ("extra operand " ++ quotedText ((operands[most]?).getD ""))
        (if most == 1 && operands.length == 2 then
            "Only one string may be given when deleting without squeezing repeats." else "")
  let read (s : String) : Doing (List CharSetPart) := do
    match readCharSet (s.length + 1) (unescapeSet (s.length + 1) s.toList) with
    | .ok parts => pure parts
    | .error e => do
      Doing.complain e
      Doing.quit 1
  let first ← read (p.operands.headD "")
  let second ← match p.operands with
    | [_, s] => do pure (some (← read s))
    | _ => pure none
  let plainFirst := setChars 0 first
  let inFirst (c : Char) : Bool := plainFirst.contains c != complement
  let translating := second.isSome && !deleting
  let fault (s : String) : Doing Unit := do
    Doing.complain s
    Doing.quit 1
  if first.any fun part => match part with | .repeated _ none => true | _ => false then
    fault "the [c*] repeat construct may not appear in string1"
  match second with
  | some parts =>
    if translating then
      if 1 < (parts.filter fun part => match part with
          | .repeated _ none => true | _ => false).length then
        fault "only one [c*] repeat construct may appear in string2"
      if parts.isEmpty && !p.has 't' then
        fault "when not truncating set1, string2 must be non-empty"
      if parts.any fun part => match part with
          | .ofClass name => name != "upper" && name != "lower" | _ => false then
        fault ("when translating, the only character classes that may appear in\n" ++
          "string2 are 'upper' and 'lower'")
  | none => pure ()
  let s := (← Doing.input).toList
  if deleting then
    let kept := s.filter (!inFirst ·)
    match second with
    | some parts =>
      let set := setChars 0 parts
      Doing.write (String.ofList (squeezed set.contains none kept))
    | none => Doing.write (String.ofList kept)
  else
    match second with
    | none => Doing.write (String.ofList (squeezed inFirst none s))
    | some parts =>
      let source := if complement then [CharSetPart.chars (((List.range 256).map Char.ofNat).filter inFirst)]
        else first
      let (source, target) := pairedSets source parts
      let from_ := setChars 0 source
      let fixed := (setChars 0 target).length
      let to_ := setChars (from_.length - fixed) target
      let to_ := if p.has 't' || from_.length ≤ to_.length then to_
        else to_ ++ List.replicate (from_.length - to_.length) (to_.getLast?.getD 'x')
      let pairs := (from_.zip to_).reverse
      let image (c : Char) : Char := (pairs.lookup c).getD c
      let done := s.map image
      if squeezing then
        Doing.write (String.ofList (squeezed to_.contains none done))
      else Doing.write (String.ofList done)

end ProxySync.Tool
