import ProxySync.Tool.Basic

/-!
# Tools that pass on lines

The tools that write the texts of files again, whole or in part, forwards or
backwards: `cat`, `tac`, `rev`, `head`, `tail`, `nl` and `fold`. Two helpers
serve all tools that read files: the records of a text, and numbers with a
unit behind them.
-/

namespace ProxySync.Tool

open Files

/-! ## Records -/

/-- The records of a text, each with the mark that ends it. Only the last may
have none. -/
def records (mark : Char) (s : List Char) : List (List Char) :=
  let pieces := s.splitOn mark
  let whole := pieces.dropLast.map (· ++ [mark])
  match pieces.getLast? with
  | some [] | none => whole
  | some last => whole ++ [last]

/-- The record without the mark at its end. -/
def withoutMark (mark : Char) (s : List Char) : List Char :=
  if s.getLast? == some mark then s.dropLast else s

/-- The mark that records end in: a line break, or a null character where the
option for it is given. -/
def Parsed.mark (p : Parsed) : Char := if p.has 'z' then '\x00' else '\n'

/-- What a tool of many operands reads: its input where there are none. -/
def Parsed.sources (p : Parsed) : List String := if p.operands.isEmpty then ["-"] else p.operands

/-- Says that a file cannot be read. -/
def unreadable (path : String) (e : IoFault) : Doing Unit := Doing.refuse (path ++ ": " ++ e.reason)

/-! ## Numbers with units -/

/-- What a letter behind a number multiplies it by: the letter's power of a
thousand or of 1024. -/
def unitOf? : List Char → Option Nat
  | [] => some 1
  | ['b'] => some 512
  | c :: rest =>
    let power? := (("kmgtpezy".toList).zipIdx.find? fun (d, _) => d == c || d.toUpper == c).map (·.2)
    match power?, rest with
    | some n, [] | some n, ['i', 'B'] => some (Nat.pow 1024 (n + 1))
    | some n, ['B'] => some (Nat.pow 1000 (n + 1))
    | _, _ => none

/-- A number with a unit. -/
def sizeOf? (s : String) : Option Nat := do
  let s := s.toList.dropWhile fun c => c == ' ' || c == '\t'
  let s := if s.head? == some '+' then s.tail else s
  let digits := s.takeWhile Char.isDigit
  let n ← count? (String.ofList digits)
  let factor ← unitOf? (s.drop digits.length)
  pure (n * factor)

/-! ## cat -/

structure CatManner where
  numbers : Bool
  /-- Only lines with something in them are numbered. -/
  filledOnly : Bool
  squeeze : Bool
  ends : Bool
  tabs : Bool
  marks : Bool

/-- Where `cat` is: how many lines it has numbered, and how many empty lines it
has just seen, or none inside a line. -/
structure CatState where
  number : Nat := 0
  empties : Option Nat := some 0

/-- A character in visible form. -/
def visibleChar (c : Char) : String :=
  let low (n : Nat) : String :=
    if n < 32 then "^" ++ (Char.ofNat (n + 64)).toString
    else if n == 127 then "^?"
    else (Char.ofNat n).toString
  if c.toNat < 128 then low c.toNat else "M-" ++ low (c.toNat - 128)

def padLeft (width : Nat) (s : String) : String :=
  String.ofList (List.replicate (width - s.length) ' ') ++ s

def padRight (width : Nat) (s : String) : String :=
  s ++ String.ofList (List.replicate (width - s.length) ' ')

def catChar (m : CatManner) (s : CatState) (c : Char) (next : Option Char) : String × CatState :=
  let numbered (s : CatState) : String × CatState :=
    (padLeft 6 (toString (s.number + 1)) ++ "\t", { s with number := s.number + 1 })
  if c == '\n' then
    match s.empties with
    | none => ((if m.ends then "$\n" else "\n"), { s with empties := some 0 })
    | some n =>
      if m.squeeze && 1 ≤ n then ("", s)
      else
        let (front, s) := if m.numbers && !m.filledOnly then numbered s else ("", s)
        (front ++ (if m.ends then "$\n" else "\n"), { s with empties := some (n + 1) })
  else
    let (front, s) := if s.empties.isSome && m.numbers then numbered s else ("", s)
    let shown :=
      if c == '\t' then if m.tabs then "^I" else "\t"
      else if m.marks then visibleChar c
      else if c == '\r' && m.ends && next == some '\n' then "^M"
      else c.toString
    (front ++ shown, { s with empties := none })

def catText (m : CatManner) : CatState → List Char → List String → List String × CatState
  | s, [], done => (done, s)
  | s, c :: rest, done =>
    let (t, s) := catChar m s c rest.head?
    catText m s rest (t :: done)

def catOptions : Options where
  letters := "AbeEnstTuv"
  names := [("show-all", 'A'), ("number-nonblank", 'b'), ("show-ends", 'E'), ("number", 'n'),
    ("squeeze-blank", 's'), ("show-tabs", 'T'), ("show-nonprinting", 'v')]

/-- The tool `cat`. -/
def cat : Doing Unit := do
  let p ← catOptions.parsed
  let m : CatManner := {
    numbers := p.has 'n' || p.has 'b'
    filledOnly := p.has 'b'
    squeeze := p.has 's'
    ends := p.has 'E' || p.has 'A' || p.has 'e'
    tabs := p.has 'T' || p.has 'A' || p.has 't'
    marks := p.has 'v' || p.has 'A' || p.has 'e' || p.has 't' }
  let isPlain := !(m.numbers || m.squeeze || m.ends || m.tabs || m.marks)
  let c ← Doing.call
  let mut state : CatState := {}
  for path in p.sources do
    match ← operandText path with
    | .error e => unreadable path e
    | .ok text =>
      let number? ← if path == "-" then pure c.inputFile
        else Doing.look fun d place => fileNumber? d place path
      if number?.isSome && number? == c.outputFile && !text.isEmpty then
        Doing.refuse (path ++ ": input file is output file")
      else if isPlain then Doing.write text
      else
        let (texts, s) := catText m state text.toList []
        state := s
        Doing.write (String.join texts.reverse)

/-! ## Backwards -/

/-- Splits a text behind every separator. -/
def cutBehind (separator : List Char) : (skip : Nat) → (part : List Char) → List Char →
    List (List Char)
  | _, part, [] => if part.isEmpty then [] else [part.reverse]
  | skip + 1, part, c :: rest =>
    if skip == 0 then (c :: part).reverse :: cutBehind separator 0 [] rest
    else cutBehind separator skip (c :: part) rest
  | 0, part, c :: rest =>
    if separator.isPrefixOf (c :: rest) then
      match separator.length with
      | 0 | 1 => (c :: part).reverse :: cutBehind separator 0 [] rest
      | n + 2 => cutBehind separator (n + 1) (c :: part) rest
    else cutBehind separator 0 (c :: part) rest

/-- Splits a text in front of every separator. -/
def cutBefore (separator s : List Char) : List (List Char) :=
  ((cutBehind separator.reverse 0 [] s.reverse).map List.reverse).reverse

def tacOptions : Options where
  letters := "brs:"
  names := [("before", 'b'), ("regex", 'r'), ("separator", 's')]

/-- The tool `tac`. -/
def tac : Doing Unit := do
  let p ← tacOptions.parsed
  let separator := ((p.last? 's').getD "\n").toList
  let separator := if separator.isEmpty then ['\x00'] else separator
  for path in p.sources do
    match ← operandText path with
    | .error .isADirectory => Doing.refuse (path ++ ": read error: Is a directory")
    | .error e => Doing.refuse ("failed to open " ++ quotedText path ++ " for reading: " ++ e.reason)
    | .ok text =>
      let parts := if p.has 'b' then cutBefore separator text.toList
        else cutBehind separator 0 [] text.toList
      Doing.write (String.ofList parts.reverse.flatten)

def revOptions : Options where
  letters := "0hV"
  names := [("zero", '0')]

/-- The tool `rev`. -/
def rev : Doing Unit := do
  let p ← revOptions.parsed
  let mark := if p.has '0' then '\x00' else '\n'
  for path in p.sources do
    match ← operandText path with
    | .error e => Doing.refuse ("cannot open " ++ path ++ ": " ++ e.reason)
    | .ok text =>
      Doing.write (String.ofList ((records mark text.toList).flatMap fun r =>
        (withoutMark mark r).reverse ++ (if r.getLast? == some mark then [mark] else [])))

/-! ## The first and the last part -/

/-- How much of a text is meant. -/
structure Extent where
  octets : Bool := false
  /-- Counted from the other end. -/
  other : Bool := false
  count : Nat := 10

/-- The front of a text, and what is behind it. -/
def Extent.front (e : Extent) (mark : Char) (s : List Char) : List Char × List Char :=
  if e.octets then s.splitAt (if e.other then s.length - e.count else e.count)
  else
    let rs := records mark s
    let (a, b) := rs.splitAt (if e.other then rs.length - e.count else e.count)
    (a.flatten, b.flatten)

/-- Whether the front can be told from what has come so far. -/
def Extent.isIn (e : Extent) (mark : Char) (s : List Char) : Bool :=
  !e.other && (if e.octets then e.count ≤ s.length else e.count ≤ s.count mark)

/-- The back of a text; one that is counted from the other end begins with the
part of that number. -/
def Extent.back (e : Extent) (mark : Char) (s : List Char) : List Char :=
  if e.octets then s.drop (if e.other then e.count - 1 else s.length - e.count)
  else
    let rs := records mark s
    (rs.drop (if e.other then e.count - 1 else rs.length - e.count)).flatten

/-- Writes the name of a file over what follows, if that is to be done. -/
def writeHeading (withNames first : Bool) (path : String) : Doing Unit :=
  if withNames then
    let name := if path == "-" then "standard input" else path
    Doing.write ((if first then "" else "\n") ++ "==> " ++ name ++ " <==\n")
  else pure ()

/-- Whether names are written: the last option for it decides, or else the
number of files. -/
def Parsed.withNames (p : Parsed) : Bool :=
  match p.lastOf ['q', 'v'] with
  | some c => c == 'v'
  | none => 1 < p.operands.length

/-- Says that a file cannot be read, with its heading where it is there. -/
def unreadablePart (withNames first : Bool) (path : String) (e : IoFault) : Doing Bool := do
  if e == .isADirectory then
    writeHeading withNames first path
    Doing.refuse ("error reading " ++ quotedText path ++ ": " ++ e.reason)
    pure true
  else
    Doing.refuse ("cannot open " ++ quotedText path ++ " for reading: " ++ e.reason)
    pure false

def headOptions : Options where
  letters := "c:n:qvz0123456789"
  names := [("bytes", 'c'), ("lines", 'n'), ("quiet", 'q'), ("silent", 'q'), ("verbose", 'v'),
    ("zero-terminated", 'z')]

/-- The extent of an argument, in which a mark in front may turn the end from
which it is counted. -/
def extentFrom (octets : Bool) (turning staying : Char) (text : String) : Doing Extent := do
  let s := text.toList
  let (turned, digits) :=
    if s.head? == some turning then (true, s.tail)
    else if s.head? == some staying then (false, s.tail)
    else (false, s)
  match digits.head?, sizeOf? (String.ofList digits) with
  | some '+', _ | some '-', _ | _, none => do
    Doing.complain ("invalid number of " ++ (if octets then "bytes" else "lines") ++ ": " ++
      quotedText (if turning == '-' then String.ofList digits else text))
    Doing.quit 1
  | _, some n => pure ⟨octets, turned, n⟩

/-- Words whose first is a dash with a number, with the number as an option. -/
def expandCount (words : List String) : List String :=
  match words with
  | [] => []
  | w :: rest =>
    match w.toList with
    | '-' :: c :: more =>
      if c.isDigit then
        let digits := (c :: more).takeWhile Char.isDigit
        let letters := (c :: more).drop digits.length
        let unit := letters.filter fun c => c == 'b' || c == 'k' || c == 'm'
        let isOctets := letters.contains 'c' || !unit.isEmpty
        let others := letters.filter fun c => c == 'q' || c == 'v' || c == 'z'
        let plain := letters.all fun c => "ckbmlqvz".toList.contains c
        if plain then
          (if others.isEmpty then [] else ["-" ++ String.ofList others]) ++
            [(if isOctets then "-c" else "-n") ++ String.ofList (digits ++ unit)] ++ rest
        else words
      else words
    | _ => words

/-- The tool `head`. -/
def head : Doing Unit := do
  modify fun j => { j with call := { j.call with arguments := expandCount j.call.arguments } }
  let p ← headOptions.parsed
  let mark := p.mark
  let extent ← match p.options.reverse.find? fun (c, _) => c == 'c' || c == 'n' with
    | some (c, text) => extentFrom (c == 'c') '-' '+' text
    | none => pure {}
  let c ← Doing.call
  let mut first := true
  for path in p.sources do
    let partly := path == "-" && !c.inputEnded && extent.isIn mark c.input.toList
    let text ← if partly then pure (.ok c.input) else operandText path
    match text with
    | .error e =>
      if ← unreadablePart p.withNames first path e then first := false
    | .ok text =>
      writeHeading p.withNames first path
      let (front, rest) := extent.front mark text.toList
      if path == "-" then modify fun j => { j with unused := rest.length }
      Doing.write (String.ofList front)
      first := false

def tailOptions : Options where
  letters := "c:n:fFqvz\x01:s:\x02\x03::"
  names := [("bytes", 'c'), ("lines", 'n'), ("quiet", 'q'), ("silent", 'q'), ("verbose", 'v'),
    ("zero-terminated", 'z'), ("pid", '\x01'), ("sleep-interval", 's'), ("retry", '\x02'),
    ("follow", '\x03')]

/-- The options of the older form, which is one word with a number in it. -/
def olderTailOptions? (words : List String) : Option (List String × List String) :=
  let read (w : String) : Option (List String) :=
    match w.toList with
    | sign :: s =>
      let digits := s.takeWhile Char.isDigit
      let rest := s.drop digits.length
      let (unit, rest) := match rest with
        | 'b' :: rest => ("-cb", rest)
        | 'c' :: rest => ("-c", rest)
        | 'l' :: rest => ("-n", rest)
        | rest => ("-n", rest)
      let follows := rest == ['f']
      let digits := if digits.isEmpty then "10" else String.ofList digits
      if (sign == '+' || sign == '-') && (rest.isEmpty || follows) && 1 < w.length &&
          (sign == '+' || s.head?.any fun c => c.isDigit) then
        let count := if unit == "-cb" then toString ((count? digits).getD 0 * 512) else digits
        some ([if unit == "-n" then "-n" else "-c", (if sign == '+' then "+" else "-") ++ count] ++
          (if follows then ["-f"] else []))
      else none
    | [] => none
  match words with
  | [w] => (read w).map fun options => (options, [])
  | [w, path] =>
    if path.startsWith "-" && path != "-" && path != "--" then none
    else (read w).map fun options => (options, [path])
  | [w, "--", path] => (read w).map fun options => (options, [path])
  | _ => none

/-- The tool `tail`. -/
def tail : Doing Unit := do
  let words := (← Doing.call).arguments
  match olderTailOptions? words with
  | some (options, operands) =>
    modify fun j => { j with call := { j.call with arguments := options ++ "--" :: operands } }
  | none =>
    match words.head?.map String.toList with
    | some ('-' :: c :: _) =>
      if c.isDigit then
        Doing.complain ("option used in invalid context -- " ++ c.toString)
        Doing.quit 1
    | _ => pure ()
  let p ← tailOptions.parsed
  let mark := p.mark
  let extent ← match p.options.reverse.find? fun (c, _) => c == 'c' || c == 'n' with
    | some (c, text) => extentFrom (c == 'c') '+' '-' text
    | none => pure {}
  let mut first := true
  for path in p.sources do
    match ← operandText path with
    | .error e =>
      if ← unreadablePart p.withNames first path e then first := false
    | .ok text =>
      writeHeading p.withNames first path
      Doing.write (String.ofList (extent.back mark text.toList))
      first := false
  let follows := p.has 'f' || p.has 'F' || p.has '\x03'
  if follows && (p.operands.any (· != "-")) then
    let j ← get
    throw (.asks j.disk j.chunks.reverse ["sleep", "infinity"] fun _ d => .ended d [] 0 0)

/-! ## Numbered and folded lines -/

def numberOptions : Options where
  letters := "b:d:f:h:i:l:n:ps:v:w:"
  names := [("body-numbering", 'b'), ("section-delimiter", 'd'), ("footer-numbering", 'f'),
    ("header-numbering", 'h'), ("line-increment", 'i'), ("join-blank-lines", 'l'),
    ("number-format", 'n'), ("no-renumber", 'p'), ("number-separator", 's'),
    ("starting-line-number", 'v'), ("number-width", 'w')]

/-- A number that an option gives, or how it is refused. -/
def Parsed.number (p : Parsed) (letter : Char) (standard : Nat) (refused : String) : Doing Nat := do
  match p.last? letter with
  | none => pure standard
  | some s =>
    match count? s with
    | some n => pure n
    | none => do
      Doing.complain (refused ++ ": " ++ quotedText s)
      Doing.quit 1

/-- The tool `nl`. -/
def nl : Doing Unit := do
  let p ← numberOptions.parsed
  let width ← p.number 'w' 6 "invalid line number field width"
  let step ← p.number 'i' 1 "invalid line number increment"
  let start ← p.number 'v' 1 "invalid starting line number"
  let separator := (p.last? 's').getD "\t"
  let style := (p.last? 'b').getD "t"
  let shape := (p.last? 'n').getD "rn"
  let mut number := start
  for path in p.sources do
    match ← operandText path with
    | .error e => unreadable path e
    | .ok text =>
      for line in linesOf text do
        if style == "a" || (style == "t" && !line.isEmpty) then
          let digits := toString number
          let shown := match shape with
            | "ln" => padRight width digits
            | "rz" => String.ofList (List.replicate (width - digits.length) '0') ++ digits
            | _ => padLeft width digits
          Doing.writeLine (shown ++ separator ++ line)
          number := number + step
        else
          Doing.writeLine (padLeft (width + separator.length) "" ++ line)

/-- Where a character ends that begins in a column. -/
def columnAfter (octets : Bool) (column : Nat) (c : Char) : Nat :=
  if octets then column + 1
  else match c with
    | '\x08' => column - 1
    | '\r' => 0
    | '\t' => column + (8 - column % 8)
    | _ => column + 1

/-- Breaks a line that is wider than it may be; `part` is what stands in the
line so far, backwards. -/
def foldLine (width : Nat) (octets atBlanks : Bool) : (fuel : Nat) → (column : Nat) →
    (part : List Char) → List Char → List Char
  | 0, _, part, s => part.reverse ++ s
  | _, _, part, [] => part.reverse
  | fuel + 1, column, part, c :: rest =>
    if c == '\n' then part.reverse ++ '\n' :: foldLine width octets atBlanks fuel 0 [] rest
    else
      let next := columnAfter octets column c
      if next ≤ width || part.isEmpty then
        foldLine width octets atBlanks fuel next (c :: part) rest
      else
        let isBlank (c : Char) : Bool := c == ' ' || c == '\t'
        let behind := part.takeWhile (!isBlank ·)
        if atBlanks && behind.length < part.length then
          let line := (part.drop behind.length).reverse
          let column := behind.reverse.foldl (columnAfter octets) 0
          line ++ '\n' :: foldLine width octets atBlanks fuel column behind (c :: rest)
        else part.reverse ++ '\n' :: foldLine width octets atBlanks fuel 0 [] (c :: rest)

def foldOptions : Options where
  letters := "bsw:0123456789"
  names := [("bytes", 'b'), ("spaces", 's'), ("width", 'w')]

/-- The tool `fold`. -/
def foldTool : Doing Unit := do
  let words := (← Doing.call).arguments.map fun w =>
    match w.toList with
    | '-' :: s => if !s.isEmpty && s.all Char.isDigit then "-w" ++ String.ofList s else w
    | _ => w
  modify fun j => { j with call := { j.call with arguments := words } }
  let p ← foldOptions.parsed
  let width ← p.number 'w' 80 "invalid number of columns"
  if width == 0 then
    Doing.complain "invalid number of columns: '0': Numerical result out of range"
    Doing.quit 1
  for path in p.sources do
    match ← operandText path with
    | .error e => unreadable path e
    | .ok text =>
      let s := text.toList
      Doing.write (String.ofList (foldLine width (p.has 'b') (p.has 's') (2 * s.length + 2) 0 [] s))

/-! ## Counts -/

/-- What is counted in a text, in the order in which it is told. -/
structure Counts where
  lines : Nat := 0
  words : Nat := 0
  octets : Nat := 0
  longest : Nat := 0

def Counts.add (a b : Counts) : Counts :=
  ⟨a.lines + b.lines, a.words + b.words, a.octets + b.octets, max a.longest b.longest⟩

def isSpaceChar (c : Char) : Bool := c == ' ' || ('\t' ≤ c && c ≤ '\r')

def Counts.of (text : String) : Counts :=
  let s := text.toList
  let words := (s.foldl (fun (n, inside) c =>
    if isSpaceChar c then (n, false) else (if inside then n else n + 1, true)) (0, false)).1
  let widths := (s.splitOn '\n').map fun l => l.foldl (fun n c =>
    if c == '\t' then columnAfter false n c else if c.toNat < 32 || 126 < c.toNat then n else n + 1) 0
  ⟨s.count '\n', words, s.length, widths.foldl max 0⟩

def countOptions : Options where
  letters := "clLmw\x01:\x02:"
  names := [("bytes", 'c'), ("chars", 'm'), ("lines", 'l'), ("max-line-length", 'L'),
    ("words", 'w'), ("total", '\x01'), ("files0-from", '\x02')]

/-- The tool `wc`. -/
def wc : Doing Unit := do
  let p ← countOptions.parsed
  let c ← Doing.call
  let anything := ['l', 'w', 'm', 'c', 'L'].any p.has
  let shows (letter : Char) : Bool := p.has letter || (!anything && letter != 'm' && letter != 'L')
  let columns := ['l', 'w', 'm', 'c', 'L'].filter shows
  let shown (width : Nat) (n : Counts) (name : String) : String :=
    let fields := columns.map fun letter => padLeft width (toString (match letter with
      | 'l' => n.lines
      | 'w' => n.words
      | 'L' => n.longest
      | _ => n.octets))
    " ".intercalate fields ++ (if name.isEmpty then "" else " " ++ name)
  let kinds ← p.sources.mapM fun path =>
    if path == "-" then
      pure (if c.inputFile.isSome then some (some (c.inputFile.getD 0)) else some none)
    else Doing.look fun d place => match d.lookup (pathOf path) true place with
      | .ok (_, .file n) => some (some n)
      | .ok _ => some none
      | .error _ => none
  let width ← if p.sources.length == 1 && columns.length == 1 then pure 1
    else Doing.look fun d _ =>
      let sizes := kinds.map fun k => match k with
        | some (some n) => some (((d.file? n).map fun f => f.content.octets.length).getD 0)
        | some none => none
        | none => some 0
      if sizes.contains none then 7
      else (toString (sizes.foldl (fun n s => n + s.getD 0) 0)).length
  let mut total : Counts := {}
  for path in p.sources do
    let name := if p.operands.isEmpty then "" else path
    match ← operandText path with
    | .error e => do
      unreadable path e
      if e == .isADirectory then Doing.writeLine (shown width {} name)
    | .ok text =>
      let n := Counts.of text
      total := total.add n
      if p.last? '\x01' != some "only" then Doing.writeLine (shown width n name)
  let showsTotal := match p.last? '\x01' with
    | some "never" => false
    | some "always" | some "only" => true
    | _ => 1 < p.operands.length
  if showsTotal then
    if p.last? '\x01' == some "only" then Doing.writeLine (shown 1 total "")
    else Doing.writeLine (shown width total "total")

end ProxySync.Tool
