import ProxySync.Tool.Sed.Script

/-!
# Running editing scripts

A script is run for each line: the line in work may be changed, joined with
others and put aside, and what is left of it is written at the end.
-/

namespace ProxySync.Tool.Sed

open Files Text

/-- A line of the input, and whether a line break ends it. -/
structure Line where
  text : String
  ended : Bool := true

def linesWithEnds (separator : Char) (s : String) : List Line :=
  let lines := (s.toList.splitOn separator).map String.ofList
  let whole := (lines.dropLast).map fun l => (⟨l, true⟩ : Line)
  match lines.getLast? with
  | some last => if last.isEmpty then whole else whole ++ [⟨last, false⟩]
  | none => whole

/-! ## Editing -/

/-- Where a command's range of lines is. -/
inductive RangeState where
  | outside
  /-- Up to a line, or as far as the end says. -/
  | inside (stop : Option Nat)
  | over
deriving DecidableEq

structure Edit where
  script : Array Instruction
  quiet : Bool
  extended : Bool
  separator : Char := '\n'
  /-- The lines to come. Where files are apart, those of the other files are
  not among them. -/
  lines : List Line
  number : Nat := 0
  work : String := ""
  workEnded : Bool := true
  kept : String := ""
  /-- Something was replaced since the line was read. -/
  replaced : Bool := false
  /-- What is written behind the line. -/
  behind : List String := []
  out : List String := []
  /-- The last line written lacks its line break. -/
  unended : Bool := false
  ranges : List (Nat × RangeState) := []
  lastRegex : Option (Regex × Bool) := none
  /-- What is written to other files, the last part first. -/
  others : List (String × String) := []
  /-- What can be read from other files, and what is left of those read by
  lines. -/
  readable : String → Option String
  partly : List (String × List String) := []
  name : String := "-"
  stop : Option Nat := none
  fault : Option String := none

namespace Edit

def isLast (e : Edit) : Bool := e.lines.isEmpty

/-- Writes a text, after the line break that may be missing. -/
def writeRaw (e : Edit) (s : String) : Edit :=
  if s.isEmpty then e
  else
    let missing := if e.unended then [e.separator.toString] else []
    { e with out := s :: missing ++ e.out, unended := false }

def writeLine (e : Edit) (s : String) (ended : Bool) : Edit :=
  let e := { e.writeRaw (if ended || !s.isEmpty then s ++ (if ended then e.separator.toString else "")
    else "") with unended := !ended }
  e

def writeWork (e : Edit) : Edit := e.writeLine e.work e.workEnded

/-- Writes a line to another file, or to the output. -/
def writeTo (e : Edit) (path s : String) : Edit :=
  if path == "/dev/stdout" then e.writeLine s true
  else { e with others := (path, s ++ "\n") :: e.others }

/-- Writes what was to be written behind the line. -/
def flush (e : Edit) : Edit :=
  { e.behind.foldl writeRaw e with behind := [] }

/-- Ends the work on a line. -/
def endLine (e : Edit) (prints : Bool) : Edit :=
  (if prints && !e.quiet then e.writeWork else e).flush

/-- Takes the next line, if there is one. -/
def takeLine (e : Edit) : Option (Line × Edit) :=
  match e.lines with
  | [] => none
  | l :: rest => some (l, { e with lines := rest, number := e.number + 1 })

/-! ### Selecting -/

/-- The expression that is meant, and whether it is found in the line. -/
def finds (e : Edit) (r : Option Regex) (foldCase : Bool) : Bool × Edit :=
  match (r.map fun r => (r, foldCase)).orElse fun () => e.lastRegex with
  | some (r, fold) => (r.isIn fold e.work, { e with lastRegex := some (r, fold) })
  | none => (false, { e with fault := some "no previous regular expression" })

def isAt (e : Edit) : Address → Bool × Edit
  | .line n => (e.number == n, e)
  | .last => (e.isLast, e)
  | .every first step =>
    (if step == 0 then e.number == first
      else first ≤ e.number && (e.number - first) % step == 0, e)
  | .found r foldCase => e.finds r foldCase

def rangeState (e : Edit) (place : Nat) : RangeState := (e.ranges.lookup place).getD .outside

def setRange (e : Edit) (place : Nat) (s : RangeState) : Edit :=
  { e with ranges := (place, s) :: e.ranges.filter (·.1 != place) }

/-- The command is for the line, not looking at whether it is negated. -/
def selected (e : Edit) (place : Nat) (s : Selector) : Bool × Edit :=
  match s.first, s.last with
  | none, _ => (true, e)
  | some first, none => e.isAt first
  | some first, some last =>
    let begins : Bool × Edit :=
      match first, last with
      | .line 0, _ =>
        if e.rangeState place == .over then (false, e)
        else if e.rangeState place == .outside && e.number == 1 then (true, e)
        else (false, e)
      | .line n, _ => (e.number == n, e)
      | first, _ => e.isAt first
    match e.rangeState place with
    | .inside stop =>
      match last with
      | .at (.line n) =>
        if e.number < n then (true, e)
        else (e.number == n, e.setRange place .outside)
      | .at a =>
        let (found, e) := e.isAt a
        (true, if found then e.setRange place .over else e)
      | .after _ | .multiple _ =>
        let ended := stop.all (· ≤ e.number)
        (true, if ended then e.setRange place .outside else e)
    | _ =>
      let (starts, e) := begins
      if !starts then (false, e)
      else
        match first, last with
        | .line 0, .at a =>
          let (found, e) := e.isAt a
          (true, e.setRange place (if found then .over else .inside none))
        | _, .at (.line n) => (true, if n ≤ e.number then e else e.setRange place (.inside none))
        | _, .at _ => (true, e.setRange place (.inside none))
        | _, .after n =>
          (true, if n == 0 then e else e.setRange place (.inside (some (e.number + n))))
        | _, .multiple n =>
          if n == 0 || e.number % n == 0 then (true, e)
          else (true, e.setRange place (.inside (some ((e.number / n + 1) * n))))

/-! ### Substituting -/

/-- How letters are written: all of them, and the next one. -/
structure Letters where
  all : Option Char := none
  next : Option Char := none

def written (l : Letters) (s : String) : String × Letters :=
  let whole (s : String) : String := match l.all with
    | some 'U' => s.map Char.toUpper
    | some 'L' => s.map Char.toLower
    | _ => s
  match s.toList, l.next with
  | c :: rest, some mode =>
    let c := if mode == 'u' then c.toUpper else c.toLower
    (c.toString ++ whole (String.ofList rest), { l with next := none })
  | _, _ => (whole s, l)

/-- What takes the place of a match. -/
def replacementText (parts : List Replacement) (t : Subject) (m : Match) : String :=
  String.join (parts.foldl (fun (done, l) part =>
    match part with
    | .letters mode =>
      let l : Letters := if mode == 'u' || mode == 'l' then { l with next := some mode }
        else if mode == 'E' then {} else { all := some mode, next := l.next }
      (done, l)
    | .text s =>
      let (s, l) := written l s
      (s :: done, l)
    | .group n =>
      let (s, l) := written l (m.group t n)
      (s :: done, l)) (([] : List String), ({} : Letters))).1.reverse

/-- Replaces matches from a place on. `count` matches were found before. -/
def substituteFrom (s : Substitution) (r : Regex) (t : Subject) : (fuel : Nat) → (start : Nat) →
    (count : Nat) → (lastStop : Option Nat) → (done : List String) → (any : Bool) →
    List String × Bool
  | 0, start, _, _, done, any => (t.slice start t.chars.size :: done, any)
  | fuel + 1, start, count, lastStop, done, any =>
    if t.chars.size < start then (done, any)
    else
      match r.find? t start with
      | none => (t.slice start t.chars.size :: done, any)
      | some m =>
        let done := t.slice start m.start :: done
        let isEmpty := m.stop == m.start
        let after := t.slice m.stop (m.stop + 1)
        if isEmpty && lastStop == some m.start then
          if t.chars.size ≤ m.stop then (done, any)
          else substituteFrom s r t fuel (m.stop + 1) count none (after :: done) any
        else
          let count := count + 1
          let replaces := count == s.number || (s.every && s.number ≤ count)
          let text := if replaces then replacementText s.parts t m else t.slice m.start m.stop
          let done := text :: done
          let any := any || replaces
          let goesOn := s.every || count < s.number
          if !goesOn then (t.slice m.stop t.chars.size :: done, any)
          else if isEmpty then
            if t.chars.size ≤ m.stop then (done, any)
            else substituteFrom s r t fuel (m.stop + 1) count none (after :: done) any
          else substituteFrom s r t fuel m.stop count (some m.stop) done any

def substitute (e : Edit) (s : Substitution) : Edit :=
  match (s.regex.map fun r => (r, s.foldCase)).orElse fun () => e.lastRegex with
  | none => { e with fault := some "no previous regular expression" }
  | some (r, fold) =>
    let t : Subject := { chars := e.work.toList.toArray, foldCase := fold }
    let (done, any) := substituteFrom s r t (2 * t.chars.size + 4) 0 0 none [] false
    let e := { e with lastRegex := some (r, fold) }
    if !any then e
    else
      let e := { e with work := String.join done.reverse, replaced := true }
      let e := if s.prints then e.writeWork else e
      match s.target with
      | some path => e.writeTo path e.work
      | none => e

/-! ### Commands -/

/-- The line in a form in which all characters can be seen. -/
def listed (s : String) (width : Nat) : String :=
  let shown (c : Char) : String := match c with
    | '\\' => "\\\\"
    | '\x07' => "\\a"
    | '\x08' => "\\b"
    | '\x0c' => "\\f"
    | '\n' => "\\n"
    | '\r' => "\\r"
    | '\t' => "\\t"
    | '\x0b' => "\\v"
    | c =>
      if 32 ≤ c.toNat && c.toNat < 127 then c.toString
      else
        let digits := Nat.toDigits 8 c.toNat
        "\\" ++ "".pushn '0' (3 - digits.length) ++ String.ofList digits
  let step (state : List String × Nat) (c : Char) : List String × Nat :=
    let text := shown c
    if 1 < width && width ≤ state.2 + text.length then (text :: "\\\n" :: state.1, text.length)
    else (text :: state.1, state.2 + text.length)
  String.join ((s.toList.foldl step (([] : List String), 0)).1.reverse) ++ "$\n"

def firstLine (s : String) : String := String.ofList (s.toList.takeWhile (· != '\n'))

/-- Where the run of the script goes on. -/
inductive Next where
  | at (place : Nat)
  /-- The end of the script; the line may still be written. -/
  | done (prints : Bool)
  /-- From the start, without taking another line. -/
  | again

def labelPlace (e : Edit) (name : String) : Next :=
  if name.isEmpty then .done true
  else
    match e.script.findIdx? fun i => match i.action with
      | .label n => n == name
      | _ => false with
    | some i => .at (i + 1)
    | none => .done true

/-- Runs one command of one letter. -/
def simple (e : Edit) (letter : Char) (place : Nat) : Edit × Next :=
  let next : Next := .at (place + 1)
  match letter with
  | '=' => (e.writeRaw (toString e.number ++ "\n"), next)
  | 'd' => (e, .done false)
  | 'D' =>
    if e.work.toList.contains '\n' then
      let rest := (e.work.toList.dropWhile (· != '\n')).drop 1
      ({ e.flush with work := String.ofList rest }, .again)
    else (e, .done false)
  | 'g' => ({ e with work := e.kept }, next)
  | 'G' => ({ e with work := e.work ++ "\n" ++ e.kept }, next)
  | 'h' => ({ e with kept := e.work }, next)
  | 'H' => ({ e with kept := e.kept ++ "\n" ++ e.work }, next)
  | 'x' => ({ e with work := e.kept, kept := e.work }, next)
  | 'z' => ({ e with work := "" }, next)
  | 'F' => (e.writeRaw (e.name ++ "\n"), next)
  | 'p' => (e.writeWork, next)
  | 'P' => (e.writeLine (firstLine e.work) true, next)
  | 'n' =>
    let e' := if e.quiet then e else e.writeWork
    match e'.takeLine with
    | some (l, e) => ({ e.flush with work := l.text, workEnded := l.ended }, next)
    | none => ({ e with stop := some 0 }, .done true)
  | 'N' =>
    match e.takeLine with
    | some (l, e) =>
      ({ e.flush with work := e.work ++ "\n" ++ l.text, workEnded := l.ended }, next)
    | none => ({ e with stop := some 0 }, .done true)
  | _ => (e, next)

/-- Runs the command at a place. -/
def perform (e : Edit) (i : Instruction) (place : Nat) : Edit × Next :=
  let next : Next := .at (place + 1)
  match i.action with
  | .block _ | .blockEnd | .label _ => (e, next)
  | .substitute s => (e.substitute s, next)
  | .translate pairs =>
    ({ e with work := e.work.map fun c => (pairs.lookup c).getD c }, next)
  | .append text => ({ e with behind := e.behind ++ [text] }, next)
  | .insert text => (e.writeRaw text, next)
  | .change text =>
    let isInside := match i.selector.last with
      | some _ => !i.selector.negated && (match e.rangeState place with
          | .inside _ => true
          | _ => false)
      | none => false
    let text := if text == "\n" then "" else text
    (if isInside && !e.isLast then e else e.writeRaw text, .done false)
  | .jump kind name =>
    let jumps := kind == 'b' || (kind == 't') == e.replaced
    let e := if kind == 'b' then e else { e with replaced := false }
    (e, if jumps then e.labelPlace name else next)
  | .quit silent status => ({ e with stop := some status }, .done (!silent))
  | .readFile path =>
    match e.readable path with
    | some text => ({ e with behind := e.behind ++ [text] }, next)
    | none => (e, next)
  | .readLine path =>
    let lines := (e.partly.lookup path).getD (((e.readable path).map linesOf).getD [])
    match lines with
    | [] => (e, next)
    | l :: rest =>
      ({ e with
        behind := e.behind ++ [l ++ "\n"]
        partly := (path, rest) :: e.partly.filter (·.1 != path) }, next)
  | .writeFile path first => (e.writeTo path (if first then firstLine e.work else e.work), next)
  | .list width => (e.writeRaw (listed e.work (width.getD 70)), next)
  | .simple letter => e.simple letter place

/-- Runs the script. Steps that are not used up are given back. -/
def run : (fuel : Nat) → Edit → (place : Nat) → Edit × Nat
  | 0, e, _ => (e, 0)
  | fuel + 1, e, place =>
    if e.fault.isSome then (e, fuel)
    else
      match e.script[place]? with
      | none => finish fuel e true
      | some i =>
        let (holds, e) := e.selected place i.selector
        if holds == i.selector.negated then
          match i.action with
          | .block stop => run fuel e (stop + 1)
          | _ => run fuel e (place + 1)
        else
          match e.perform i place with
          | (e, .at place) => run fuel e place
          | (e, .done prints) => finish fuel e prints
          | (e, .again) => run fuel e 0
where
  /-- Ends a line and begins the next one. -/
  finish (fuel : Nat) (e : Edit) (prints : Bool) : Edit × Nat :=
    let e := e.endLine prints
    if e.stop.isSome then (e, fuel + 1)
    else
      match e.takeLine with
      | none => (e, fuel + 1)
      | some (l, e) =>
        run fuel { e with work := l.text, workEnded := l.ended, replaced := false } 0

/-- Runs the script on all lines. -/
def runAll (fuel : Nat) (e : Edit) : Edit × Nat :=
  match e.takeLine with
  | none => (e, fuel)
  | some (l, e) => run fuel { e with work := l.text, workEnded := l.ended, replaced := false } 0

def output (e : Edit) : String := String.join e.out.reverse

end Edit

/-! ## The tool -/

def options : Options where
  letters := "ne:f:i::l:ErszuN\x01\x02\x03\x04"
  names := [("quiet", 'n'), ("silent", 'n'), ("expression", 'e'), ("file", 'f'),
    ("in-place", 'i'), ("line-length", 'l'), ("regexp-extended", 'E'), ("separate", 's'),
    ("null-data", 'z'), ("unbuffered", 'u'), ("posix", '\x01'), ("follow-symlinks", '\x02'),
    ("sandbox", '\x03'), ("debug", '\x04')]

/-- How many commands a run may perform. -/
def commandLimit : Nat := 1000000

/-- The path of the copy of a file that is kept. -/
def backupPath (path suffix : String) : String :=
  if suffix.toList.contains '*' then
    let name := (fileName? path).getD path
    let new := suffix.replace "*" name
    if new.toList.contains '/' then new else
      let folder := path.toList.take (path.length - name.length)
      String.ofList folder ++ new
  else path ++ suffix

/-- Writes a text to a file, for all lines that were written to it. -/
def writeOthers (others : List (String × String)) : Doing Unit := do
  let paths := (others.map (·.1)).eraseDups
  for path in paths do
    let text := String.join ((others.filter (·.1 == path)).map (·.2)).reverse
    if path == "/dev/stderr" then
      modify fun j => { j with chunks := (2, text) :: j.chunks }
    else
      let place := (← Doing.call).place
      let _ ← Doing.onDisk fun d => d.write (pathOf path) (.ofOctets text) 0o644 place

/-- Empties the files that a script writes to. -/
def emptyTargets (script : List Instruction) : Doing Unit := do
  let targets := script.filterMap fun i => match i.action with
    | .writeFile path _ => some path
    | .substitute s => s.target
    | _ => none
  for path in targets do
    if !path.startsWith "/dev/std" then
      let place := (← Doing.call).place
      match ← Doing.onDisk fun d => d.write (pathOf path) (.text "") 0o644 place with
      | .ok () => pure ()
      | .error e => do
        Doing.complain ("couldn't open file " ++ path ++ ": " ++ e.reason)
        Doing.quit 4

/-- The expressions of the words, and the files. -/
def scriptText (p : Parsed) : Doing (String × List String) := do
  let given ← p.options.filterMapM fun (c, a) => do
    if c == 'e' then pure (some a)
    else if c == 'f' then
      match ← operandText a with
      | .ok text => pure (some (if endsInBreak text then String.ofList text.toList.dropLast else text))
      | .error e => do
        Doing.complain ("couldn't open file " ++ a ++ ": " ++ e.reason)
        Doing.quit 1
    else pure none
  if p.has 'e' || p.has 'f' then pure ("\n".intercalate given, p.operands)
  else
    match p.operands with
    | [] => do
      let c ← Doing.call
      modify fun j => { j with chunks := (2, "Usage: " ++ c.name ++
        " [OPTION]... \x7bscript-only-if-no-other-script\x7d [input-file]...\n") :: j.chunks }
      Doing.quit 1
    | first :: rest => pure (first, rest)

end Sed

open Sed in
/-- The tool `sed`. -/
def sed : Doing Unit := do
  let p ← Sed.options.parsedOr fun s => do
    let c ← Doing.call
    Doing.complain s
    modify fun j => { j with chunks := (2, "Usage: " ++ c.name ++
      " [OPTION]... \x7bscript-only-if-no-other-script\x7d [input-file]...\n") :: j.chunks }
    Doing.quit 1
  let (text, operands) ← scriptText p
  let extended := p.has 'E' || p.has 'r'
  let quiet := p.has 'n' || text.startsWith "#n\n" || text == "#n"
  let separator := if p.has 'z' then '\x00' else '\n'
  let script ← match readScript text extended with
    | .ok script => pure script
    | .error message => do
      Doing.complain message
      Doing.quit 1
  emptyTargets script
  let c ← Doing.call
  let start ← get
  let edit : Edit := {
    script := script.toArray
    quiet := quiet
    extended := extended
    separator := separator
    lines := []
    readable := fun path => match fileText start.disk c.place path with
      | .ok text => some (if path == "/dev/stdin" then c.input else text)
      | .error _ => none }
  let inPlace := p.last? 'i'
  let apart := inPlace.isSome || p.has 's'
  if inPlace.isSome && operands.isEmpty then
    Doing.complain "no input files"
    Doing.quit 4
  let operands := if operands.isEmpty then ["-"] else operands
  let mut texts : List (String × String) := []
  for path in operands do
    match ← operandText path with
    | .ok text => texts := texts ++ [(path, text)]
    | .error .isADirectory =>
      if inPlace.isSome then
        Doing.complain ("couldn't edit " ++ path ++ ": not a regular file")
        Doing.fail 4
      else
        Doing.complain ("read error on " ++ path ++ ": Is a directory")
        Doing.quit 4
    | .error e => do
      Doing.complain ("can't read " ++ path ++ ": " ++ e.reason)
      Doing.fail 2
  let report (e : Edit) : Doing Unit := do
    match e.fault with
    | some message => do
      Doing.complain message
      Doing.quit 1
    | none => pure ()
  if !apart then
    let lines := texts.foldl (fun lines (_, text) =>
      (lines.map fun l => { l with ended := true }) ++ linesWithEnds separator text) []
    let (e, left) := { edit with lines := lines }.runAll commandLimit
    report e
    Doing.write e.output
    writeOthers e.others
    if left == 0 then throw (.sleeps none)
    match e.stop with
    | some status => if status != 0 then Doing.quit status
    | none => pure ()
  else
    let mut edit := edit
    let mut stopped := false
    for (path, text) in texts do
      if !stopped then
        let e := { edit with
          lines := linesWithEnds separator text, number := 0, out := [], unended := false
          name := path, ranges := [] }
        let (e, left) := e.runAll commandLimit
        report e
        if left == 0 then throw (.sleeps none)
        let rest := if e.stop.isSome && inPlace.isSome then
            String.join (e.lines.map fun l => l.text ++ (if l.ended then separator.toString else ""))
          else ""
        match inPlace with
        | some suffix => do
          if !suffix.isEmpty then
            let _ ← Doing.onDisk fun d => d.write (pathOf (backupPath path suffix)) (.ofOctets text)
              0o644 c.place
          match ← Doing.onDisk fun d => d.replaceFile (pathOf path) (.ofOctets (e.output ++ rest))
              c.place with
          | .ok () => pure ()
          | .error fault => Doing.refuse ("couldn't edit " ++ path ++ ": " ++ fault.reason) 4
        | none => Doing.write e.output
        edit := { e with behind := [] }
        if e.stop.isSome then stopped := true
    writeOthers edit.others
    match edit.stop with
    | some status => if status != 0 then Doing.quit status
    | none => pure ()

end ProxySync.Tool
