import ProxySync.Text.RegexReader
import ProxySync.Tool.Tree

/-!
# Searching lines

The tool `grep` selects the lines of files in which one of its patterns
matches, or those in which none does.
-/

namespace ProxySync.Tool

open Files Text

namespace Grep

def options : Options where
  letters := "EFGPe:f:iywxclLqsnbHhom:A:B:C:rRzaIUvTZV\x01:\x02:\x03:\x04::\x05\x06:\x07:" ++
    "0123456789D:d:"
  names := [("extended-regexp", 'E'), ("fixed-strings", 'F'), ("basic-regexp", 'G'),
    ("perl-regexp", 'P'), ("regexp", 'e'), ("file", 'f'), ("ignore-case", 'i'),
    ("word-regexp", 'w'), ("line-regexp", 'x'), ("count", 'c'), ("files-with-matches", 'l'),
    ("files-without-match", 'L'), ("quiet", 'q'), ("silent", 'q'), ("no-messages", 's'),
    ("line-number", 'n'), ("byte-offset", 'b'), ("with-filename", 'H'), ("no-filename", 'h'),
    ("only-matching", 'o'), ("max-count", 'm'), ("after-context", 'A'), ("before-context", 'B'),
    ("context", 'C'), ("recursive", 'r'), ("dereference-recursive", 'R'), ("null-data", 'z'),
    ("text", 'a'), ("binary", 'U'), ("invert-match", 'v'), ("initial-tab", 'T'), ("null", 'Z'),
    ("include", '\x01'), ("exclude", '\x02'), ("exclude-dir", '\x03'), ("color", '\x04'),
    ("colour", '\x04'), ("line-buffered", '\x05'), ("label", '\x06'), ("binary-files", '\x07')]

/-- What is searched for, and how. -/
structure Search where
  patterns : List Regex
  foldCase : Bool
  words : Bool
  wholeLines : Bool
  inverted : Bool

/-- The match at a place that also ends at the borders of words. -/
def wordMatch? (r : Regex) (t : Subject) (i : Nat) : Option Match :=
  let isWord (c? : Option Char) : Bool := c?.any isWordChar
  let before := if i == 0 then none else t.char? (i - 1)
  if isWord before then none
  else
    let found := (r.ends t r.hasAgain { place := i }).filter fun f => !isWord (t.char? f.place)
    let longest (best : Option Found) (f : Found) : Option Found :=
      match best with
      | some b => if b.place < f.place then some f else some b
      | none => some f
    (found.foldl longest none).map fun f => ⟨i, f.place, f.groups⟩

/-- The first match of any pattern from a place on, the longest of those that
start together. -/
def Search.find? (s : Search) (t : Subject) (start : Nat) : Option Match :=
  let at_ (i : Nat) (r : Regex) : Option Match :=
    if s.wholeLines then
      if i == 0 then
        let isWhole (f : Found) : Bool := f.place == t.chars.size
        ((r.ends t r.hasAgain { place := 0 }).find? isWhole).map fun f => ⟨0, f.place, f.groups⟩
      else none
    else if s.words then wordMatch? r t i
    else r.matchAt? t i
  let best (i : Nat) : Option Match :=
    (s.patterns.filterMap (at_ i)).foldl (fun b m => match b with
      | some x => if x.stop < m.stop then some m else some x
      | none => some m) none
  (List.range' start (t.chars.size + 1 - start)).findSome? best

def Search.subject (s : Search) (line : String) : Subject :=
  { chars := line.toList.toArray, foldCase := s.foldCase }

def Search.selects (s : Search) (line : String) : Bool :=
  (s.find? (s.subject line) 0).isSome != s.inverted

/-- All matches in a line that are not empty. -/
def Search.parts (s : Search) (t : Subject) : (fuel : Nat) → (start : Nat) → List Match
  | 0, _ => []
  | fuel + 1, start =>
    match s.find? t start with
    | none => []
    | some m =>
      if m.stop == m.start then
        if t.chars.size ≤ m.start then [] else s.parts t fuel (m.start + 1)
      else m :: s.parts t fuel m.stop

/-- How what was found is shown. -/
structure Shape where
  count : Bool
  names : Bool
  missing : Bool
  quiet : Bool
  numbers : Bool
  offsets : Bool
  onlyParts : Bool
  withNames : Bool
  limit : Option Nat
  before : Nat
  after : Nat
  anyText : Bool
  separator : Char

/-- A line with its number and its place in the text. -/
structure Line where
  number : Nat
  offset : Nat
  text : String

def linesWithPlaces (separator : Char) (text : String) : List Line :=
  let lines := (text.toList.splitOn separator).map String.ofList
  let lines := if lines.getLast? == some "" then lines.dropLast else lines
  (lines.foldl (fun (ls, n, offset) l =>
    (⟨n, offset, l⟩ :: ls, n + 1, offset + l.length + 1)) (([] : List Line), 1, 0)).1.reverse

/-- The lines with whether they are selected, up to the limit on those that
are. What follows the last selected one is kept for its context. -/
def judged (s : Search) (limit : Option Nat) : List Line → (done : Nat) → List (Line × Bool)
  | [], _ => []
  | l :: rest, done =>
    if limit.any (· ≤ done) then (l :: rest).map fun l => (l, false)
    else
      let holds := s.selects l.text
      (l, holds) :: judged s limit rest (if holds then done + 1 else done)

/-- What stands in front of a shown line. -/
def lineLead (shape : Shape) (name : String) (mark : String) (l : Line) (offset : Nat) : String :=
  (if shape.withNames then name ++ mark else "") ++
    (if shape.numbers then toString l.number ++ mark else "") ++
    (if shape.offsets then toString offset ++ mark else "")

/-- The shown lines of a text, with the context around them. -/
def shownLines (s : Search) (shape : Shape) (name : String) (lines : List (Line × Bool)) :
    String :=
  let ending := shape.separator.toString
  let selected := lines.filterMap fun (l, holds) => if holds then some l.number else none
  let last := selected.getLast?.getD 0
  let isNear (n : Nat) : Bool :=
    selected.any fun k => (k ≤ n && n ≤ k + shape.after) || (n ≤ k && k ≤ n + shape.before)
  let hasContext := 0 < shape.before || 0 < shape.after
  let near := lines.filter fun (l, holds) =>
    holds || (hasContext && isNear l.number && !(last < l.number && last + shape.after < l.number))
  let show_ (previous : Option Nat) (l : Line) (holds : Bool) : String :=
    let gap := if hasContext && previous.any (· + 1 < l.number) then "--\n" else ""
    if shape.onlyParts then
      if !holds || s.inverted then gap
      else
        let t := s.subject l.text
        gap ++ String.join ((s.parts t (l.text.length + 2) 0).map fun m =>
          lineLead shape name ":" l (l.offset + m.start) ++ t.slice m.start m.stop ++ ending)
    else gap ++ lineLead shape name (if holds then ":" else "-") l l.offset ++ l.text ++ ending
  String.join (near.foldl (fun (texts, previous) (l, holds) =>
    (texts ++ [show_ previous l holds], some l.number)) (([] : List String), none)).1

/-- Searches a text; whether a line was selected. -/
def searchText (s : Search) (shape : Shape) (name shownName text : String) : Doing Bool := do
  let lines := judged s shape.limit (linesWithPlaces shape.separator text) 0
  let count := (lines.filter (·.2)).length
  let isBinary := !shape.anyText && shape.separator == '\n' && text.toList.contains '\x00'
  if shape.quiet then pure (0 < count)
  else if shape.names || shape.missing then
    if (0 < count) != shape.missing then Doing.writeLine shownName
    pure ((0 < count) != shape.missing)
  else if shape.count then
    Doing.writeLine ((if shape.withNames then shownName ++ ":" else "") ++ toString count)
    pure (0 < count)
  else if isBinary && 0 < count then
    let c ← Doing.call
    Doing.writeLine (c.name ++ ": " ++ name ++ ": binary file matches")
    pure true
  else
    Doing.write (shownLines s shape shownName lines)
    pure (0 < count)

def usage : String := "Usage: grep [OPTION]... PATTERNS [FILE]..."

/-- Says how the tool is called. -/
def misused (fault : Option String) : Doing Parsed := do
  let c ← Doing.call
  match fault with
  | some s => Doing.complain s
  | none => pure ()
  modify fun j => { j with chunks :=
    (2, "Usage: " ++ c.name ++ " [OPTION]... PATTERNS [FILE]...\nTry '" ++ c.name ++
      " --help' for more information.\n") :: j.chunks }
  Doing.quit 2

/-- The patterns that the words give, one a line. -/
def patternTexts (p : Parsed) : Doing (List String × List String) := do
  let given := p.all 'e'
  let ofFiles ← (p.all 'f').mapM fun path => do
    match ← operandText path with
    | .ok text => pure (linesOf text)
    | .error e => do
      Doing.complain (path ++ ": " ++ e.reason)
      Doing.quit 2
  if p.has 'e' || p.has 'f' then
    pure (given.flatMap (fun g => (g.toList.splitOn '\n').map String.ofList) ++ ofFiles.flatten,
      p.operands)
  else
    match p.operands with
    | [] => do
      let _ ← misused none
      pure ([], [])
    | first :: rest => pure ((first.toList.splitOn '\n').map String.ofList, rest)

def readPattern (extended fixed : Bool) (text : String) : Doing Regex := do
  if fixed then pure (text.toList.foldl (fun r c => .seq r (.char c)) .empty)
  else
    match Regex.ofString { extended := extended } text with
    | .ok r => pure r
    | .error e => do
      Doing.complain (if e == .bracket then "Invalid regular expression" else e.message)
      Doing.quit 2

/-- The files that are searched: with their names, and whether they were come
to through a folder. -/
def targets (p : Parsed) (operands : List String) : Doing (List (String × Bool)) := do
  let recursive := p.has 'r' || p.has 'R'
  let operands := if operands.isEmpty then [if recursive then "" else "-"] else operands
  if !recursive then pure (operands.map fun o => (o, false))
  else
    let isListed (path : String) : Bool :=
      let name := (fileName? path).getD path
      let fits (pattern : String) : Bool :=
        matchesGlob (globOf (pattern.toList.map fun c => (c, false))) name.toList
      let wanted := p.all '\x01'
      (wanted.isEmpty || wanted.any fits) && !(p.all '\x02').any fits
    let found ← operands.mapM fun o => do
      if o == "-" then pure [(o, false)]
      else
        let r ← Doing.look fun d place => visits d place (if o.isEmpty then "." else o) true
        match r with
        | .ok vs =>
          let shown (path : String) : String :=
            if o.isEmpty && path.startsWith "./" then String.ofList (path.toList.drop 2) else path
          pure (vs.filterMap fun v => match v.node with
            | .file _ => if v.depth == 0 || isListed v.path then some (shown v.path, true) else none
            | _ => none)
        | .error _ => pure [(o, false)]
    pure found.flatten

/-- The number that an option gives. -/
def numberOf (p : Parsed) (letter : Char) (fault : String → String) : Doing (Option Nat) := do
  match p.last? letter with
  | none => pure none
  | some s =>
    match count? s with
    | some n => pure (some n)
    | none => do
      if letter == 'm' && (s.startsWith "-") && (count? (String.ofList (s.toList.drop 1))).isSome then
        pure none
      else
        Doing.complain (fault s)
        Doing.quit 2

end Grep

open Grep in
/-- The tool `grep`. -/
def grep (defaultKind : Char) : Doing Unit := do
  let p ← Grep.options.parsedOr fun s => misused (some s)
  let (texts, operands) ← patternTexts p
  let kind := (p.lastOf ['E', 'F', 'G', 'P']).getD defaultKind
  let patterns ← texts.mapM (readPattern (kind == 'E' || kind == 'P') (kind == 'F'))
  let limit ← numberOf p 'm' fun _ => "invalid max count"
  let context (s : String) : String := s ++ ": invalid context length argument"
  let around ← numberOf p 'C' context
  let digits := p.options.filterMap fun (c, _) => if c.isDigit then some c else none
  let around := if digits.isEmpty then around else count? (String.ofList digits)
  let before ← numberOf p 'B' context
  let after ← numberOf p 'A' context
  let files ← targets p operands
  let recursive := p.has 'r' || p.has 'R'
  let namesKind := p.lastOf ['H', 'h']
  let search : Search := {
    patterns := patterns
    foldCase := p.has 'i' || p.has 'y'
    words := p.has 'w'
    wholeLines := p.has 'x'
    inverted := p.has 'v' }
  let shape : Shape := {
    count := p.has 'c'
    names := p.lastOf ['l', 'L'] == some 'l'
    missing := p.lastOf ['l', 'L'] == some 'L'
    quiet := p.has 'q'
    numbers := p.has 'n'
    offsets := p.has 'b'
    onlyParts := p.has 'o'
    withNames := if namesKind == some 'H' then true else if namesKind == some 'h' then false
      else 1 < files.length || (recursive && operands != ["-"])
    limit := limit
    before := (before.orElse fun () => around).getD 0
    after := (after.orElse fun () => around).getD 0
    anyText := p.has 'a' || p.last? '\x07' == some "text"
    separator := if p.has 'z' then '\x00' else '\n' }
  let c ← Doing.call
  let complainAbout (path : String) (e : IoFault) : Doing Unit := do
    if !p.has 's' then Doing.complain (path ++ ": " ++ e.reason)
    Doing.fail 2
  let showsLines := !shape.quiet && !shape.names && !shape.missing && limit != some 0 &&
    limit != some 1
  let mut found := false
  for (path, isInside) in files do
    let shownName := if path == "-" then (p.last? '\x06').getD "(standard input)" else path
    let isOutput ← Doing.look fun d place =>
      let number? := if path == "-" then c.inputFile else fileNumber? d place path
      number?.isSome && number? == c.outputFile
    if shape.quiet && found then pure ()
    else if isOutput && showsLines && path != "-" then do
      Doing.complain (shownName ++ ": input file is also the output")
      Doing.fail 2
    else if path == "-" && shape.quiet && !c.inputEnded then
      let whole := c.input.toList.reverse.dropWhile (· != '\n')
      let lines := linesOf (String.ofList whole.reverse)
      if lines.any search.selects then Doing.quit 0 else throw .needsInput
    else
      match ← operandText path with
      | .ok text =>
        let any ← searchText search shape shownName shownName text
        found := found || any
      | .error e => if !(isInside && e == .isADirectory) then complainAbout shownName e
  let j ← get
  if found && (shape.quiet || j.status == 0) then Doing.quit 0
  else if j.status != 0 then Doing.quit j.status
  else Doing.quit (if found then 0 else 1)

end ProxySync.Tool
