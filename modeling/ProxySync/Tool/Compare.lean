import ProxySync.Tool.Lines
import ProxySync.Tool.Tree

/-!
# Comparing files

Octet by octet, `cmp`, and line by line, `diff`. Lines that both files have
stay together where that leaves the fewest lines over, and of several such
ways the one that keeps lines as early as it can.
-/

namespace ProxySync.Tool

open Files

/-! ## cmp -/

/-- Where two texts first differ: the place from 1 and the line. -/
def firstDifference? : (place line : Nat) → List Char → List Char → Option (Nat × Nat × Char × Char)
  | place, line, a :: as, b :: bs =>
    if a == b then firstDifference? (place + 1) (if a == '\n' then line + 1 else line) as bs
    else some (place, line, a, b)
  | _, _, _, _ => none

def octalByte (c : Char) : String := padLeft 3 (String.ofList (Nat.toDigits 8 c.toNat))

def compareOptions : Options where
  letters := "bi:ln:sv"
  names := [("print-bytes", 'b'), ("ignore-initial", 'i'), ("verbose", 'l'), ("bytes", 'n'),
    ("quiet", 's'), ("silent", 's')]

/-- Refuses words with a hint that begins with the tool's name. -/
def misuseNamed {α : Type} (s : String) (status : Nat) : Doing α := do
  let c ← Doing.call
  Doing.complain s
  Doing.complain ("Try '" ++ c.name ++ " --help' for more information.")
  Doing.quit status

/-- The tool `cmp`. -/
def cmp : Doing Unit := do
  let p ← compareOptions.parsedOr fun s => misuseNamed s 2
  let c ← Doing.call
  let quiet := p.has 's'
  let number (s : String) : Doing Nat := do
    match sizeOf? s with
    | some n => pure n
    | none => misuseNamed ("invalid --bytes value " ++ quotedText s) 2
  let limit ← match p.last? 'n' with
    | some s => do pure (some (← number s))
    | none => pure none
  match p.operands with
  | [] => misuseNamed ("missing operand after " ++ quotedText c.name) 2
  | first :: rest =>
    let second := rest.headD "-"
    let skips ← match p.last? 'i', rest with
      | some s, _ => do
        match s.splitOn ":" with
        | [a, b] => pure (← number a, ← number b)
        | _ => pure (← number s, ← number s)
      | none, [_, a] => do pure (← number a, 0)
      | none, [_, a, b] => do pure (← number a, ← number b)
      | none, _ :: _ :: _ :: extra :: _ => misuseNamed ("extra operand " ++ quotedText extra) 2
      | none, _ => pure (0, 0)
    let read (path : String) (skip : Nat) : Doing (List Char) := do
      match ← operandText path with
      | .ok s =>
        let s := s.toList.drop skip
        pure (match limit with
          | some n => s.take n
          | none => s)
      | .error e => do
        if !quiet then Doing.complain (path ++ ": " ++ e.reason)
        Doing.quit 2
    let a ← read first skips.1
    let b ← read second skips.2
    let atEnd (path : String) (s : List Char) : Doing Unit := do
      let text :=
        if s.isEmpty then "EOF on " ++ path ++ " which is empty"
        else "EOF on " ++ path ++ " after byte " ++ toString s.length ++
          (if p.has 'l' then ""
          else if s.getLast? == some '\n' then ", line " ++ toString (s.count '\n')
          else ", in line " ++ toString (s.count '\n' + 1))
      if !quiet then Doing.complain text
      Doing.quit 1
    let shorter : Option (String × List Char) :=
      if a.length < b.length then some (first, a)
      else if b.length < a.length then some (second, b) else none
    if p.has 'l' && !quiet then
      let width := (toString (max a.length b.length)).length
      let bad := ((a.zip b).zipIdx 1).filter fun ((x, y), _) => x != y
      for ((x, y), n) in bad do
        Doing.writeLine (padLeft width (toString n) ++ " " ++ octalByte x ++ " " ++ octalByte y)
      if !bad.isEmpty then Doing.fail 1
      match shorter with
      | some (path, s) => atEnd path s
      | none => pure ()
    else
      match firstDifference? 1 1 a b with
      | some (place, line, x, y) =>
        if !quiet then
          let bytes := if p.has 'b' then
            " is " ++ octalByte x ++ " " ++ visibleChar x ++ " " ++ octalByte y ++ " " ++ visibleChar y
          else ""
          Doing.writeLine (first ++ " " ++ second ++ " differ: " ++
            (if p.has 'b' then "byte " else "char ") ++ toString place ++ ", line " ++
            toString line ++ bytes)
        Doing.quit 1
      | none =>
        match shorter with
        | some (path, s) => atEnd path s
        | none => pure ()

/-! ## Lines in common -/

/-- What happens to lines from the first file to the second. -/
inductive LineChange where
  | kept
  | removed
  | added
deriving DecidableEq

/-- The row of a table of how many lines the rest of two files have in common,
from the row below it. -/
def commonRow (x : String) : List String → List Nat → List Nat
  | [], _ => [0]
  | y :: ys, below =>
    let row := commonRow x ys below.tail
    let n := if x == y then below.tail.headD 0 + 1 else max (below.headD 0) (row.headD 0)
    n :: row

/-- The table, the row of the whole first file in front. -/
def commonTable (ys : List String) : List String → List (List Nat)
  | [] => [List.replicate (ys.length + 1) 0]
  | x :: xs =>
    let rows := commonTable ys xs
    commonRow x ys (rows.headD []) :: rows

/-- The changes from one list of lines to another. -/
def changesBetween : List String → List String → List (List Nat) → List LineChange
  | [], ys, _ => ys.map fun _ => .added
  | xs, [], _ => xs.map fun _ => .removed
  | x :: xs, y :: ys, rows =>
    let dropColumn (rows : List (List Nat)) : List (List Nat) := rows.map List.tail
    if x == y then .kept :: changesBetween xs ys (dropColumn rows.tail)
    else
      let down := (rows.tail.headD []).headD 0
      let right := ((rows.headD []).tail).headD 0
      if right ≤ down then .removed :: changesBetween xs (y :: ys) rows.tail
      else .added :: changesBetween (x :: xs) ys (dropColumn rows)
termination_by xs ys => xs.length + ys.length

/-- How large the table may be. -/
def tableLimit : Nat := 4000000

/-- The changes between two files: what they have in common at their ends is
kept in any case. -/
def lineChanges (xs ys : List String) : List LineChange :=
  let front := ((xs.zip ys).takeWhile fun (x, y) => x == y).length
  let xs' := xs.drop front
  let ys' := ys.drop front
  let back := ((xs'.reverse.zip ys'.reverse).takeWhile fun (x, y) => x == y).length
  let xs' := xs'.take (xs'.length - back)
  let ys' := ys'.take (ys'.length - back)
  let middle :=
    if tableLimit < xs'.length * ys'.length then
      xs'.map (fun _ => LineChange.removed) ++ ys'.map (fun _ => .added)
    else changesBetween xs' ys' (commonTable ys' xs')
  List.replicate front .kept ++ middle ++ List.replicate back .kept

/-- Changed lines next to each other: where they start in both files and how
many there are, counted from 0. -/
structure Hunk where
  start : Nat
  removed : Nat
  start' : Nat
  added : Nat

def hunksOf (changes : List LineChange) : List Hunk :=
  let step (state : List Hunk × Nat × Nat × Bool) (c : LineChange) : List Hunk × Nat × Nat × Bool :=
    let (hunks, i, j, inside) := state
    let hunks := if inside || c == .kept then hunks else ⟨i, 0, j, 0⟩ :: hunks
    match c, hunks with
    | .removed, h :: rest => ({ h with removed := h.removed + 1 } :: rest, i + 1, j, true)
    | .added, h :: rest => ({ h with added := h.added + 1 } :: rest, i, j + 1, true)
    | _, hunks => (hunks, i + 1, j + 1, false)
  (changes.foldl step ([], 0, 0, false)).1.reverse

/-! ## diff -/

structure DiffManner where
  foldCase : Bool
  noBlanks : Bool
  anyBlanks : Bool
  endBlanks : Bool
  noEmpty : Bool
  brief : Bool
  tells : Bool
  unified : Option Nat
  context : Option Nat
  recursive : Bool
  absentAsEmpty : Bool
  script : Bool
  labels : List String
  /-- The options as they are told before the differences of files in folders. -/
  options : String

/-- What of a line is compared. -/
def DiffManner.key (m : DiffManner) (line : String) : String :=
  let s := line.toList
  let s := if m.noBlanks then s.filter (!isSpaceChar ·)
    else if m.anyBlanks || m.endBlanks then
      let s := (s.reverse.dropWhile isSpaceChar).reverse
      if m.anyBlanks then
        (s.splitBy fun a b => isSpaceChar a && isSpaceChar b).map (fun part =>
          if part.all isSpaceChar then ' ' else part.headD ' ')
      else s
    else s
  String.ofList (if m.foldCase then s.map Char.toLower else s)

/-- The lines of a text, the last of which may lack its end. -/
def diffLines (text : String) : List String :=
  (records '\n' text.toList).map String.ofList

def missingEnd : String := "\\ No newline at end of file\n"

/-- A line behind a mark. -/
def markedLine (mark line : String) : String :=
  if line.endsWith "\n" then mark ++ line else mark ++ line ++ "\n" ++ missingEnd

def rangeText (start count : Nat) : String :=
  if count ≤ 1 then toString (start + count) else toString (start + 1) ++ "," ++ toString (start + count)

def Hunk.normal (h : Hunk) (xs ys : List String) : String :=
  let letter := if h.removed == 0 then "a" else if h.added == 0 then "d" else "c"
  let old := (xs.drop h.start).take h.removed
  let new := (ys.drop h.start').take h.added
  rangeText h.start h.removed ++ letter ++ rangeText h.start' h.added ++ "\n" ++
    String.join (old.map (markedLine "< ")) ++
    (if h.removed != 0 && h.added != 0 then "---\n" else "") ++
    String.join (new.map (markedLine "> "))

/-- Hunks that are near each other, together. -/
def groupHunks (around : Nat) (hs : List Hunk) : List (List Hunk) :=
  hs.splitBy fun a b => b.start ≤ a.start + a.removed + 2 * around

/-- The part of the files that a group of hunks is shown with. -/
def groupSpan (around : Nat) (xs ys : List String) (hs : List Hunk) : Nat × Nat × Nat × Nat :=
  match hs.head?, hs.getLast? with
  | some first, some last =>
    let before := min around first.start
    let after := min around (xs.length - (last.start + last.removed))
    let i := first.start - before
    let j := first.start' - before
    (i, last.start + last.removed + after - i, j, min ys.length (last.start' + last.added + after) - j)
  | _, _ => (0, 0, 0, 0)

def unifiedGroup (around : Nat) (xs ys : List String) (hs : List Hunk) : String :=
  let (i, n, j, m) := groupSpan around xs ys hs
  let range (start count : Nat) : String :=
    if count == 1 then toString (start + 1)
    else toString (if count == 0 then start else start + 1) ++ "," ++ toString count
  let body := hs.foldl (fun (text, at_) h =>
    let kept := (xs.drop at_).take (h.start - at_)
    (text ++ String.join (kept.map (markedLine " ")) ++
      String.join (((xs.drop h.start).take h.removed).map (markedLine "-")) ++
      String.join (((ys.drop h.start').take h.added).map (markedLine "+")), h.start + h.removed)) ("", i)
  let rest := (xs.drop body.2).take (i + n - body.2)
  "@@ -" ++ range i n ++ " +" ++ range j m ++ " @@\n" ++ body.1 ++
    String.join (rest.map (markedLine " "))

def contextGroup (around : Nat) (xs ys : List String) (hs : List Hunk) : String :=
  let (i, n, j, m) := groupSpan around xs ys hs
  let side (lines : List String) (start count : Nat) (mark : String)
      (span : Hunk → Nat × Nat) : String :=
    String.join (((lines.drop start).take count).zipIdx start |>.map fun (line, k) =>
      match hs.find? fun h => (span h).1 ≤ k && k < (span h).1 + (span h).2 with
      | some h => markedLine (if h.removed != 0 && h.added != 0 then "! " else mark) line
      | none => markedLine "  " line)
  let removes := hs.any fun h => h.removed != 0
  let adds := hs.any fun h => h.added != 0
  let range (start count : Nat) : String :=
    if count ≤ 1 then toString (start + count) else toString (start + 1) ++ "," ++ toString (start + count)
  "***************\n*** " ++ range i n ++ " ****\n" ++
    (if removes then side xs i n "- " fun h => (h.start, h.removed) else "") ++
    "--- " ++ range j m ++ " ----\n" ++
    (if adds then side ys j m "+ " fun h => (h.start', h.added) else "")

/-- Commands for an editor, the last change first. -/
def Hunk.edit (h : Hunk) (ys : List String) : String :=
  let letter := if h.removed == 0 then "a" else if h.added == 0 then "d" else "c"
  let new := (ys.drop h.start').take h.added
  rangeText h.start h.removed ++ letter ++ "\n" ++ String.join new ++
    (if h.added == 0 then "" else ".\n")

/-- Compares two texts; whether they differ. -/
def diffTexts (m : DiffManner) (first second : String) (heading : String) (a b : String) :
    Doing Bool := do
  let isBinary (s : String) : Bool := s.toList.contains '\x00'
  if a == b then
    if m.tells then
      Doing.writeLine ("Files " ++ first ++ " and " ++ second ++ " are identical")
    pure false
  else if isBinary a || isBinary b then
    Doing.writeLine ((if m.brief then "Files " else "Binary files ") ++ first ++ " and " ++ second ++
      " differ")
    pure true
  else
    let xs := diffLines a
    let ys := diffLines b
    let hs := hunksOf (lineChanges (xs.map m.key) (ys.map m.key))
    let isEmptyLine (l : String) : Bool := l == "\n" || l.isEmpty
    let hs := if m.noEmpty then
      hs.filter fun h => !(((xs.drop h.start).take h.removed).all isEmptyLine &&
        ((ys.drop h.start').take h.added).all isEmptyLine)
    else hs
    if hs.isEmpty then
      if m.tells then
        Doing.writeLine ("Files " ++ first ++ " and " ++ second ++ " are identical")
      pure false
    else if m.brief then
      Doing.writeLine ("Files " ++ first ++ " and " ++ second ++ " differ")
      pure true
    else
      Doing.write heading
      let time := "1970-01-01 00:00:00.000000000 +0000"
      let label (i : Nat) (path : String) : String := (m.labels[i]?).getD (path ++ "\t" ++ time)
      match m.unified, m.context with
      | some n, _ =>
        Doing.write ("--- " ++ label 0 first ++ "\n+++ " ++ label 1 second ++ "\n" ++
          String.join ((groupHunks n hs).map (unifiedGroup n xs ys)))
      | none, some n =>
        Doing.write ("*** " ++ label 0 first ++ "\n--- " ++ label 1 second ++ "\n" ++
          String.join ((groupHunks n hs).map (contextGroup n xs ys)))
      | none, none =>
        if m.script then Doing.write (String.join (hs.reverse.map (·.edit ys)))
        else Doing.write (String.join (hs.map (·.normal xs ys)))
      pure true

/-- Compares what stands at two paths; folders with all that is in them. The
first number counts how deep this is. -/
def diffPaths (m : DiffManner) : (fuel : Nat) → (depth : Nat) → String → String → Doing Unit
  | 0, _, _, _ => pure ()
  | fuel + 1, depth, first, second => do
    let c ← Doing.call
    let d := (← get).disk
    let look (path : String) : Except IoFault (Option Node) :=
      if path == "-" then .ok none
      else (d.lookup (pathOf path) true c.place).map fun (_, n) => some n
    let isFolder : Except IoFault (Option Node) → Bool
      | .ok (some (.folder _)) => true
      | _ => false
    let a := look first
    let b := look second
    if isFolder a && isFolder b then
      if depth == 0 || m.recursive then
        let namesAt (path : String) : List String :=
          match d.lookup (pathOf path) true c.place with
          | .ok (place, _) => sortedNames d place
          | .error _ => []
        let own := namesAt first
        let others := namesAt second
        let all := ((own ++ others).eraseDups).mergeSort fun x y => x ≤ y
        for name in all do
          let p := child first name
          let q := child second name
          if own.contains name && others.contains name then diffPaths m fuel (depth + 1) p q
          else if m.absentAsEmpty then diffPaths m fuel (depth + 1) p q
          else do
            let folder := if own.contains name then first else second
            Doing.writeLine ("Only in " ++ folder ++ ": " ++ name)
            Doing.fail 1
      else Doing.writeLine ("Common subdirectories: " ++ first ++ " and " ++ second)
    else if depth == 0 && isFolder a && second != "-" then
      diffPaths m fuel 1 (child first (lastStep second)) second
    else if depth == 0 && isFolder b && first != "-" then
      diffPaths m fuel 1 first (child second (lastStep first))
    else
      let absent (path : String) : Bool := m.absentAsEmpty && (match look path with
        | .error .notFound => true
        | _ => false)
      let read (path : String) : Doing (Option String) := do
        if absent path then pure (some "")
        else
          match ← operandText path with
          | .ok s => pure (some s)
          | .error e => do
            Doing.refuse (path ++ ": " ++ e.reason) 2
            pure none
      let x ← read first
      let y ← read second
      match x, y with
      | some x, some y =>
        let heading := if 1 ≤ depth && m.recursive then
          "diff" ++ m.options ++ " " ++ first ++ " " ++ second ++ "\n" else ""
        if ← diffTexts m first second heading x y then Doing.fail 1
      | _, _ => pure ()
where
  lastStep (path : String) : String := (steps path).getLast?.getD path

def differenceOptions : Options where
  letters := "0123456789abBcC:deEfhiI:lL:nNpPqrsS:tTuU:vwW:x:X:yZ\x01\x02::\x03:\x04"
  names := [("brief", 'q'), ("report-identical-files", 's'), ("unified", 'u'), ("context", 'c'),
    ("ed", 'e'), ("recursive", 'r'), ("new-file", 'N'), ("ignore-case", 'i'),
    ("ignore-all-space", 'w'), ("ignore-space-change", 'b'), ("ignore-blank-lines", 'B'),
    ("ignore-trailing-space", 'Z'), ("text", 'a'), ("label", 'L'), ("minimal", 'd'),
    ("normal", '\x01'), ("color", '\x02'), ("strip-trailing-cr", '\x04')]

/-- The tool `diff`. -/
def diff : Doing Unit := do
  let p ← differenceOptions.parsedOr fun s => misuseNamed s 2
  let c ← Doing.call
  let digits := p.options.filterMap fun (c, _) => if c.isDigit then some c else none
  let lines := (count? (String.ofList digits)).getD 3
  let m : DiffManner := {
    foldCase := p.has 'i'
    noBlanks := p.has 'w'
    anyBlanks := p.has 'b'
    endBlanks := p.has 'Z'
    noEmpty := p.has 'B'
    brief := p.has 'q'
    tells := p.has 's'
    unified := match p.last? 'U' with
      | some s => count? s
      | none => if p.has 'u' then some lines else none
    context := match p.last? 'C' with
      | some s => count? s
      | none => if p.has 'c' then some lines else none
    recursive := p.has 'r'
    absentAsEmpty := p.has 'N'
    script := p.has 'e'
    labels := p.all 'L'
    options := String.join ((c.arguments.filter (·.startsWith "-")).map (" " ++ ·)) }
  match p.operands with
  | [] => misuseNamed ("missing operand after " ++ quotedText (c.arguments.getLast?.getD c.name)) 2
  | [one] => misuseNamed ("missing operand after " ++ quotedText one) 2
  | [first, second] => diffPaths m depthLimit 0 first second
  | _ :: _ :: extra :: _ => misuseNamed ("extra operand " ++ quotedText extra) 2

end ProxySync.Tool
