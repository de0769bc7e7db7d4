import ProxySync.Yaml.Cursor

/-!
# Scalars of a YAML text

A scalar is plain, quoted or a block. Inside plain and quoted scalars a
single line break becomes a space and further ones stay; a block keeps its
breaks or folds them the same way.
-/

namespace ProxySync.Yaml

inductive Style where
  | plain
  | quoted
  | literal
  | folded
deriving DecidableEq, Repr

structure Scalar where
  text : String
  style : Style
deriving DecidableEq, Repr

/-! ## Gaps inside scalars -/

/-- Spaces and line breaks between two parts of a scalar. -/
structure Gap where
  spaces : List Char := []
  firstBreak : List Char := []
  moreBreaks : List Char := []
  broken : Bool := false

/-- What a gap contributes: its spaces, or its breaks with the first one
folded away. -/
def Gap.text (g : Gap) : List Char :=
  if !g.broken then g.spaces
  else if g.firstBreak == ['\n'] then
    if g.moreBreaks.isEmpty then [' '] else g.moreBreaks
  else g.firstBreak ++ g.moreBreaks

/-- Reads a gap. On a new line no tab may come before column `margin`. -/
def readGap (margin : Int) : (steps : Nat) → Gap → Cursor → Option (Gap × Cursor)
  | 0, _, _ => none
  | steps + 1, g, c =>
    match c.at? 0 with
    | none => some (g, c)
    | some ch =>
      if isSpaceOrTab ch then
        if g.broken && decide ((c.column : Int) < margin) && ch == '\t' then none
        else
          let g := if g.broken then g else { g with spaces := g.spaces ++ [ch] }
          readGap margin steps g (c.advance 1)
      else if isBreak ch then
        let (b, c) := c.takeBreak
        let g := if g.broken then { g with moreBreaks := g.moreBreaks ++ b }
          else { g with spaces := [], firstBreak := b, broken := true }
        readGap margin steps g c
      else some (g, c)

/-! ## Plain scalars -/

/-- The characters up to the next gap or the end of the scalar. -/
def plainRun (inFlow : Bool) : List Char → Option (List Char)
  | [] => some []
  | c :: rest =>
    if isGap c then some []
    else if inFlow && c == ':' && rest.head?.any (fun d => isFlowMark d || d == '?') then none
    else if (c == ':' && rest.head?.all isGap) || (inFlow && isFlowMark c) then some []
    else (plainRun inFlow rest).map (c :: ·)

/-- The text of a plain scalar, whether a line break follows it, and the
place after the gap behind it. -/
def plainParts (inFlow : Bool) (margin : Int) :
    (steps : Nat) → (text : List Char) → Gap → Cursor → Option (List Char × Bool × Cursor)
  | 0, _, _, _ => none
  | steps + 1, text, g, c =>
    if c.atDocumentMark || c.isAt '#' then some (text, g.broken, c)
    else do
      let run ← plainRun inFlow c.rest
      let (text, g) := if run.isEmpty then (text, g) else (text ++ g.text ++ run, {})
      let c := c.advance run.length
      if c.rest.isEmpty || !c.gapAt 0 then some (text, g.broken, c)
      else
        let (g, c) ← readGap margin c.steps g c
        if !inFlow && decide ((c.column : Int) < margin) then some (text, g.broken, c)
        else plainParts inFlow margin steps text g c

/-- A plain scalar whose later lines start at column `margin` or after it,
unless it stands in a flow collection. -/
def readPlain (inFlow : Bool) (margin : Int) (c : Cursor) : Option (Scalar × Bool × Cursor) := do
  let (text, broken, c) ← plainParts inFlow margin c.steps [] {} c
  pure (⟨String.ofList text, .plain⟩, broken, c)

/-! ## Quoted scalars -/

def hexDigit? (c : Char) : Option Nat :=
  if '0' ≤ c ∧ c ≤ '9' then some (c.toNat - '0'.toNat)
  else if 'a' ≤ c ∧ c ≤ 'f' then some (c.toNat - 'a'.toNat + 10)
  else if 'A' ≤ c ∧ c ≤ 'F' then some (c.toNat - 'A'.toNat + 10)
  else none

/-- The character of an escape by code, with `width` digits. -/
def escapeByCode (width : Nat) (rest : List Char) : Option Char := do
  let digits := rest.take width
  if digits.length < width then none
  let values ← digits.mapM hexDigit?
  let n := values.foldl (16 * · + ·) 0
  if (0xD800 ≤ n && n ≤ 0xDFFF) || 0x10FFFF < n then none else some (Char.ofNat n)

/-- The character after a backslash and the number of characters it takes. -/
def readEscape (rest : List Char) : Option (Char × Nat) :=
  match rest with
  | '0' :: _ => some ('\x00', 1)
  | 'a' :: _ => some ('\x07', 1)
  | 'b' :: _ => some ('\x08', 1)
  | 't' :: _ | '\t' :: _ => some ('\t', 1)
  | 'n' :: _ => some ('\n', 1)
  | 'v' :: _ => some ('\x0b', 1)
  | 'f' :: _ => some ('\x0c', 1)
  | 'r' :: _ => some ('\r', 1)
  | 'e' :: _ => some ('\x1b', 1)
  | ' ' :: _ => some (' ', 1)
  | '"' :: _ => some ('"', 1)
  | '/' :: _ => some ('/', 1)
  | '\\' :: _ => some ('\\', 1)
  | 'N' :: _ => some ('\u0085', 1)
  | '_' :: _ => some ('\u00a0', 1)
  | 'L' :: _ => some ('\u2028', 1)
  | 'P' :: _ => some ('\u2029', 1)
  | 'x' :: rest => (escapeByCode 2 rest).map (·, 3)
  | 'u' :: rest => (escapeByCode 4 rest).map (·, 5)
  | 'U' :: rest => (escapeByCode 8 rest).map (·, 9)
  | _ => none

/-- The characters up to the next gap, the closing quote or an escaped line
break; in the last case the flag is set. -/
def quotedRun (single : Bool) :
    (steps : Nat) → (text : List Char) → Cursor → Option (List Char × Bool × Cursor)
  | 0, _, _ => none
  | steps + 1, text, c =>
    match c.rest with
    | [] => some (text, false, c)
    | ch :: rest =>
      if isGap ch then some (text, false, c)
      else if single then
        if ch == '\'' then
          if rest.head? == some '\'' then quotedRun single steps (text ++ ['\'']) (c.advance 2)
          else some (text, false, c)
        else quotedRun single steps (text ++ [ch]) (c.advance 1)
      else if ch == '"' then some (text, false, c)
      else if ch == '\\' then
        if rest.head?.any isBreak then some (text, true, (c.advance 1).takeBreak.2)
        else do
          let (e, width) ← readEscape rest
          quotedRun single steps (text ++ [e]) (c.advance (1 + width))
      else quotedRun single steps (text ++ [ch]) (c.advance 1)

def quotedParts (single : Bool) :
    (steps : Nat) → (text : List Char) → Cursor → Option (List Char × Cursor)
  | 0, _, _ => none
  | steps + 1, text, c =>
    if c.atDocumentMark || c.rest.isEmpty then none
    else do
      let (text, joined, c) ← quotedRun single c.steps text c
      if !joined && c.isAt (if single then '\'' else '"') then some (text, c.advance 1)
      else
        let (g, c) ← readGap 0 c.steps { broken := joined } c
        quotedParts single steps (text ++ g.text) c

/-- A quoted scalar; the cursor is at the opening quote. -/
def readQuoted (single : Bool) (c : Cursor) : Option (Scalar × Cursor) := do
  let (text, c) ← quotedParts single c.steps [] (c.advance 1)
  pure (⟨String.ofList text, .quoted⟩, c)

/-! ## Block scalars -/

/-- What becomes of the line breaks at the end of a block. -/
inductive Chomping where
  | strip
  | clip
  | keep
deriving DecidableEq

def chompingOf? : Char → Option Chomping
  | '+' => some .keep
  | '-' => some .strip
  | _ => none

/-- The indicators after the mark of a block, in either order. -/
def readBlockHeader (c : Cursor) : Option (Chomping × Option Nat × Cursor) :=
  let digit? (c : Cursor) : Option (Option Nat × Cursor) :=
    match c.at? 0 with
    | some d =>
      if d == '0' then none
      else if d.isDigit then some (some (d.toNat - '0'.toNat), c.advance 1)
      else some (none, c)
    | none => some (none, c)
  match (c.at? 0).bind chompingOf? with
  | some ch => do
    let (n, c) ← digit? (c.advance 1)
    pure (ch, n, c)
  | none => do
    let (n, c) ← digit? c
    match n, (c.at? 0).bind chompingOf? with
    | some n, some ch => pure (ch, some n, c.advance 1)
    | n, _ => pure (.clip, n, c)

/-- Indentation and empty lines in front of the next line of a block. An
unknown indent (zero) is set by the deepest of them. -/
def readBlockBreaks (parent : Int) :
    (steps : Nat) → (indent deepest : Nat) → (breaks : List Char) → Cursor →
    Option (Nat × List Char × Cursor)
  | 0, _, _, _, _ => none
  | steps + 1, indent, deepest, breaks, c =>
    let spaces := (c.rest.takeWhile (· == ' ')).length
    let c := c.advance (if indent == 0 then spaces else min spaces (indent - c.column))
    let deepest := max deepest c.column
    if (indent == 0 || c.column < indent) && c.isAt '\t' then none
    else if c.breakAt 0 then
      let (b, c) := c.takeBreak
      readBlockBreaks parent steps indent deepest (breaks ++ b) c
    else
      let indent := if indent == 0 then max (max deepest (parent + 1).toNat) 1 else indent
      some (indent, breaks, c)

/-- The lines of a block. `first` is the break after the last line read,
`more` the empty lines after it, and `leading` tells whether that line
starts with a blank. -/
def blockLines (literal : Bool) (chomping : Chomping) (parent : Int) (indent : Nat) :
    (steps : Nat) → (text first more : List Char) → (leading : Bool) → Cursor →
    Option (List Char × Cursor)
  | 0, _, _, _, _, _ => none
  | steps + 1, text, first, more, leading, c =>
    if c.column == indent && !c.rest.isEmpty then do
      let trailing := (c.at? 0).any isSpaceOrTab
      let joint :=
        if !literal && first == ['\n'] && !leading && !trailing then
          if more.isEmpty then [' '] else []
        else first
      let (line, c) := c.span (!isBreak ·)
      let (first, c) := c.takeBreak
      let (_, breaks, c) ← readBlockBreaks parent c.steps indent 0 [] c
      blockLines literal chomping parent indent steps (text ++ joint ++ more ++ line) first breaks
        trailing c
    else
      let tail := match chomping with
        | .strip => []
        | .clip => first
        | .keep => first ++ more
      some (text ++ tail, c)

/-- A block scalar; the cursor is at its mark, and `parent` is the indent
around it. -/
def readBlock (literal : Bool) (parent : Int) (c : Cursor) : Option (Scalar × Cursor) := do
  let (chomping, increment, c) ← readBlockHeader (c.advance 1)
  let c := c.skip isSpaceOrTab
  let c := if c.isAt '#' then c.skip (!isBreak ·) else c
  if !(c.rest.isEmpty || c.breakAt 0) then none
  else
    let c := c.takeBreak.2
    let indent := match increment with
      | some n => (max parent 0).toNat + n
      | none => 0
    let (indent, breaks, c) ← readBlockBreaks parent c.steps indent 0 [] c
    let (text, c) ← blockLines literal chomping parent indent c.steps [] [] breaks false c
    pure (⟨String.ofList text, if literal then .literal else .folded⟩, c)

end ProxySync.Yaml
