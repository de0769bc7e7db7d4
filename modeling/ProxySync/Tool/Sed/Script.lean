import ProxySync.Text.RegexReader
import ProxySync.Tool.Basic

/-!
# Editing scripts

The scripts of the tool `sed`: commands with the lines that they are for.
Blocks are kept flat, each knowing where it ends, so that jumps are places in
one list.
-/

namespace ProxySync.Tool.Sed

open Text

/-! ## Commands -/

/-- What a command is for. An expression that is left out is the one used
last. -/
inductive Address where
  | line (n : Nat)
  | last
  | found (r : Option Regex) (foldCase : Bool)
  | every (first step : Nat)

/-- Where a range of lines ends. -/
inductive RangeEnd where
  | at (a : Address)
  | after (count : Nat)
  | multiple (of : Nat)

structure Selector where
  first : Option Address := none
  last : Option RangeEnd := none
  negated : Bool := false

/-- A part of what takes the place of a match. -/
inductive Replacement where
  | text (s : String)
  | group (n : Nat)
  /-- How the letters that follow are written. -/
  | letters (mode : Char)

structure Substitution where
  regex : Option Regex
  foldCase : Bool
  parts : List Replacement
  every : Bool := false
  number : Nat := 1
  prints : Bool := false
  target : Option String := none

inductive Action where
  | block (stop : Nat)
  | blockEnd
  | substitute (s : Substitution)
  | translate (pairs : List (Char × Char))
  | append (text : String)
  | insert (text : String)
  | change (text : String)
  | jump (kind : Char) (label : String)
  | label (name : String)
  | quit (silent : Bool) (status : Nat)
  | readFile (path : String)
  | readLine (path : String)
  | writeFile (path : String) (firstLine : Bool)
  | list (width : Option Nat)
  /-- A command of one letter. -/
  | simple (letter : Char)

structure Instruction where
  selector : Selector
  action : Action

/-! ## Reading -/

structure Source where
  rest : List Char
  total : Nat
  /-- How the expressions are written. -/
  extended : Bool
  instructions : List Instruction := []
  /-- The places of blocks that are not closed yet. -/
  open_ : List Nat := []

abbrev Reading := StateT Source (Except String)

namespace Reading

def fail {α : Type} (message : String) : Reading α := do
  let s ← get
  throw ("-e expression #1, char " ++ toString (s.total - s.rest.length) ++ ": " ++ message)

def look : Reading (Option Char) := do return (← get).rest.head?

def drop (n : Nat := 1) : Reading Unit := modify fun s => { s with rest := s.rest.drop n }

def takeWhile (f : Char → Bool) : Reading String := do
  let s ← get
  let taken := s.rest.takeWhile f
  set { s with rest := s.rest.drop taken.length }
  pure (String.ofList taken)

def passBlanks : Reading Unit := do let _ ← takeWhile fun c => c == ' ' || c == '\t'

def passSpace : Reading Unit := do
  let _ ← takeWhile fun c => c == ' ' || ('\t' ≤ c && c ≤ '\r')

def number : Reading Nat := do return (count? (← takeWhile Char.isDigit)).getD 0

end Reading

open Reading

/-- The inside of a bracket expression with its closing bracket, and what
follows it. -/
def splitBracket (s : List Char) : Option (List Char × List Char) :=
  let rec go (class_ : Option Char) (done : List Char) : List Char → Option (List Char × List Char)
    | [] => none
    | '\n' :: _ => none
    | c :: rest =>
      match class_ with
      | some mark =>
        if c == ']' && done.head? == some mark then go none (c :: done) rest
        else go class_ (c :: done) rest
      | none =>
        if c == ']' then some ((c :: done).reverse, rest)
        else
          let opens := done.head? == some '[' && (c == ':' || c == '.' || c == '=')
          let line := done.head? == some '\\' && c == 'n'
          if line then go none ('\n' :: done.tail) rest
          else go (if opens then some c else none) (c :: done) rest
  let (front, s) := match s with
    | '^' :: ']' :: rest => (['^', ']'], rest)
    | '^' :: rest => (['^'], rest)
    | ']' :: rest => ([']'], rest)
    | s => ([], s)
  (go none [] s).map fun (inside, rest) => (front ++ inside, rest)

/-- The text up to a delimiter, which is taken. In expressions a line break
may be written with a backslash, and brackets hide the delimiter. -/
def readDelimited (delimiter : Char) (isRegex : Bool) : (steps : Nat) → List Char →
    Reading (Option (List Char))
  | 0, _ => pure none
  | steps + 1, done => do
    match ← look with
    | none => pure none
    | some c => do
      drop
      if c == delimiter then pure (some done.reverse)
      else if c == '\n' && isRegex then pure none
      else if c == '[' && isRegex then
        match splitBracket (← get).rest with
        | none => do
          let _ ← takeWhile fun _ => true
          pure none
        | some (inside, rest) => do
          modify fun s => { s with rest := rest }
          readDelimited delimiter isRegex steps (inside.reverse ++ '[' :: done)
      else if c == '\\' then
        match ← look with
        | none => pure none
        | some e => do
          drop
          if e == delimiter then
            if !isRegex && e == '&' then readDelimited delimiter isRegex steps ('&' :: '\\' :: done)
            else readDelimited delimiter isRegex steps (e :: done)
          else if e == 'n' && isRegex then readDelimited delimiter isRegex steps ('\n' :: done)
          else readDelimited delimiter isRegex steps (e :: '\\' :: done)
      else readDelimited delimiter isRegex steps (c :: done)

/-- Characters that are written with a letter and a backslash. -/
def readSpecials : (steps : Nat) → List Char → List Char
  | 0, s => s
  | steps + 1, s =>
    match s with
    | '\\' :: 't' :: rest => '\t' :: readSpecials steps rest
    | '\\' :: 'f' :: rest => '\x0c' :: readSpecials steps rest
    | '\\' :: 'v' :: rest => '\x0b' :: readSpecials steps rest
    | '\\' :: 'a' :: rest => '\x07' :: readSpecials steps rest
    | '\\' :: 'r' :: rest => '\r' :: readSpecials steps rest
    | '\\' :: c :: rest => '\\' :: c :: readSpecials steps rest
    | c :: rest => c :: readSpecials steps rest
    | [] => []

/-- Reads the expression that a text is; an empty one stands for the one used
last. -/
def regexOf (text : List Char) (lines : Bool) : Reading (Option Regex) := do
  if text.isEmpty then pure none
  else
    let s ← get
    let text := readSpecials (text.length + 1) text
    match Regex.ofString { extended := s.extended, lines := lines } (String.ofList text) with
    | .ok r => pure (some r)
    | .error e => fail (if e == .bracket then "unterminated address regex" else e.message)

def readAddress : Reading (Option Address) := do
  match ← look with
  | some '$' => do
    drop
    pure (some .last)
  | some c =>
    if c.isDigit then do
      let n ← number
      passBlanks
      if (← look) == some '~' then
        drop
        passBlanks
        return some (.every n (← number))
      else pure (some (.line n))
    else if c == '/' || c == '\\' then do
      drop
      let delimiter ← if c == '\\' then do
          let d := (← look).getD '/'
          drop
          pure d
        else pure c
      match ← readDelimited delimiter true ((← get).rest.length + 1) [] with
      | none => fail "unterminated address regex"
      | some text => do
        let flags ← takeWhile fun c => c == 'I' || c == 'M'
        let r ← regexOf text (flags.toList.contains 'M')
        pure (some (.found r (flags.toList.contains 'I')))
    else pure none
  | none => pure none

def readSelector : Reading Selector := do
  let first ← readAddress
  passSpace
  let last ← (if first.isSome then do
      if (← look) == some ',' then
        drop
        passSpace
        match ← look with
        | some '+' => do
          drop
          return some (RangeEnd.after (← number))
        | some '~' => do
          drop
          return some (RangeEnd.multiple (← number))
        | _ => do
          match ← readAddress with
          | some a => pure (some (RangeEnd.at a))
          | none => do
            drop
            fail "unexpected \x60,'"
      else pure none
    else pure none : Reading (Option RangeEnd))
  passSpace
  let marks ← takeWhile fun c => c == '!' || c == ' ' || c == '\t'
  if (match first, last with
    | some (.line 0), some (.at (.found ..)) => false
    | some (.line 0), _ => true
    | _, _ => false) then
    drop
    fail "invalid usage of line address 0"
  pure ⟨first, last, marks.toList.contains '!'⟩

/-- A command ends here, or so does the line. -/
def readEnd : Reading Unit := do
  passBlanks
  match ← look with
  | none => pure ()
  | some c =>
    if c == '\x7d' || c == '#' then pure ()
    else if c == '\n' || c == ';' || c == '\r' then drop
    else do
      drop
      fail "extra characters after command"

/-- The text of a command that writes lines. -/
def readText : Reading String := do
  passBlanks
  match ← look with
  | none => fail "expected \\ after \x60a', \x60c' or \x60i'"
  | some '\\' => do
    drop
    let s ← get
    match s.rest.dropWhile fun c => c == ' ' || c == '\t' with
    | '\n' :: rest => set { s with rest := rest }
    | _ => pure ()
  | _ => pure ()
  let rec go : (steps : Nat) → List Char → Reading (List Char)
    | 0, done => pure done
    | steps + 1, done => do
      match ← look with
      | none => pure done
      | some c => do
        drop
        if c == '\n' then pure done
        else if c == '\\' then
          match ← look with
          | none => pure done
          | some e => do
            drop
            go steps (e :: done)
        else go steps (c :: done)
  let text ← go ((← get).rest.length + 1) []
  pure (String.ofList text.reverse ++ "\n")

def readLabel : Reading String := do
  passBlanks
  takeWhile fun c => c != '\n' && c != ';' && c != ' ' && c != '\t'

def readFileName : Reading String := do
  passBlanks
  let name ← takeWhile (· != '\n')
  drop
  if name.isEmpty then fail "missing filename in r/R/w/W commands" else pure name

/-- The parts of a replacement. -/
def readReplacement : (steps : Nat) → List Char → List Replacement
  | 0, _ => []
  | steps + 1, s =>
    match s with
    | [] => []
    | '&' :: rest => .group 0 :: readReplacement steps rest
    | '\\' :: c :: rest =>
      if c.isDigit then .group (c.toNat - '0'.toNat) :: readReplacement steps rest
      else if "ULEul".toList.contains c then .letters c :: readReplacement steps rest
      else
        let plain := if c == 'n' then '\n' else if c == 't' then '\t' else if c == 'r' then '\r'
          else if c == 'f' then '\x0c' else if c == 'v' then '\x0b' else if c == 'a' then '\x07'
          else c
        .text plain.toString :: readReplacement steps rest
    | s =>
      let plain := s.takeWhile fun c => c != '&' && c != '\\'
      if plain.isEmpty then .text "\\" :: readReplacement steps (s.drop 1)
      else .text (String.ofList plain) :: readReplacement steps (s.drop plain.length)

/-- Reads the flags behind a substitution. -/
def readFlags : (steps : Nat) → Substitution → (lines : Bool) → Reading (Substitution × Bool)
  | 0, s, lines => pure (s, lines)
  | steps + 1, s, lines => do
    match ← look with
    | none => pure (s, lines)
    | some c =>
      if c == '\x7d' || c == '#' then pure (s, lines)
      else if c.isDigit then do
        let n ← number
        if n == 0 then fail "number option to \x60s' command may not be zero"
        else readFlags steps { s with number := n } lines
      else do
        drop
        match c with
        | 'g' => readFlags steps { s with every := true } lines
        | 'p' => readFlags steps { s with prints := true } lines
        | 'i' | 'I' => readFlags steps { s with foldCase := true } lines
        | 'm' | 'M' => readFlags steps s true
        | 'e' => readFlags steps s lines
        | 'w' => do
          let name ← readFileName
          pure ({ s with target := some name }, lines)
        | '\n' | ';' | '\r' => pure (s, lines)
        | ' ' | '\t' => do
          readEnd
          pure (s, lines)
        | _ => fail "unknown option to \x60s'"

def readSubstitution : Reading Action := do
  let unterminated : Reading Action := fail "unterminated \x60s' command"
  match ← look with
  | none => unterminated
  | some delimiter => do
    drop
    let length := (← get).rest.length + 1
    match ← readDelimited delimiter true length [] with
    | none => unterminated
    | some pattern =>
      match ← readDelimited delimiter false length [] with
      | none => unterminated
      | some replacement => do
        let parts := readReplacement (replacement.length + 1) replacement
        let (s, lines) ← readFlags length ⟨none, false, parts, false, 1, false, none⟩ false
        let r ← regexOf pattern lines
        let groups := (r.map Regex.groupCount).getD 9
        let wanted := parts.filterMap fun
          | .group n => some n
          | _ => none
        match wanted.find? (groups < ·) with
        | some n => fail ("invalid reference \\" ++ toString n ++ " on \x60s' command's RHS")
        | none => pure (.substitute { s with regex := r })

/-- The characters of one side of a translation. -/
def translated : List Char → List Char
  | '\\' :: '\\' :: rest => '\\' :: translated rest
  | '\\' :: 'n' :: rest => '\n' :: translated rest
  | '\\' :: 't' :: rest => '\t' :: translated rest
  | c :: rest => c :: translated rest
  | [] => []

def readTranslation : Reading Action := do
  let unterminated : Reading Action := fail "unterminated \x60y' command"
  match ← look with
  | none => unterminated
  | some delimiter => do
    drop
    let length := (← get).rest.length + 1
    match ← readDelimited delimiter false length [] with
    | none => unterminated
    | some source =>
      match ← readDelimited delimiter false length [] with
      | none => unterminated
      | some target =>
        let source := translated source
        let target := translated target
        if source.length != target.length then
          fail "strings for \x60y' command are different lengths"
        else
          readEnd
          pure (.translate (source.zip target))

def add (i : Instruction) : Reading Unit :=
  modify fun s => { s with instructions := s.instructions ++ [i] }

/-- Reads one command with its lines. -/
def readCommand (selector : Selector) (c : Char) : Reading Unit := do
  let put (a : Action) : Reading Unit := add ⟨selector, a⟩
  match c with
  | '\x7b' => do
    modify fun s => { s with open_ := s.instructions.length :: s.open_ }
    put (.block 0)
  | '\x7d' => do
    let s ← get
    match s.open_ with
    | [] => fail "unexpected \x60\x7d'"
    | place :: rest => do
      if selector.first.isSome then fail "\x7d doesn't want any addresses"
      let stop := s.instructions.length
      let close (i : Nat) (x : Instruction) : Instruction :=
        if i == place then ⟨x.selector, .block stop⟩ else x
      set { s with open_ := rest, instructions := s.instructions.mapIdx close }
      put .blockEnd
      readEnd
  | 's' => do put (← readSubstitution)
  | 'y' => do put (← readTranslation)
  | 'a' => do put (.append (← readText))
  | 'i' => do put (.insert (← readText))
  | 'c' => do put (.change (← readText))
  | ':' => do
    if selector.first.isSome then fail ": doesn't want any addresses"
    let name ← readLabel
    if name.isEmpty then fail "\":\" lacks a label"
    put (.label name)
  | 'b' | 't' | 'T' => do
    let name ← (do
      passBlanks
      takeWhile fun c => !(c == '\n' || c == ';' || c == ' ' || c == '\t' || c == '\x7d'))
    put (.jump c name)
    readEnd
  | 'q' | 'Q' => do
    passBlanks
    put (.quit (c == 'Q') (← number))
    readEnd
  | 'l' | 'L' => do
    passBlanks
    let digits ← takeWhile Char.isDigit
    put (.list (count? digits))
    readEnd
  | 'r' => do put (.readFile (← readFileName))
  | 'R' => do put (.readLine (← readFileName))
  | 'w' => do put (.writeFile (← readFileName) false)
  | 'W' => do put (.writeFile (← readFileName) true)
  | c =>
    if "=dDgGhHnNpPxzF".toList.contains c then do
      put (.simple c)
      readEnd
    else fail ("unknown command: \x60" ++ c.toString ++ "'")

/-- Reads commands up to the end of the script. -/
def readCommands : (steps : Nat) → Reading Unit
  | 0 => pure ()
  | steps + 1 => do
    let _ ← takeWhile fun c => c == ' ' || c == ';' || ('\t' ≤ c && c ≤ '\r')
    match ← look with
    | none => pure ()
    | some '#' => do
      let _ ← takeWhile (· != '\n')
      readCommands steps
    | some _ => do
      let selector ← readSelector
      passSpace
      match ← look with
      | none => fail "missing command"
      | some '#' => do
        drop
        fail "comments don't accept any addresses"
      | some c => do
        drop
        readCommand selector c
        readCommands steps

/-- The commands of a script, or what is wrong with it. -/
def readScript (text : String) (extended : Bool) : Except String (List Instruction) := do
  let chars := text.toList
  let ((), s) ← (readCommands (chars.length + 1)).run ⟨chars, chars.length, extended, [], []⟩
  if !s.open_.isEmpty then throw "-e expression #1, char 0: unmatched \x60\x7b'"
  let labels := s.instructions.filterMap fun i => match i.action with
    | .label name => some name
    | _ => none
  let missing := s.instructions.filterMap fun i => match i.action with
    | .jump _ name => if name.isEmpty || labels.contains name then none else some name
    | _ => none
  match missing with
  | name :: _ => throw ("can't find label for jump to \x60" ++ name ++ "'")
  | [] => pure s.instructions

end ProxySync.Tool.Sed
