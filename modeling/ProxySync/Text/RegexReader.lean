import ProxySync.Text.Regex

/-!
# Reading regular expressions

Expressions are written in two ways. In the basic one, groups, alternatives
and counts need a backslash, and a star that follows nothing stands for
itself; in the extended one they need none.
-/

namespace ProxySync.Text

inductive RegexFault where
  | bracket
  | class_
  | classSyntax
  | parenthesis
  | closing
  | brace
  | count
  | tooLarge
  | preceding
  | backslash
  | reference
  | range
deriving DecidableEq, Repr

def RegexFault.message : RegexFault → String
  | bracket => "Unmatched [, [^, [:, [., or [="
  | class_ => "Invalid character class name"
  | classSyntax => "character class syntax is [[:space:]], not [:space:]"
  | parenthesis => "Unmatched ( or \\("
  | closing => "Unmatched ) or \\)"
  | brace => "Unmatched \\\x7b"
  | count => "Invalid content of \\\x7b\\\x7d"
  | tooLarge => "Regular expression too big"
  | preceding => "Invalid preceding regular expression"
  | backslash => "Trailing backslash"
  | reference => "Invalid back reference"
  | range => "Invalid range end"

/-- How expressions are written. -/
structure Dialect where
  extended : Bool
  /-- Line breaks inside a text end lines. -/
  lines : Bool := false

/-- A reader of expressions: what is left, and the groups that are opened and
closed. -/
structure RegexSource where
  rest : List Char
  opened : Nat := 0
  closed : List Nat := []

abbrev RegexReading := StateT RegexSource (Except RegexFault)

/-! ## Brackets -/

/-- A part of a bracket expression that is no range. -/
inductive BracketItem where
  | char (c : Char)
  | named (name : String)

def readBracketItem : List Char → Except RegexFault (BracketItem × List Char)
  | '[' :: mark :: rest =>
    if mark == ':' || mark == '.' || mark == '=' then
      let isEnd (s : List Char) : Bool := [mark, ']'].isPrefixOf s
      let rec split (taken : List Char) : List Char → Option (List Char × List Char)
        | [] => none
        | c :: rest =>
          if isEnd (c :: rest) then some (taken.reverse, rest.drop 1)
          else split (c :: taken) rest
      match split [] rest with
      | none => .error .bracket
      | some (name, rest) =>
        if mark == ':' then
          if classNames.contains (String.ofList name) then .ok (.named (String.ofList name), rest)
          else .error .class_
        else
          match name with
          | [c] => .ok (.char c, rest)
          | _ => .error .class_
    else .ok (.char '[', mark :: rest)
  | c :: rest => .ok (.char c, rest)
  | [] => .error .bracket

/-- The parts of a bracket expression up to its end. -/
def readBracketParts : (steps : Nat) → (first : Bool) → List Bracket → List Char →
    Except RegexFault (List Bracket × List Char)
  | 0, _, _, _ => .error .bracket
  | steps + 1, first, parts, s =>
    match s with
    | [] => .error .bracket
    | ']' :: rest =>
      if first then item steps parts s else .ok (parts, rest)
    | s => item steps parts s
where
  item (steps : Nat) (parts : List Bracket) (s : List Char) :
      Except RegexFault (List Bracket × List Char) :=
    match readBracketItem s with
    | .error e => .error e
    | .ok (.named name, rest) => readBracketParts steps false (parts ++ [.named name]) rest
    | .ok (.char low, rest) =>
      match rest with
      | '-' :: ']' :: _ => readBracketParts steps false (parts ++ [.range low low]) rest
      | '-' :: rest =>
        match readBracketItem rest with
        | .ok (.char high, rest) =>
          if high < low then .error .range
          else readBracketParts steps false (parts ++ [.range low high]) rest
        | .ok (.named _, _) => .error .range
        | .error e => .error e
      | rest => readBracketParts steps false (parts ++ [.range low low]) rest

/-- A bracket expression behind its first bracket. -/
def readBracketRegex (s : List Char) : Except RegexFault (Regex × List Char) := do
  let (negated, s) := match s with
    | '^' :: rest => (true, rest)
    | s => (false, s)
  let (parts, rest) ← readBracketParts (s.length + 1) true [] s
  let colon : Bracket := .range ':' ':'
  if parts.head? == some colon && parts.getLast? == some colon && 2 < parts.length then
    throw .classSyntax
  else pure (.set negated parts, rest)

/-! ## Counts -/

/-- Counts in braces: the least and the most, and what follows the closing
mark. -/
def readCounts (ending : List Char) (s : List Char) :
    Except RegexFault (Nat × Option Nat × List Char) := do
  let number (s : List Char) : Option Nat × List Char :=
    let digits := s.takeWhile Char.isDigit
    if digits.isEmpty then (none, s)
    else (some (digits.foldl (fun n c => 10 * n + (c.toNat - '0'.toNat)) 0), s.drop digits.length)
  let (least, s) := number s
  let (most, hasComma, s) : Option Nat × Bool × List Char := match s with
    | ',' :: rest =>
      let (most, rest) := number rest
      (most, true, rest)
    | s => (least, false, s)
  if !ending.isPrefixOf s then throw (if s.isEmpty then .brace else .count)
  else if least.isNone && !hasComma then throw .count
  else
    let least := least.getD 0
    if most.any (· < least) then throw .count
    else if 32767 < max least (most.getD 0) then throw .tooLarge
    else pure (least, most, s.drop ending.length)

/-! ## Expressions -/

namespace RegexReading

def rest : RegexReading (List Char) := do return (← get).rest

def setRest (s : List Char) : RegexReading Unit := modify fun r => { r with rest := s }

/-- Performs a reading of the characters that are left. -/
def lift {α : Type} (f : List Char → Except RegexFault (α × List Char)) : RegexReading α := do
  match f (← rest) with
  | .ok (a, s) => do
    setRest s
    pure a
  | .error e => throw e

end RegexReading

open RegexReading

/-- The characters that open and close groups and separate alternatives. -/
def Dialect.mark (d : Dialect) (c : Char) : List Char := if d.extended then [c] else ['\\', c]

def Dialect.starts (d : Dialect) (c : Char) (s : List Char) : Bool := (d.mark c).isPrefixOf s

/-- An expression that a letter behind a backslash stands for. -/
def escapedRegex? : Char → Option Regex
  | '<' => some (.border .wordStart)
  | '>' => some (.border .wordEnd)
  | 'b' => some (.border .wordEdge)
  | 'B' => some (.border .noWordEdge)
  | '\x60' => some (.border .textStart)
  | '\'' => some (.border .textEnd)
  | 'w' => some (.set false [.named "alnum", .range '_' '_'])
  | 'W' => some (.set true [.named "alnum", .range '_' '_'])
  | 's' => some (.set false [.named "space"])
  | 'S' => some (.set true [.named "space"])
  | _ => none

mutual

/-- Alternatives. -/
def readEither (d : Dialect) : (fuel : Nat) → (depth : Nat) → RegexReading Regex
  | 0, _ => throw .tooLarge
  | fuel + 1, depth => do
    let a ← readSequence d fuel depth none
    let s ← rest
    if d.starts '|' s then
      setRest (s.drop (d.mark '|').length)
      return .either a (← readEither d fuel depth)
    else pure a

/-- Expressions one behind the other. -/
def readSequence (d : Dialect) : (fuel : Nat) → (depth : Nat) → Option Regex → RegexReading Regex
  | 0, _, _ => throw .tooLarge
  | fuel + 1, depth, before => do
    let s ← rest
    let result := before.getD .empty
    if s.isEmpty || d.starts '|' s then pure result
    else if d.starts ')' s then
      if depth == 0 then throw .closing else pure result
    else
      let a ← readRepeated d fuel depth before.isNone
      readSequence d fuel depth (some (match before with
        | some b => .seq b a
        | none => a))

/-- An expression with the marks that repeat it. -/
def readRepeated (d : Dialect) : (fuel : Nat) → (depth : Nat) → (first : Bool) → RegexReading Regex
  | 0, _, _ => throw .tooLarge
  | fuel + 1, depth, first => do
    let a ← readSingle d fuel depth first
    let isStart := match a with
      | .border .lineStart | .border .textStart => true
      | _ => false
    if isStart && !d.extended then pure a else readMarks d fuel a

def readMarks (d : Dialect) : (fuel : Nat) → Regex → RegexReading Regex
  | 0, _ => throw .tooLarge
  | fuel + 1, a => do
    match ← rest with
    | '*' :: s => do
      setRest s
      readMarks d fuel (.repeated a 0 none)
    | s =>
      if d.starts '+' s then
        setRest (s.drop (d.mark '+').length)
        readMarks d fuel (.repeated a 1 none)
      else if d.starts '?' s then
        setRest (s.drop (d.mark '?').length)
        readMarks d fuel (.repeated a 0 (some 1))
      else if d.starts '\x7b' s then
        let inside := s.drop (d.mark '\x7b').length
        match readCounts (d.mark '\x7d') inside with
        | .ok (least, most, s) => do
          setRest s
          readMarks d fuel (.repeated a least most)
        | .error e => if d.extended && e != .tooLarge then pure a else throw e
      else pure a

/-- One character, class, group or border. -/
def readSingle (d : Dialect) : (fuel : Nat) → (depth : Nat) → (first : Bool) → RegexReading Regex
  | 0, _, _ => throw .tooLarge
  | fuel + 1, depth, first => do
    let s ← rest
    let front := if d.lines then Border.lineStart else .textStart
    let back := if d.lines then Border.lineEnd else .textEnd
    if d.starts '(' s then
      setRest (s.drop (d.mark '(').length)
      let n := (← get).opened + 1
      modify fun r => { r with opened := n }
      let a ← readEither d fuel (depth + 1)
      let s ← rest
      if d.starts ')' s then
        setRest (s.drop (d.mark ')').length)
        modify fun r => { r with closed := n :: r.closed }
        pure (.group n a)
      else throw .parenthesis
    else
      match s with
      | [] => pure .empty
      | '[' :: inside => do
        setRest inside
        lift readBracketRegex
      | '.' :: more => do
        setRest more
        pure .any
      | '*' :: more => do
        setRest more
        if d.extended && first then
          if more.isEmpty then pure .empty else readSingle d fuel depth true
        else pure (.char '*')
      | '^' :: more => do
        setRest more
        pure (if d.extended || first then .border front else .char '^')
      | '$' :: more => do
        setRest more
        let atEnd := more.isEmpty || d.starts ')' more || d.starts '|' more
        pure (if d.extended || atEnd then .border back else .char '$')
      | ['\\'] => throw .backslash
      | '\\' :: c :: more => do
        setRest more
        if '1' ≤ c && c ≤ '9' then
          let n := c.toNat - '0'.toNat
          if (← get).closed.contains n then pure (.again n) else throw .reference
        else if !d.extended && c == '\x7b' then throw .preceding
        else if c == 'n' then pure (.char '\n')
        else pure ((escapedRegex? c).getD (.char c))
      | c :: more =>
        if d.extended && first && (c == '+' || c == '?') then
          setRest more
          if more.isEmpty then pure .empty else readSingle d fuel depth true
        else do
          setRest more
          pure (.char c)

end

/-- Reads a whole expression. -/
def Regex.ofString (d : Dialect) (s : String) : Except RegexFault Regex :=
  let chars := s.toList
  match (readEither d (8 * chars.length + 16) 0).run { rest := chars } with
  | .ok (r, _) => .ok r
  | .error e => .error e

end ProxySync.Text
