import ProxySync.Text.Utf8
import ProxySync.Yaml.Scalar

/-!
# Tokens of a YAML text

Indentation becomes tokens: a block collection opens where a key or an
entry stands deeper than the collection around it, and closes where a line
starts further left. A token that may be a key is remembered, because the
colon that makes it one comes later on its line: the key token and the
opening of its mapping are then put in front of it.
-/

namespace ProxySync.Yaml

inductive Token where
  | version (major minor : Nat)
  | tagLead (handle lead : String)
  | documentStart
  | documentEnd
  | openBlockSequence
  | openBlockMapping
  | closeBlock
  | openSequence
  | closeSequence
  | openMapping
  | closeMapping
  | blockEntry
  | flowEntry
  | key
  | value
  | alias (name : String)
  | anchor (name : String)
  | tag (handle suffix : String)
  | scalar (s : Scalar)
deriving DecidableEq, Repr

/-! ## Names -/

/-- The name after the mark of an anchor or an alias. -/
def readAnchorName (c : Cursor) : Option (String × Cursor) :=
  let (name, c) := (c.advance 1).span isWordChar
  let ended := c.gapAt 0 || (c.at? 0).any ("?:,]\x7d%@\x60".toList.contains ·)
  if name.isEmpty || !ended then none else some (String.ofList name, c)

/-- A tag handle: an exclamation mark, word characters and, if there is
one, a closing exclamation mark. -/
def readTagHandle (c : Cursor) : Option (List Char × Cursor) :=
  if !c.isAt '!' then none
  else
    let (word, c) := (c.advance 1).span isWordChar
    if c.isAt '!' then some ('!' :: word ++ ['!'], c.advance 1) else some ('!' :: word, c)

/-- A character that stands for itself in the address of a tag. -/
def isAddressChar (wide : Bool) (c : Char) : Bool :=
  isWordChar c || ";/?:@&=+$.!~*'()".toList.contains c || (wide && ",[]".toList.contains c)

/-- An octet behind a percent sign. -/
def readOctet (c : Cursor) : Option (UInt8 × Cursor) :=
  match c.rest with
  | '%' :: a :: b :: _ => do
    let high ← hexDigit? a
    let low ← hexDigit? b
    some ((16 * high + low).toUInt8, c.advance 3)
  | _ => none

/-- How many octets follow the first one of a character. -/
def followers? (lead : UInt8) : Option Nat :=
  if lead < 0x80 then some 0
  else if lead < 0xC0 then none
  else if lead < 0xE0 then some 1
  else if lead < 0xF0 then some 2
  else if lead < 0xF8 then some 3
  else none

/-- `n` octets that continue a character. -/
def readFollowers : (n : Nat) → Cursor → Option (List UInt8 × Cursor)
  | 0, c => some ([], c)
  | n + 1, c => do
    let (octet, c) ← readOctet c
    if octet < 0x80 || 0xC0 ≤ octet then none
    let (more, c) ← readFollowers n c
    some (octet :: more, c)

/-- The address of a tag in octets. A character outside the permitted ones is
written as the octets of its encoding, all of which have to be there. -/
def readAddress (wide : Bool) :
    (steps : Nat) → (octets : List UInt8) → Cursor → Option (List UInt8 × Cursor)
  | 0, _, _ => none
  | steps + 1, octets, c =>
    match c.rest with
    | '%' :: _ => do
      let (lead, c) ← readOctet c
      let (more, c) ← readFollowers (← followers? lead) c
      readAddress wide steps (octets ++ lead :: more) c
    | ch :: _ =>
      if isAddressChar wide ch then
        readAddress wide steps (octets ++ [ch.toNat.toUInt8]) (c.advance 1)
      else some (octets, c)
    | [] => some (octets, c)

/-- The text of an address. Octets that only look like an encoding give a
text that is the name of nothing. -/
def addressText (octets : List UInt8) : String := (Text.ofUtf8? octets).getD "\ufffd"

/-- A tag, as its handle and what follows it. A tag in angle brackets and a
lone exclamation mark have no handle. -/
def readTag (inFlow : Bool) (c : Cursor) : Option (Token × Cursor) := do
  let (handle, suffix, c) ← (
    if c.at? 1 == some '<' then do
      let (octets, c) ← readAddress true c.steps [] (c.advance 2)
      if octets.isEmpty || !c.isAt '>' then none else some ("", addressText octets, c.advance 1)
    else do
      let (handle, c) ← readTagHandle c
      if 1 < handle.length && handle.getLast? == some '!' then
        let (octets, c) ← readAddress false c.steps [] c
        if octets.isEmpty then none else some (String.ofList handle, addressText octets, c)
      else
        let start := Text.utf8Bytes (String.ofList (handle.drop 1))
        let (octets, c) ← readAddress false c.steps start c
        if octets.isEmpty then some ("", "!", c) else some ("!", addressText octets, c))
  if (inFlow && c.isAt ',') || c.gapAt 0 then some (.tag handle suffix, c) else none

/-! ## Directives -/

/-- A version number of at most nine digits. -/
def readVersionPart (c : Cursor) : Option (Nat × Cursor) :=
  let (digits, c) := c.span (·.isDigit)
  if digits.isEmpty || 9 < digits.length then none
  else some (digits.foldl (fun n d => 10 * n + (d.toNat - '0'.toNat)) 0, c)

/-- A directive with the rest of its line; the cursor is at the percent
sign. -/
def readDirective (c : Cursor) : Option (Token × Cursor) := do
  let (name, c) := (c.advance 1).span isWordChar
  if !c.gapAt 0 then none
  let (token, c) ← (
    if name == "YAML".toList then do
      let (major, c) ← readVersionPart (c.skip isSpaceOrTab)
      if !c.isAt '.' then none
      let (minor, c) ← readVersionPart (c.advance 1)
      some (Token.version major minor, c)
    else if name == "TAG".toList then do
      let (handle, c) ← readTagHandle (c.skip isSpaceOrTab)
      if handle != ['!'] && (handle.length < 2 || handle.getLast? != some '!') then none
      if !(c.at? 0).any isSpaceOrTab then none
      let (lead, c) ← readAddress true c.steps [] (c.skip isSpaceOrTab)
      if lead.isEmpty || !c.gapAt 0 then none
      some (Token.tagLead (String.ofList handle) (addressText lead), c)
    else none)
  let c := c.skip isSpaceOrTab
  let c := if c.isAt '#' then c.skip (!isBreak ·) else c
  if c.rest.isEmpty || c.breakAt 0 then some (token, c.takeBreak.2) else none

/-! ## Layout -/

/-- A token that a colon further on its line turns into a key. -/
structure Pending where
  place : Nat
  line : Nat
  index : Nat
  column : Nat
  required : Bool

/-- The tokens read so far and what decides how the next character is
understood. Outside all collections the indent is minus one. -/
structure Layout where
  cursor : Cursor
  tokens : List Token
  keyAllowed : Bool
  indent : Int
  outerIndents : List Int
  pending : Option Pending
  outerPending : List (Option Pending)

namespace Layout

def start (text : List Char) : Layout := ⟨.start text, [], true, -1, [], none, []⟩

def inFlow (l : Layout) : Bool := !l.outerPending.isEmpty

def push (l : Layout) (t : Token) : Layout := { l with tokens := l.tokens ++ [t] }

/-- A pending key may be given up unless one has to stand there. -/
def dropPending (l : Layout) : Option Layout :=
  if l.pending.any (·.required) then none else some { l with pending := none }

/-- Gives up the keys whose line has ended or that are over 1024 characters
long. -/
def dropStale (l : Layout) : Option Layout :=
  let isStale (p : Pending) : Bool :=
    decide (p.line < l.cursor.line) || decide (p.index + 1024 < l.cursor.index)
  let keep (p : Option Pending) : Option Pending := p.filter (!isStale ·)
  if (l.pending :: l.outerPending).any (·.any fun p => p.required && isStale p) then none
  else some { l with pending := keep l.pending, outerPending := l.outerPending.map keep }

/-- Remembers the token that comes next as a possible key. -/
def remember (l : Layout) : Option Layout :=
  if l.keyAllowed then do
    let c := l.cursor
    let required := !l.inFlow && l.indent == (c.column : Int)
    let l ← l.dropPending
    some { l with pending := some ⟨l.tokens.length, c.line, c.index, c.column, required⟩ }
  else some l

/-- Opens a block collection at `column` if that lies deeper than the
current one. -/
def rollTo (l : Layout) (column : Nat) (place : Nat) (t : Token) : Layout :=
  if !l.inFlow && decide (l.indent < (column : Int)) then
    { l with
      indent := column
      outerIndents := l.indent :: l.outerIndents
      tokens := l.tokens.insertIdx place t }
  else l

def rollHere (l : Layout) (t : Token) : Layout :=
  l.rollTo l.cursor.column l.tokens.length t

/-- Closes the block collections that lie deeper than `column`. -/
def unrollTo (l : Layout) (column : Int) : Layout :=
  if l.inFlow then l
  else go l.outerIndents l
where
  go : List Int → Layout → Layout
    | [], l => l
    | outer :: rest, l =>
      if column < l.indent then
        let tokens := l.tokens ++ [.closeBlock]
        go rest { l with indent := outer, outerIndents := rest, tokens := tokens }
      else l

/-- Passes blanks, comments and line breaks, and a byte order mark in front of
a line, which counts as a column. A new line may start with a key; a tab may
not stand where a key may. -/
def skipGaps : (steps : Nat) → Layout → Layout
  | 0, l => l
  | steps + 1, l =>
    let c := l.cursor
    let c := if c.column == 0 && c.isAt '\ufeff' then c.advance 1 else c
    let c := c.skip fun ch => ch == ' ' || ((l.inFlow || !l.keyAllowed) && ch == '\t')
    let c := if c.isAt '#' then c.skip (!isBreak ·) else c
    if c.breakAt 0 then
      skipGaps steps { l with cursor := c.takeBreak.2, keyAllowed := l.keyAllowed || !l.inFlow }
    else { l with cursor := c }

/-! ## One token -/

def openFlow (l : Layout) (t : Token) : Option Layout := do
  let l ← l.remember
  some { l.push t with
    cursor := l.cursor.advance 1, keyAllowed := true
    pending := none, outerPending := l.pending :: l.outerPending }

def closeFlow (l : Layout) (t : Token) : Option Layout := do
  let l ← l.dropPending
  some { l.push t with
    cursor := l.cursor.advance 1, keyAllowed := false
    pending := l.outerPending.head?.join, outerPending := l.outerPending.tail }

/-- A mark that stands in front of a block entry or a key. -/
def blockMark (l : Layout) (opening t : Token) (keyNext : Bool) : Option Layout := do
  if !l.inFlow && !l.keyAllowed then none
  let l ← (l.rollHere opening).dropPending
  some { l.push t with cursor := l.cursor.advance 1, keyAllowed := keyNext }

/-- The colon in front of a value. -/
def valueMark (l : Layout) : Option Layout :=
  let marked (l : Layout) (keyNext : Bool) : Layout :=
    { l.push .value with cursor := l.cursor.advance 1, keyAllowed := keyNext }
  match l.pending with
  | some p =>
    let l := { l with tokens := l.tokens.insertIdx p.place .key, pending := none }
    some (marked (l.rollTo p.column p.place .openBlockMapping) false)
  | none =>
    if !l.inFlow && !l.keyAllowed then none
    else some (marked (l.rollHere .openBlockMapping) !l.inFlow)

/-- A token that may be a key, read by `read`. -/
def content (l : Layout) (read : Cursor → Option (Token × Cursor)) : Option Layout := do
  let l ← l.remember
  let (t, c) ← read l.cursor
  some { l.push t with cursor := c, keyAllowed := false }

def plain (l : Layout) : Option Layout := do
  let l ← l.remember
  let (s, broken, c) ← readPlain l.inFlow (l.indent + 1) l.cursor
  some { l.push (.scalar s) with cursor := c, keyAllowed := broken }

def block (l : Layout) (literal : Bool) : Option Layout := do
  let l ← l.dropPending
  let (s, c) ← readBlock literal l.indent l.cursor
  some { l.push (.scalar s) with cursor := c, keyAllowed := true }

/-- Closes every block before a directive, a document mark or the end. -/
def closeAll (l : Layout) : Option Layout := do
  let l ← (l.unrollTo (-1)).dropPending
  some { l with keyAllowed := false }

/-- A character that no plain scalar starts with, unless what follows it
says otherwise. -/
def isIndicator (c : Char) : Bool := "-?:,[]\x7b\x7d#&*!|>'\"%@\x60".toList.contains c

def startsPlain (l : Layout) (ch : Char) : Bool :=
  let c := l.cursor
  (!isGap ch && !isIndicator ch) ||
    (ch == '-' && !(c.at? 1).any isSpaceOrTab) ||
    (!l.inFlow && (ch == '?' || ch == ':') && !c.gapAt 1)

/-- Reads the token at the cursor, which is at the character `ch`. -/
def readToken (l : Layout) (ch : Char) : Option Layout :=
  let c := l.cursor
  if c.column == 0 && ch == '%' then do
    let l ← l.closeAll
    let (t, c) ← readDirective c
    some { l.push t with cursor := c }
  else if c.atDocumentMark then do
    let l ← l.closeAll
    some { l.push (if ch == '-' then .documentStart else .documentEnd) with cursor := c.advance 3 }
  else if ch == '[' then l.openFlow .openSequence
  else if ch == '\x7b' then l.openFlow .openMapping
  else if ch == ']' then l.closeFlow .closeSequence
  else if ch == '\x7d' then l.closeFlow .closeMapping
  else if ch == ',' then do
    let l ← l.dropPending
    some { l.push .flowEntry with cursor := c.advance 1, keyAllowed := true }
  else if ch == '-' && c.gapAt 1 then l.blockMark .openBlockSequence .blockEntry true
  else if ch == '?' && (l.inFlow || c.gapAt 1) then
    l.blockMark .openBlockMapping .key !l.inFlow
  else if ch == ':' && (l.inFlow || c.gapAt 1) then l.valueMark
  else if ch == '*' then
    l.content fun c => (readAnchorName c).map fun (name, c) => (.alias name, c)
  else if ch == '&' then
    l.content fun c => (readAnchorName c).map fun (name, c) => (.anchor name, c)
  else if ch == '!' then l.content (readTag l.inFlow)
  else if ch == '|' && !l.inFlow then l.block true
  else if ch == '>' && !l.inFlow then l.block false
  else if ch == '\'' || ch == '"' then
    l.content fun c => (readQuoted (ch == '\'') c).map fun (s, c) => (.scalar s, c)
  else if l.startsPlain ch then l.plain
  else none

/-- Reads tokens up to the end of the text. -/
def readAll : (steps : Nat) → Layout → Option (List Token)
  | 0, _ => none
  | steps + 1, l => do
    let l ← (l.skipGaps l.cursor.steps).dropStale
    let l := l.unrollTo l.cursor.column
    match l.cursor.rest with
    | [] => l.closeAll.map (·.tokens)
    | ch :: _ => readAll steps (← l.readToken ch)

end Layout

/-- The tokens of a text, unless it holds a character that no text may hold
or breaks a rule of its tokens. -/
def tokens? (text : List Char) : Option (List Token) :=
  if text.all isAllowed then
    let l := Layout.start text
    l.readAll l.cursor.steps
  else none

end ProxySync.Yaml
