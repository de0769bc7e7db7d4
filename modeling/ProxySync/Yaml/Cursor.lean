/-!
# Places in a YAML text

A cursor is the text still to be read together with its place: line and
column decide about indentation, and the distance on a line decides how far
back a key may start. Every reader that can fail returns an option, since
one fault makes the whole text unreadable.
-/

namespace ProxySync.Yaml

/-! ## Characters -/

def isBreak (c : Char) : Bool :=
  c == '\n' || c == '\r' || c == '\u0085' || c == '\u2028' || c == '\u2029'

def isSpaceOrTab (c : Char) : Bool := c == ' ' || c == '\t'

def isGap (c : Char) : Bool := isSpaceOrTab c || isBreak c

/-- A character of anchors and tag handles. -/
def isWordChar (c : Char) : Bool := c.isAlphanum || c == '_' || c == '-'

def isFlowMark (c : Char) : Bool := c == ',' || c == '[' || c == ']' || c == '\x7b' || c == '\x7d'

/-- The characters that a text may hold. -/
def isAllowed (c : Char) : Bool :=
  let n := c.toNat
  n == 9 || n == 10 || n == 13 || (0x20 ≤ n && n ≤ 0x7E) || n == 0x85 ||
    (0xA0 ≤ n && n ≤ 0xFFFD) || 0x10000 ≤ n

/-! ## Cursors -/

structure Cursor where
  rest : List Char
  column : Nat
  line : Nat
  index : Nat

namespace Cursor

def start (text : List Char) : Cursor := ⟨text, 0, 0, 0⟩

def at? (c : Cursor) (n : Nat) : Option Char := c.rest[n]?

/-- A gap character or the end of the text. -/
def gapAt (c : Cursor) (n : Nat) : Bool := (c.at? n).all isGap

def breakAt (c : Cursor) (n : Nat) : Bool := (c.at? n).any isBreak

def isAt (c : Cursor) (ch : Char) : Bool := c.at? 0 == some ch

/-- Moves over characters of one line. -/
def advance (c : Cursor) (n : Nat) : Cursor :=
  ⟨c.rest.drop n, c.column + n, c.line, c.index + n⟩

/-- The characters in front that satisfy `p`, which no line break does. -/
def span (p : Char → Bool) (c : Cursor) : List Char × Cursor :=
  let taken := c.rest.takeWhile p
  (taken, c.advance taken.length)

def skip (p : Char → Bool) (c : Cursor) : Cursor := (c.span p).2

/-- The line break in front in its standard form, if there is one. -/
def takeBreak (c : Cursor) : List Char × Cursor :=
  match c.rest with
  | '\r' :: '\n' :: rest => (['\n'], ⟨rest, 0, c.line + 1, c.index + 2⟩)
  | b :: rest =>
    if isBreak b then
      ([if b == '\u2028' || b == '\u2029' then b else '\n'], ⟨rest, 0, c.line + 1, c.index + 1⟩)
    else ([], c)
  | [] => ([], c)

/-- Three hyphens or dots alone at the start of a line. -/
def atDocumentMark (c : Cursor) : Bool :=
  c.column == 0 && c.gapAt 3 &&
    (c.rest.take 3 == ['-', '-', '-'] || c.rest.take 3 == ['.', '.', '.'])

/-- Enough steps for any reader that moves at every step. -/
def steps (c : Cursor) : Nat := 2 * c.rest.length + 2

end Cursor

end ProxySync.Yaml
