/-!
# Patterns of names

A pattern is a text in which a star stands for any text, a question mark for
any character, and brackets for one of several characters, unless they are
marked as literal.
-/

namespace ProxySync.Text

/-! ## Classes of characters -/

/-- The classes that brackets may name, for octets. -/
def inClass (name : String) (c : Char) : Bool :=
  let n := c.toNat
  match name with
  | "alpha" => c.isAlpha
  | "digit" => c.isDigit
  | "alnum" => c.isAlphanum
  | "upper" => c.isUpper
  | "lower" => c.isLower
  | "space" => n == 32 || (9 ≤ n && n ≤ 13)
  | "blank" => n == 32 || n == 9
  | "punct" => 33 ≤ n && n ≤ 126 && !c.isAlphanum
  | "print" => 32 ≤ n && n ≤ 126
  | "graph" => 33 ≤ n && n ≤ 126
  | "cntrl" => n < 32 || n == 127
  | "xdigit" => c.isDigit || ('a' ≤ c && c ≤ 'f') || ('A' ≤ c && c ≤ 'F')
  | _ => false

def classNames : List String :=
  ["alpha", "digit", "alnum", "upper", "lower", "space", "blank", "punct", "print", "graph",
    "cntrl", "xdigit"]

/-- A part of a bracket expression. -/
inductive Bracket where
  | range (low high : Char)
  | named (name : String)
deriving DecidableEq, Repr

def Bracket.holds (c : Char) : Bracket → Bool
  | range low high => low ≤ c && c ≤ high
  | named name => inClass name c

/-! ## Patterns -/

/-- A character of a pattern that is written down, and whether it is
literal. -/
abbrev Marked := Char × Bool

inductive Glob where
  | char (c : Char)
  | one
  | many
  | set (negated : Bool) (parts : List Bracket)
deriving DecidableEq, Repr

/-- A class such as `[:digit:]` at the start of a text, after its first
bracket. -/
def readClass? (s : List Marked) : Option (String × List Marked) :=
  match s with
  | (':', _) :: rest =>
    let name := rest.takeWhile fun (c, _) => c.isAlpha
    match rest.drop name.length with
    | (':', _) :: (']', _) :: rest => some (String.ofList (name.map (·.1)), rest)
    | _ => none
  | _ => none

/-- The parts of a bracket expression and what follows it, if it is closed. -/
def readBrackets : (steps : Nat) → (first : Bool) → List Bracket → List Marked →
    Option (List Bracket × List Marked)
  | 0, _, _, _ => none
  | steps + 1, first, parts, s =>
    match s with
    | [] => none
    | (']', false) :: rest =>
      if first then readBrackets steps false (parts ++ [.range ']' ']']) rest
      else some (parts, rest)
    | ('[', literal) :: rest =>
      match if literal then none else readClass? rest with
      | some (name, rest) => readBrackets steps false (parts ++ [.named name]) rest
      | none => range steps parts '[' rest
    | (c, _) :: rest => range steps parts c rest
where
  /-- A character or a range that starts with it. -/
  range (steps : Nat) (parts : List Bracket) (low : Char) (rest : List Marked) :
      Option (List Bracket × List Marked) :=
    match rest with
    | ('-', false) :: (high, literal) :: more =>
      if high == ']' && !literal then readBrackets steps false (parts ++ [.range low low]) rest
      else readBrackets steps false (parts ++ [.range low high]) more
    | _ => readBrackets steps false (parts ++ [.range low low]) rest

/-- Reads a pattern. An opening bracket that is not closed stands for
itself. -/
def readGlob : (steps : Nat) → List Marked → List Glob
  | 0, _ => []
  | steps + 1, s =>
    match s with
    | [] => []
    | ('*', false) :: rest => .many :: readGlob steps rest
    | ('?', false) :: rest => .one :: readGlob steps rest
    | ('[', false) :: rest =>
      let (negated, inside) := match rest with
        | ('!', false) :: more => (true, more)
        | _ => (false, rest)
      match readBrackets (inside.length + 1) true [] inside with
      | some (parts, rest) => .set negated parts :: readGlob steps rest
      | none => .char '[' :: readGlob steps rest
    | ('\\', false) :: (c, _) :: rest => .char c :: readGlob steps rest
    | (c, _) :: rest => .char c :: readGlob steps rest

def globOf (s : List Marked) : List Glob := readGlob (s.length + 1) s

/-- The whole text is described by the pattern. -/
def matchesGlob : List Glob → List Char → Bool
  | [], s => s.isEmpty
  | .many :: pattern, [] => matchesGlob pattern []
  | .many :: pattern, c :: s => matchesGlob pattern (c :: s) || matchesGlob (.many :: pattern) s
  | .char x :: pattern, c :: s => x == c && matchesGlob pattern s
  | .one :: pattern, _ :: s => matchesGlob pattern s
  | .set negated parts :: pattern, c :: s =>
    (parts.any (·.holds c) != negated) && matchesGlob pattern s
  | _ :: _, [] => false
termination_by pattern s => (s.length, pattern.length)

/-- The pattern has a part that does not stand for itself. -/
def isOpenGlob (pattern : List Glob) : Bool :=
  pattern.any fun
    | .char _ => false
    | _ => true

/-- The text without a part at its front that the pattern describes. -/
def cutFront (pattern : List Glob) (longest : Bool) (s : List Char) : List Char :=
  let lengths := List.range (s.length + 1)
  let lengths := if longest then lengths.reverse else lengths
  match lengths.find? fun n => matchesGlob pattern (s.take n) with
  | some n => s.drop n
  | none => s

/-- The text without a part at its end that the pattern describes. -/
def cutBack (pattern : List Glob) (longest : Bool) (s : List Char) : List Char :=
  let places := List.range (s.length + 1)
  let places := if longest then places else places.reverse
  match places.find? fun n => matchesGlob pattern (s.drop n) with
  | some n => s.take n
  | none => s

end ProxySync.Text
