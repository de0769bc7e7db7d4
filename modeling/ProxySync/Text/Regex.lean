import ProxySync.Text.Pattern

/-!
# Regular expressions

What a regular expression finds in a text, with the parts that its groups
took. From every place an expression is run to all places where it may end;
each place is kept once, with the groups of the first way to it. Of several
matches the leftmost one is taken, and of those the longest.
-/

namespace ProxySync.Text

/-! ## Expressions -/

/-- A condition on a place of a text. -/
inductive Border where
  | textStart
  | textEnd
  /-- The start and the end of any line in it. -/
  | lineStart
  | lineEnd
  | wordStart
  | wordEnd
  | wordEdge
  | noWordEdge
deriving DecidableEq, Repr

inductive Regex where
  | empty
  /-- Matches nothing at all. -/
  | never
  | char (c : Char)
  | any
  | set (negated : Bool) (parts : List Bracket)
  | border (b : Border)
  | seq (a b : Regex)
  | either (a b : Regex)
  | repeated (a : Regex) (least : Nat) (most : Option Nat)
  | group (n : Nat) (a : Regex)
  /-- The text that a group took. -/
  | again (n : Nat)
deriving Repr, Inhabited

namespace Regex

def hasAgain : Regex → Bool
  | again _ => true
  | seq a b | either a b => a.hasAgain || b.hasAgain
  | repeated a _ _ | group _ a => a.hasAgain
  | _ => false

/-- How many groups there are. -/
def groupCount : Regex → Nat
  | seq a b | either a b => a.groupCount + b.groupCount
  | repeated a _ _ => a.groupCount
  | group _ a => a.groupCount + 1
  | _ => 0

end Regex

/-! ## Matching -/

/-- A text with what matching has to know about it. -/
structure Subject where
  chars : Array Char
  /-- Capital and small letters count as the same. -/
  foldCase : Bool := false
  /-- The borders of the text are no starts and ends of lines. -/
  notStart : Bool := false

/-- A place that matching has come to, with the groups so far. -/
structure Found where
  place : Nat
  groups : List (Nat × Nat × Nat) := []
deriving DecidableEq

def isWordChar (c : Char) : Bool := c.isAlphanum || c == '_'

namespace Subject

def char? (s : Subject) (i : Nat) : Option Char := s.chars[i]?

def sameChar (s : Subject) (a b : Char) : Bool :=
  a == b || (s.foldCase && a.toLower == b.toLower)

def slice (s : Subject) (start stop : Nat) : String :=
  String.ofList (s.chars.extract start stop).toList

/-- The border stands at a place. -/
def hasBorder (s : Subject) (i : Nat) (b : Border) : Bool :=
  let isWord (c? : Option Char) : Bool := c?.any isWordChar
  let before := if i == 0 then none else s.char? (i - 1)
  let after := s.char? i
  match b with
  | .textStart => i == 0 && !s.notStart
  | .textEnd => i == s.chars.size
  | .lineStart => (i == 0 && !s.notStart) || before == some '\n'
  | .lineEnd => i == s.chars.size || after == some '\n'
  | .wordStart => !isWord before && isWord after
  | .wordEnd => isWord before && !isWord after
  | .wordEdge => isWord before != isWord after
  | .noWordEdge => isWord before == isWord after

/-- One character that a class accepts. -/
def step (s : Subject) (accepts : Char → Bool) (f : Found) : List Found :=
  match s.char? f.place with
  | some c =>
    let holds := accepts c || (s.foldCase && (accepts c.toLower || accepts c.toUpper))
    if holds then [{ f with place := f.place + 1 }] else []
  | none => []

end Subject

/-- The place has been come to before; where groups matter, with the same
ones. -/
def isKnown (exact : Bool) (seen : List Found) (f : Found) : Bool :=
  seen.any fun g => g.place == f.place && (!exact || g.groups == f.groups)

/-- Each place once. -/
def distinct (exact : Bool) (fs : List Found) : List Found :=
  match fs with
  | [] | [_] => fs
  | fs => (fs.foldl (fun seen f => if isKnown exact seen f then seen else f :: seen) []).reverse

/-- Repeats an expression: from `now` on, at least `least` and at most `most`
more times. What later rounds find is put in front of what is `done`. -/
def rounds (exact : Bool) (once : Found → List Found) : (fuel : Nat) → (least : Nat) →
    (most : Option Nat) → (now done : List Found) → List Found
  | 0, least, _, now, done => if least == 0 then now ++ done else done
  | fuel + 1, least, most, now, done =>
    if now.isEmpty then done
    else
      let done := if least == 0 then now ++ done else done
      if most == some 0 then done
      else
        let next := distinct exact (now.flatMap once)
        let next := if least == 0 then next.filter (!isKnown exact done ·) else next
        rounds exact once fuel (least - 1) (most.map (· - 1)) next done

/-- Where an expression may end that starts at a place. -/
def Regex.ends (s : Subject) (exact : Bool) : Regex → Found → List Found
  | .empty, f => [f]
  | .never, _ => []
  | .char x, f => s.step (· == x) f
  | .any, f => s.step (fun _ => true) f
  | .set negated parts, f =>
    match s.char? f.place with
    | some c =>
      let isIn (c : Char) : Bool := parts.any (·.holds c)
      let holds := isIn c || (s.foldCase && (isIn c.toLower || isIn c.toUpper))
      if holds != negated then [{ f with place := f.place + 1 }] else []
    | none => []
  | .border b, f => if s.hasBorder f.place b then [f] else []
  | .seq a b, f => distinct exact ((a.ends s exact f).flatMap (b.ends s exact))
  | .either a b, f => distinct exact (a.ends s exact f ++ b.ends s exact f)
  | .repeated a least most, f =>
    rounds exact (a.ends s exact) (s.chars.size - f.place + least + 1) least most [f] []
  | .group n a, f =>
    (a.ends s exact f).map fun g =>
      { g with groups := (n, f.place, g.place) :: g.groups.filter (·.1 != n) }
  | .again n, f =>
    match f.groups.lookup n with
    | some (start, stop) =>
      let length := stop - start
      let same := (List.range length).all fun i =>
        match s.char? (start + i), s.char? (f.place + i) with
        | some a, some b => s.sameChar a b
        | _, _ => false
      if same then [{ f with place := f.place + length }] else []
    | none => []

/-- A match: where it starts and ends, and what the groups took. -/
structure Match where
  start : Nat
  stop : Nat
  groups : List (Nat × Nat × Nat)

/-- The text that a group took. -/
def Match.group (m : Match) (s : Subject) (n : Nat) : String :=
  if n == 0 then s.slice m.start m.stop
  else
    match m.groups.lookup n with
    | some (start, stop) => s.slice start stop
    | none => ""

/-- The longest match that starts at a place. -/
def Regex.matchAt? (r : Regex) (s : Subject) (i : Nat) : Option Match :=
  let longest (best : Option Found) (f : Found) : Option Found :=
    match best with
    | some b => if b.place < f.place then some f else some b
    | none => some f
  ((r.ends s r.hasAgain { place := i }).foldl longest none).map fun f => ⟨i, f.place, f.groups⟩

/-- The first match from a place on. -/
def Regex.find? (r : Regex) (s : Subject) (start : Nat := 0) : Option Match :=
  (List.range' start (s.chars.size + 1 - start)).findSome? (r.matchAt? s)

/-- The text has a part that matches. -/
def Regex.isIn (r : Regex) (foldCase : Bool) (text : String) : Bool :=
  (r.find? { chars := text.toList.toArray, foldCase := foldCase }).isSome

end ProxySync.Text
