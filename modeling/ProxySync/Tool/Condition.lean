import ProxySync.Files.Disk
import ProxySync.Shell.Arithmetic

/-!
# Conditions

The conditions of `test`: about files, texts and numbers, joined by `!`, `-a`,
`-o` and parentheses. With few words their number decides what an ambiguous
word means.
-/

namespace ProxySync.Tool

open Files

/-! ## Operators -/

inductive OperatorKind where
  | unary
  | binary
  | other
deriving DecidableEq, Repr

def unaryOperators : List String :=
  ["-r", "-w", "-x", "-e", "-f", "-d", "-c", "-b", "-p", "-u", "-g", "-k", "-s", "-t", "-z",
    "-n", "-h", "-O", "-G", "-L", "-S"]

def binaryOperators : List String :=
  ["=", "!=", "<", ">", "-eq", "-ne", "-ge", "-gt", "-le", "-lt", "-nt", "-ot", "-ef"]

def operatorKind? (word : String) : Option OperatorKind :=
  if unaryOperators.contains word then some .unary
  else if binaryOperators.contains word then some .binary
  else if ["!", "-a", "-o", "(", ")"].contains word then some .other
  else none

def isBinary (word : String) : Bool := operatorKind? word == some .binary

/-! ## Files and numbers -/

/-- Where conditions are looked at. -/
structure Scene where
  disk : Disk
  place : Place

def Scene.node? (s : Scene) (path : String) (follow : Bool := true) : Option (Place × Node) :=
  (s.disk.lookup (Text.ofOctets path) follow s.place).toOption

def Scene.modeOf (s : Scene) : Node → Nat
  | .file n => ((s.disk.file? n).map (·.mode)).getD 0
  | .folder mode => mode
  | .link _ => 0o777
  | .device _ => 0o666

/-- What a condition about one file says. -/
def fileHolds (s : Scene) (operator path : String) : Bool :=
  let follow := operator != "-h" && operator != "-L"
  match s.node? path follow with
  | none => false
  | some (_, node) =>
    let mode := s.modeOf node
    match operator, node with
    | "-f", .file _ | "-d", .folder _ | "-c", .device _ | "-h", .link _ | "-L", .link _ => true
    | "-f", _ | "-d", _ | "-c", _ | "-h", _ | "-L", _ | "-b", _ | "-p", _ | "-S", _ => false
    | "-s", .file n => ((s.disk.file? n).map fun f => !f.content.octets.isEmpty).getD false
    | "-s", .device _ => false
    | "-x", .folder _ => true
    | "-x", _ => Nat.land mode 0o111 != 0
    | "-u", _ => Nat.land mode 0o4000 != 0
    | "-g", _ => Nat.land mode 0o2000 != 0
    | "-k", _ => Nat.land mode 0o1000 != 0
    | _, _ => true

/-- What a condition about two words says. -/
def pairHolds (s : Scene) (a operator b : String) : Except String Bool := do
  let number (word : String) : Except String Int :=
    match Shell.decimal? word with
    | some n => pure n
    | none => throw ("Illegal number: " ++ word)
  match operator with
  | "=" => pure (a == b)
  | "!=" => pure (a != b)
  | "<" => pure (decide (a < b))
  | ">" => pure (decide (b < a))
  | "-nt" => pure ((s.node? a).isSome && (s.node? b).isNone)
  | "-ot" => pure ((s.node? a).isNone && (s.node? b).isSome)
  | "-ef" => pure (match s.node? a, s.node? b with
      | some (p, .file m), some (q, .file n) => m == n || p == q
      | some (p, _), some (q, _) => p == q
      | _, _ => false)
  | _ => do
    let a ← number a
    let b ← number b
    match operator with
    | "-eq" => pure (a == b)
    | "-ne" => pure (a != b)
    | "-lt" => pure (decide (a < b))
    | "-le" => pure (decide (a ≤ b))
    | "-gt" => pure (decide (b < a))
    | _ => pure (decide (b ≤ a))

/-! ## Reading conditions -/

/-- The operator that the first word is. A word is none where it has to be an
operand. -/
def leadingOperator? (words : List String) : Option String :=
  match words with
  | [] => none
  | w :: rest =>
    match operatorKind? w with
    | none => none
    | some kind =>
      let isOperand := match rest with
        | [] => true
        | [_] => false
        | next :: _ => isBinary next
      if kind == .unary && isOperand then none
      else if w == "(" && rest.isEmpty then none
      else some w

mutual

/-- Conditions joined by `-o`; the rest begins with the last word used. -/
def anyHolds (s : Scene) : (fuel : Nat) → (operand : Bool) → List String →
    Except String (Bool × List String)
  | 0, _, _ => throw "argument expected"
  | fuel + 1, operand, words => do
    let (a, rest) ← allHold s fuel operand words
    if leadingOperator? rest.tail == some "-o" then
      let (b, rest) ← anyHolds s fuel false (rest.drop 2)
      pure (a || b, rest)
    else pure (a, rest)

def allHold (s : Scene) : (fuel : Nat) → (operand : Bool) → List String →
    Except String (Bool × List String)
  | 0, _, _ => throw "argument expected"
  | fuel + 1, operand, words => do
    let (a, rest) ← negatable s fuel operand words
    if leadingOperator? rest.tail == some "-a" then
      let (b, rest) ← allHold s fuel false (rest.drop 2)
      pure (a && b, rest)
    else pure (a, rest)

def negatable (s : Scene) : (fuel : Nat) → (operand : Bool) → List String →
    Except String (Bool × List String)
  | 0, _, _ => throw "argument expected"
  | fuel + 1, operand, words =>
    if !operand && leadingOperator? words == some "!" then
      match words with
      | _ :: next :: rest => do
        let (a, rest) ← negatable s fuel false (next :: rest)
        pure (!a, rest)
      | _ => pure (true, words)
    else single s fuel operand words

def single (s : Scene) : (fuel : Nat) → (operand : Bool) → List String →
    Except String (Bool × List String)
  | 0, _, _ => throw "argument expected"
  | fuel + 1, operand, words =>
    let operator? := if operand then none else leadingOperator? words
    match words with
    | [] => pure (false, [])
    | w :: rest =>
      if operator? == some "(" then
        if leadingOperator? rest == some ")" then pure (false, rest)
        else do
          let (a, rest) ← anyHolds s fuel false rest
          if leadingOperator? rest.tail == some ")" then pure (a, rest.tail)
          else throw "closing paren expected"
      else if operator?.any (operatorKind? · == some .unary) then
        match rest with
        | [] => throw (w ++ ": argument expected")
        | x :: _ =>
          match w with
          | "-z" => pure (x.isEmpty, rest)
          | "-n" => pure (!x.isEmpty, rest)
          | "-t" =>
            match Shell.decimal? x with
            | some _ => pure (false, rest)
            | none => throw ("Illegal number: " ++ x)
          | _ => pure (fileHolds s w x, rest)
      else
        match rest with
        | operator :: more =>
          if leadingOperator? rest == some operator && isBinary operator then
            match more with
            | [] => throw (operator ++ ": argument expected")
            | b :: _ => return (← pairHolds s w operator b, more)
          else pure (!w.isEmpty, words)
        | [] => pure (!w.isEmpty, words)

end

/-- What the words of a condition say. -/
def conditionHolds (s : Scene) (words : List String) : Except String Bool :=
  let whole (operand : Bool) (words : List String) : Except String Bool := do
    let (a, rest) ← anyHolds s (4 * words.length + 8) operand words
    match rest.tail with
    | [] => pure a
    | _ =>
      let last := rest.headD ""
      throw ((if last.isEmpty then "" else last ++ ": ") ++ "unexpected operator")
  let isPair (words : List String) : Bool :=
    match words with
    | [_, operator, _] => isBinary operator
    | _ => false
  let rec decideBy : (fuel : Nat) → (negated : Bool) → List String → Except String Bool
    | 0, _, _ => throw "argument expected"
    | fuel + 1, negated, words =>
      let answer (r : Except String Bool) : Except String Bool := r.map (· != negated)
      let short := words.length == 3 || words.length == 4
      if words.isEmpty then pure negated
      else if isPair words then answer (whole true words)
      else if short && words.head? == some "(" && words.getLast? == some ")" then
        answer (whole false (words.drop 1).dropLast)
      else if short && words.head? == some "!" then decideBy fuel true words.tail
      else answer (whole false words)
  decideBy (words.length + 1) false words

end ProxySync.Tool
