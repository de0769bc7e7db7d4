import ProxySync.Shell.Session

/-!
# Arithmetic of the shell

Whole numbers of 64 bits with the operators of conditions, shifts and
assignments. A variable without a value counts as zero, and only those
assignments are made that the conditions around them reach.
-/

namespace ProxySync.Shell

/-! ## Numbers -/

/-- A number as 64 bits hold it. -/
def wrap (n : Int) : Int := Int.bmod n UInt64.size

def digitValue? (c : Char) : Option Nat :=
  if c.isDigit then some (c.toNat - '0'.toNat)
  else if 'a' ≤ c ∧ c ≤ 'f' then some (c.toNat - 'a'.toNat + 10)
  else if 'A' ≤ c ∧ c ≤ 'F' then some (c.toNat - 'A'.toNat + 10)
  else none

/-- The digits in front in base `base`, their value and the rest. -/
def spanDigits (base : Nat) (s : List Char) : Nat × Nat × List Char :=
  let isOne (c : Char) : Bool := (digitValue? c).any (· < base)
  let digits := s.takeWhile isOne
  let value := digits.foldl (fun n c => base * n + (digitValue? c).getD 0) 0
  (digits.length, value, s.drop digits.length)

def largest : Nat := Int64.maxValue.toNatClampNeg

/-- A number in front, hexadecimal after `0x`, octal after `0` and decimal
otherwise; one that is too large becomes the largest. -/
def spanNumber (s : List Char) : Option (Nat × List Char) :=
  let bounded (r : Nat × Nat × List Char) : Option (Nat × List Char) :=
    if r.1 == 0 then none else some (min r.2.1 largest, r.2.2)
  match s with
  | '0' :: x :: rest =>
    if x == 'x' || x == 'X' then
      match bounded (spanDigits 16 rest) with
      | some r => some r
      | none => some (0, x :: rest)
    else bounded (spanDigits 8 s)
  | _ => bounded (spanDigits 10 s)

def isBlankChar (c : Char) : Bool := c == ' ' || ('\t' ≤ c && c ≤ '\r')

/-- The number that is the whole of a text, with blanks around it. -/
def wholeNumber? (s : String) : Option Int :=
  let s := s.toList.dropWhile isBlankChar
  let (negative, digits) := match s with
    | '-' :: rest => (true, rest)
    | '+' :: rest => (false, rest)
    | rest => (false, rest)
  match spanNumber digits with
  | some (n, rest) =>
    if rest.all isBlankChar then some (if negative then -(n : Int) else n) else none
  | none => none

/-- The decimal number that is the whole of a text, with blanks around it. -/
def decimal? (s : String) : Option Int :=
  let s := s.toList.dropWhile isBlankChar
  let (negative, digits) := match s with
    | '-' :: rest => (true, rest)
    | '+' :: rest => (false, rest)
    | rest => (false, rest)
  let (count, n, rest) := spanDigits 10 digits
  let bound := if negative then largest + 1 else largest
  if count == 0 || bound < n || !rest.all isBlankChar then none
  else some (if negative then -(n : Int) else n)

/-! ## Tokens -/

inductive Sum where
  | number (n : Int)
  | name (text : String)
  | operator (text : String)
deriving DecidableEq, Repr

/-- The operators, longer ones in front of those they start with. -/
def sumOperators : List String :=
  ["<<=", ">>=", "<<", ">>", "<=", ">=", "==", "!=", "&&", "||", "*=", "/=", "%=", "+=", "-=",
    "&=", "^=", "|=", "(", ")", "!", "~", "+", "-", "*", "/", "%", "<", ">", "&", "^", "|", "?",
    ":", "="]

/-- The tokens of a calculation, as far as there are any. The flag tells
whether nothing else follows. -/
def sumTokens : (steps : Nat) → List Char → List Sum × Bool
  | 0, _ => ([], false)
  | steps + 1, s =>
    match s with
    | [] => ([], true)
    | c :: rest =>
      if isBlankChar c then sumTokens steps rest
      else if c.isDigit then
        match spanNumber s with
        | some (n, rest) =>
          let (ts, whole) := sumTokens steps rest
          (.number n :: ts, whole)
        | none => ([], false)
      else if startsName c then
        let name := s.takeWhile isNameChar
        let (ts, whole) := sumTokens steps (s.drop name.length)
        (.name (String.ofList name) :: ts, whole)
      else
        match sumOperators.find? fun o => o.toList.isPrefixOf s with
        | some o =>
          let (ts, whole) := sumTokens steps (s.drop o.length)
          (.operator o :: ts, whole)
        | none => ([], false)

/-! ## Calculating -/

inductive SumFault where
  | primary
  | trailing
  | parenthesis
  | colon
  | division
  | illegal (text : String)
  | fixed (name : String)
deriving DecidableEq, Repr

/-- What is said of a calculation that fails. -/
def SumFault.message (text : String) : SumFault → String
  | primary => "arithmetic expression: expecting primary: \"" ++ text ++ "\""
  | trailing => "arithmetic expression: expecting EOF: \"" ++ text ++ "\""
  | parenthesis => "arithmetic expression: expecting ')': \"" ++ text ++ "\""
  | colon => "arithmetic expression: expecting ':': \"" ++ text ++ "\""
  | division => "arithmetic expression: division by zero: \"" ++ text ++ "\""
  | illegal value => "Illegal number: " ++ value
  | fixed name => name ++ ": is read only"

structure Calculation where
  session : Session
  tokens : List Sum

abbrev Calculating := StateT Calculation (Except SumFault)

namespace Calculating

def next? : Calculating (Option Sum) := do return (← get).tokens.head?

def drop : Calculating Unit := modify fun c => { c with tokens := c.tokens.tail }

/-- Takes the operator if it is the next token. -/
def takeIf (text : String) : Calculating Bool := do
  if (← next?) == some (.operator text) then
    drop
    pure true
  else pure false

def valueOf (name : String) : Calculating Int := do
  let text := ((← get).session.value? name).getD ""
  if text.toList.all isBlankChar then pure 0
  else
    match wholeNumber? text with
    | some n => pure n
    | none => throw (.illegal text)

end Calculating

open Calculating

/-- How tightly an operator between two numbers binds. -/
def bindingOf : String → Nat
  | "*" | "/" | "%" => 10
  | "+" | "-" => 9
  | "<<" | ">>" => 8
  | "<" | ">" | "<=" | ">=" => 7
  | "==" | "!=" => 6
  | "&" => 5
  | "^" => 4
  | "|" => 3
  | _ => 0

def truth (b : Bool) : Int := if b then 1 else 0

/-- Two numbers as bits. -/
def onBits (f : UInt64 → UInt64 → UInt64) (a b : Int) : Int :=
  wrap (f (UInt64.ofInt a) (UInt64.ofInt b)).toNat

/-- The result of an operator; dividing by zero fails. -/
def combine (op : String) (a b : Int) : Except SumFault Int :=
  match op with
  | "*" => .ok (wrap (a * b))
  | "/" => if b == 0 then .error .division else .ok (wrap (Int.tdiv a b))
  | "%" => if b == 0 then .error .division else .ok (wrap (Int.tmod a b))
  | "+" => .ok (wrap (a + b))
  | "-" => .ok (wrap (a - b))
  | "<<" => .ok (onBits (fun x y => x <<< y) a b)
  | ">>" => .ok (wrap (Int.shiftRight a (Int.emod b 64).toNat))
  | "<" => .ok (truth (decide (a < b)))
  | ">" => .ok (truth (decide (b < a)))
  | "<=" => .ok (truth (decide (a ≤ b)))
  | ">=" => .ok (truth (decide (b ≤ a)))
  | "==" => .ok (truth (a == b))
  | "!=" => .ok (truth (a != b))
  | "&" => .ok (onBits (fun x y => x &&& y) a b)
  | "^" => .ok (onBits (fun x y => x ^^^ y) a b)
  | "|" => .ok (onBits (fun x y => x ||| y) a b)
  | _ => .ok 0

/-- The operator of an assignment that changes a value. -/
def assignmentOperator? (text : String) : Option String :=
  if ["*=", "/=", "%=", "+=", "-=", "<<=", ">>=", "&=", "^=", "|="].contains text then
    some (String.ofList text.toList.dropLast)
  else none

def store (name : String) (n : Int) : Calculating Int := do
  let c ← get
  if c.session.isFixed name then throw (.fixed name)
  else
    set { c with session := c.session.assign name (toString n) }
    pure n

mutual

/-- An assignment or a condition. Where `live` is not set, nothing is
assigned and nothing fails. -/
def calculate : (fuel : Nat) → (live : Bool) → Calculating Int
  | 0, _ => throw .primary
  | fuel + 1, live => do
    match (← get).tokens with
    | .name name :: .operator "=" :: _ => do
      drop
      drop
      let n ← calculate fuel live
      if live then store name n else pure n
    | .name name :: .operator text :: _ =>
      match assignmentOperator? text with
      | some op => do
        drop
        drop
        let n ← calculate fuel live
        if live then
          let old ← valueOf name
          match combine op old n with
          | .ok n => store name n
          | .error e => throw e
        else pure n
      | none => calculateChoice fuel live
    | _ => calculateChoice fuel live

def calculateChoice : (fuel : Nat) → (live : Bool) → Calculating Int
  | 0, _ => throw .primary
  | fuel + 1, live => do
    let a ← calculateEither fuel live
    if ← takeIf "?" then
      let yes ← calculate fuel (live && a != 0)
      if ← takeIf ":" then
        let no ← calculateChoice fuel (live && a == 0)
        pure (if a != 0 then yes else no)
      else throw .colon
    else pure a

def calculateEither : (fuel : Nat) → (live : Bool) → Calculating Int
  | 0, _ => throw .primary
  | fuel + 1, live => do
    let a ← calculateBoth fuel live
    if ← takeIf "||" then
      let b ← calculateEither fuel (live && a == 0)
      pure (truth (a != 0 || b != 0))
    else pure a

def calculateBoth : (fuel : Nat) → (live : Bool) → Calculating Int
  | 0, _ => throw .primary
  | fuel + 1, live => do
    let a ← calculateJoined fuel live 3
    if ← takeIf "&&" then
      let b ← calculateBoth fuel (live && a != 0)
      pure (truth (a != 0 && b != 0))
    else pure a

/-- Numbers joined by operators that bind at least as tightly as `least`. -/
def calculateJoined : (fuel : Nat) → (live : Bool) → (least : Nat) → Calculating Int
  | 0, _, _ => throw .primary
  | fuel + 1, live, least => do continueJoinedSum fuel live least (← calculatePrimary fuel live)

def continueJoinedSum : (fuel : Nat) → (live : Bool) → (least : Nat) → Int → Calculating Int
  | 0, _, _, _ => throw .primary
  | fuel + 1, live, least, a => do
    match ← next? with
    | some (.operator op) =>
      let binding := bindingOf op
      if binding == 0 || binding < least then pure a
      else do
        drop
        let b ← calculateJoined fuel live (binding + 1)
        match combine op a b with
        | .ok n => continueJoinedSum fuel live least n
        | .error e => if live then throw e else continueJoinedSum fuel live least 0
    | _ => pure a

def calculatePrimary : (fuel : Nat) → (live : Bool) → Calculating Int
  | 0, _ => throw .primary
  | fuel + 1, live => do
    match ← next? with
    | some (.number n) => do
      drop
      pure n
    | some (.name name) => do
      drop
      if live then valueOf name else pure 0
    | some (.operator "(") => do
      drop
      let n ← calculate fuel live
      if ← takeIf ")" then pure n else throw .parenthesis
    | some (.operator "-") => do
      drop
      return wrap (-(← calculatePrimary fuel live))
    | some (.operator "+") => do
      drop
      calculatePrimary fuel live
    | some (.operator "!") => do
      drop
      return truth ((← calculatePrimary fuel live) == 0)
    | some (.operator "~") => do
      drop
      return -(← calculatePrimary fuel live) - 1
    | _ => throw .primary

end

/-- The value of a calculation, with the session after it. -/
def calculateText (s : Session) (text : String) : Except String (Int × Session) :=
  let (tokens, whole) := sumTokens (text.length + 1) text.toList
  match (calculate (16 * tokens.length + 16) true).run ⟨s, tokens⟩ with
  | .error e => .error (e.message text)
  | .ok (n, c) =>
    if whole && c.tokens.isEmpty then .ok (n, c.session)
    else .error (SumFault.trailing.message text)

end ProxySync.Shell
