import ProxySync.Tool.Condition
import ProxySync.Tool.Escape
import ProxySync.Tool.Format
import ProxySync.Tool.Lines
import ProxySync.Text.RegexReader

/-!
# Tools that work on their words

Tools whose answer depends on nothing but the words they are called with:
`echo`, `printf`, `test`, `basename`, `dirname`, `expr`, `seq` and `yes`.
-/

namespace ProxySync.Tool

open Files

/-! ## echo, printf, test -/

def isHexDigit (c : Char) : Bool := (Shell.digitValue? c).isSome

def hexChar (digits : List Char) : Char :=
  Char.ofNat (digits.foldl (fun n c => 16 * n + (Shell.digitValue? c).getD 0) 0 % 256)

/-- A text of `echo -e`, and whether it goes on. -/
def unescapeEcho : (steps : Nat) → List Char → List Char × Bool
  | 0, _ => ([], true)
  | steps + 1, s =>
    let goOn (c : List Char) (rest : List Char) : List Char × Bool :=
      let (text, more) := unescapeEcho steps rest
      (c ++ text, more)
    match s with
    | [] => ([], true)
    | '\\' :: 'c' :: _ => ([], false)
    | '\\' :: 'x' :: c :: rest =>
      if isHexDigit c then
        let digits := ((c :: rest).take 2).takeWhile isHexDigit
        goOn [hexChar digits] ((c :: rest).drop digits.length)
      else goOn ['\\', 'x'] (c :: rest)
    | '\\' :: '0' :: rest =>
      let digits := (rest.take 3).takeWhile isOctalDigit
      goOn [octalChar digits] (rest.drop digits.length)
    | '\\' :: c :: rest =>
      if isOctalDigit c then
        let digits := ((c :: rest).take 3).takeWhile isOctalDigit
        goOn [octalChar digits] ((c :: rest).drop digits.length)
      else
        match escapedLetter? c with
        | some e => goOn [e] rest
        | none => goOn ['\\', c] rest
    | c :: rest => goOn [c] rest

/-- Joins texts by blanks as far as they go on. -/
def joinedEcho : List (List Char × Bool) → List Char × Bool
  | [] => ([], true)
  | [one] => one
  | (text, false) :: _ => (text, false)
  | (text, true) :: rest =>
    let (more, goesOn) := joinedEcho rest
    (text ++ ' ' :: more, goesOn)

/-- The tool `echo`. -/
def echoTool : Doing Unit := do
  let words := (← Doing.call).arguments
  if words == ["--help"] || words == ["--version"] then Doing.quit 0
  else
    let isOption (w : String) : Bool :=
      match w.toList with
      | '-' :: c :: rest => (c :: rest).all fun c => c == 'n' || c == 'e' || c == 'E'
      | _ => false
    let options := words.takeWhile isOption
    let letters := options.flatMap String.toList
    let rest := words.drop options.length
    let escapes := ((letters.reverse.find? fun c => c == 'e' || c == 'E')) == some 'e'
    let ending := if letters.contains 'n' then "" else "\n"
    if escapes then
      let (text, goesOn) := joinedEcho (rest.map fun w => unescapeEcho (w.length + 1) w.toList)
      Doing.write (String.ofList text ++ (if goesOn then ending else ""))
    else Doing.write (" ".intercalate rest ++ ending)

/-- The tool `printf`. -/
def printfTool : Doing Unit := do
  let words := (← Doing.call).arguments
  let words := if words.head? == some "--" then words.tail else words
  match words with
  | [] => Doing.misuse "missing operand"
  | format :: arguments =>
    let (text, complaints, fault) := formatted format arguments
    Doing.write text
    complaints.forM fun s => Doing.refuse s
    match fault with
    | some s => Doing.refuse s
    | none => pure ()

/-- The tool `test`, also under its shorter name, which needs a closing
bracket. -/
def testTool (bracketed : Bool) : Doing Unit := do
  let c ← Doing.call
  let words ← if !bracketed then pure c.arguments
    else if c.arguments.getLast? == some "]" then pure c.arguments.dropLast
    else do
      Doing.complain "missing ']'"
      Doing.quit 2
  let d := (← get).disk
  match conditionHolds { disk := d, place := c.place } words with
  | .ok true => pure ()
  | .ok false => Doing.quit 1
  | .error s => do
    Doing.complain s
    Doing.quit 2

/-- The tool `yes`. -/
def yes : Doing Unit := do
  let words := (← Doing.call).arguments
  let words := if words.head? == some "--" then words.tail else words
  let line := (if words.isEmpty then "y" else " ".intercalate words) ++ "\n"
  let times := 1 + 2048 / line.length
  throw (.repeats (String.join (List.replicate times line)))

/-! ## basename, dirname -/

def withoutSlashes (s : List Char) : List Char := (s.reverse.dropWhile (· == '/')).reverse

/-- The last part of a path. -/
def lastPart (path : String) : String :=
  let s := withoutSlashes path.toList
  if s.isEmpty then if path.isEmpty then "" else "/"
  else String.ofList ((s.reverse.takeWhile (· != '/')).reverse)

/-- What is left of a path without its last part. -/
def folderPart (path : String) : String :=
  let s := withoutSlashes path.toList
  if s.isEmpty then if path.isEmpty then "." else "/"
  else
    let folder := (s.reverse.dropWhile (· != '/')).reverse
    if folder.isEmpty then "."
    else
      let folder := withoutSlashes folder
      if folder.isEmpty then "/" else String.ofList folder

/-- A name without an ending, unless it is nothing but that. -/
def withoutEnding (ending name : String) : String :=
  if name.endsWith ending && name != ending then
    String.ofList (name.toList.take (name.length - ending.length))
  else name

def basenameOptions : Options where
  letters := "as:z"
  names := [("multiple", 'a'), ("suffix", 's'), ("zero", 'z')]
  anywhere := false

/-- The tool `basename`. -/
def basename : Doing Unit := do
  let p ← basenameOptions.parsed
  let mark := p.mark.toString
  match p.operands with
  | [] => Doing.misuse "missing operand"
  | operands =>
    if p.has 'a' || p.has 's' then
      let ending := (p.last? 's').getD ""
      for path in operands do
        Doing.write (withoutEnding ending (lastPart path) ++ mark)
    else
      match operands with
      | [path] => Doing.write (lastPart path ++ mark)
      | [path, ending] => Doing.write (withoutEnding ending (lastPart path) ++ mark)
      | _ => Doing.misuse ("extra operand " ++ quotedText ((operands[2]?).getD ""))

/-- The tool `dirname`. -/
def dirname : Doing Unit := do
  let p ← ({ letters := "z", names := [("zero", 'z')] } : Options).parsed
  if p.operands.isEmpty then Doing.misuse "missing operand"
  else
    for path in p.operands do
      Doing.write (folderPart path ++ p.mark.toString)

/-! ## expr -/

/-- Why an expression has no value. -/
inductive ExprFault where
  | missingAfter (word : String)
  | unexpected (word : String)
  | unclosed (word : String)
  | notANumber
  | byZero
  | pattern (fault : Text.RegexFault)

def ExprFault.message : ExprFault → String
  | missingAfter word => "syntax error: missing argument after " ++ quotedText word
  | unexpected word => "syntax error: unexpected argument " ++ quotedText word
  | unclosed word => "syntax error: expecting ')' after " ++ quotedText word
  | notANumber => "non-integer argument"
  | byZero => "division by zero"
  | pattern fault => fault.message

/-- What is left of the words, and the word before them. -/
structure ExprWords where
  rest : List String
  previous : String := ""

abbrev ExprReading := StateT ExprWords (Except ExprFault)

/-- The whole number that a text is. -/
def exprNumber? (s : String) : Option Int :=
  match s.toList with
  | '-' :: digits => (count? (String.ofList digits)).map fun n => -(n : Int)
  | _ => (count? s).map fun n => (n : Int)

/-- The text stands for nothing. -/
def isVoid (s : String) : Bool :=
  s.isEmpty || (match s.toList with
    | '-' :: digits => !digits.isEmpty && digits.all (· == '0')
    | digits => digits.all (· == '0'))

namespace ExprReading

def next : ExprReading String := do
  let w ← get
  match w.rest with
  | [] => throw (.missingAfter w.previous)
  | a :: rest => do
    set ({ rest := rest, previous := a } : ExprWords)
    pure a

/-- Takes the next word if it is this one. -/
def takes (word : String) : ExprReading Bool := do
  let w ← get
  match w.rest with
  | a :: rest =>
    if a == word then do
      set ({ rest := rest, previous := a } : ExprWords)
      pure true
    else pure false
  | [] => pure false

def peek? : ExprReading (Option String) := do return (← get).rest.head?

end ExprReading

/-- What `:` gives: the text of the first group, or the length of the match. -/
def matchValue (text pattern : String) : Except ExprFault String := do
  match Text.Regex.ofString { extended := false } pattern with
  | .error e => throw (.pattern e)
  | .ok r =>
    let subject : Text.Subject := { chars := text.toList.toArray }
    let hasGroup := 0 < r.groupCount
    match r.matchAt? subject 0 with
    | some m => pure (if hasGroup then m.group subject 1 else toString (m.stop - m.start))
    | none => pure (if hasGroup then "" else "0")

def compareExpr (operator a b : String) : Bool :=
  let o := match exprNumber? a, exprNumber? b with
    | some m, some n => compare m n
    | _, _ => compare a b
  match operator with
  | "<" => o == .lt
  | "<=" => o != .gt
  | "=" | "==" => o == .eq
  | "!=" => o != .eq
  | ">=" => o != .lt
  | _ => o == .gt

def exprArithmetic (operator a b : String) : Except ExprFault String := do
  match exprNumber? a, exprNumber? b with
  | some m, some n =>
    if (operator == "/" || operator == "%") && n == 0 then throw .byZero
    else
      pure (toString (match operator with
        | "+" => m + n
        | "-" => m - n
        | "*" => m * n
        | "/" => m.tdiv n
        | _ => m.tmod n))
  | _, _ => throw .notANumber

/-- The operators from the one that binds least to the one that binds most. -/
def exprLevels : List (List String) :=
  [["|"], ["&"], ["<", "<=", "=", "==", "!=", ">=", ">"], ["+", "-"], ["*", "/", "%"], [":"]]

mutual

/-- Reads what stands at a level; where it does not count, it is not
computed. -/
def readExpr : (fuel : Nat) → (counts : Bool) → (levels : List (List String)) → ExprReading String
  | 0, _, _ => throw (.missingAfter "")
  | fuel + 1, counts, [] => readExprOperand fuel counts
  | fuel + 1, counts, level :: levels => do
    let a ← readExpr fuel counts levels
    readExprRest fuel counts level levels a

def readExprRest : (fuel : Nat) → (counts : Bool) → (level : List String) →
    (levels : List (List String)) → (left : String) → ExprReading String
  | 0, _, _, _, _ => throw (.missingAfter "")
  | fuel + 1, counts, level, levels, a => do
    match ← ExprReading.peek? with
    | none => pure a
    | some operator =>
      if !level.contains operator then pure a
      else
        let _ ← ExprReading.next
        let countsNext := counts && (match operator with
          | "|" => isVoid a
          | "&" => !isVoid a
          | _ => true)
        let b ← readExpr fuel countsNext levels
        let value ← match operator with
          | "|" => pure (if !isVoid a then a else if isVoid b then "0" else b)
          | "&" => pure (if isVoid a || isVoid b then "0" else a)
          | ":" => if counts then (matchValue a b : Except ExprFault String) else pure ""
          | "+" | "-" | "*" | "/" | "%" =>
            if counts then (exprArithmetic operator a b : Except ExprFault String) else pure "1"
          | _ => pure (if compareExpr operator a b then "1" else "0")
        readExprRest fuel counts level levels value

def readExprOperand : (fuel : Nat) → (counts : Bool) → ExprReading String
  | 0, _ => throw (.missingAfter "")
  | fuel + 1, counts => do
    match ← ExprReading.next with
    | "+" => ExprReading.next
    | "length" => do
      let s ← readExprOperand fuel counts
      pure (toString s.length)
    | "match" => do
      let s ← readExprOperand fuel counts
      let pattern ← readExprOperand fuel counts
      if counts then (matchValue s pattern : Except ExprFault String) else pure ""
    | "index" => do
      let s ← readExprOperand fuel counts
      let set ← readExprOperand fuel counts
      pure (toString (((s.toList.findIdx? set.toList.contains).map (· + 1)).getD 0))
    | "substr" => do
      let s ← readExprOperand fuel counts
      let start ← readExprOperand fuel counts
      let length ← readExprOperand fuel counts
      match exprNumber? start, exprNumber? length with
      | some i, some n =>
        if i ≤ 0 || n ≤ 0 then pure ""
        else pure (String.ofList ((s.toList.drop (i.toNat - 1)).take n.toNat))
      | _, _ => pure ""
    | "(" => do
      let value ← readExpr fuel counts exprLevels
      if ← ExprReading.takes ")" then pure value
      else
        let w ← get
        match w.rest with
        | [] => throw (.unclosed w.previous)
        | a :: _ => throw (.unexpected a)
    | ")" => throw (.unexpected ")")
    | w => pure w

end

/-- The tool `expr`. -/
def expr : Doing Unit := do
  let words := (← Doing.call).arguments
  if words == ["--help"] || words == ["--version"] then Doing.quit 0
  let words := if words.head? == some "--" then words.tail else words
  let fault (e : ExprFault) : Doing Unit := do
    Doing.complain e.message
    Doing.quit 2
  if words.isEmpty then Doing.misuse "missing operand" 2
  else
    match (readExpr (12 * words.length + 16) true exprLevels).run { rest := words } with
    | .error e => fault e
    | .ok (value, w) =>
      match w.rest with
      | a :: _ => fault (.unexpected a)
      | [] => do
        Doing.writeLine value
        if isVoid value then Doing.quit 1

/-! ## seq -/

/-- A number with some places behind the point. -/
structure Decimal where
  /-- The number without its point. -/
  units : Int
  places : Nat
  /-- How many characters it was written with. -/
  width : Nat

def Decimal.at (d : Decimal) (places : Nat) : Int := d.units * (Nat.pow 10 (places - d.places) : Nat)

/-- The largest exponent that is read. -/
def exponentLimit : Nat := 300

def readDecimal? (text : String) : Option Decimal := do
  let s := text.toList.dropWhile isSpaceChar
  let s := if s.head? == some '+' then s.tail else s
  let negative := s.head? == some '-'
  let body := if negative then s.tail else s
  let whole := body.takeWhile Char.isDigit
  let rest := body.drop whole.length
  let (fraction, rest) := match rest with
    | '.' :: more => (more.takeWhile Char.isDigit, more.dropWhile Char.isDigit)
    | rest => ([], rest)
  if whole.isEmpty && fraction.isEmpty then none
  let exponent : Int ← match rest with
    | [] => some 0
    | e :: sign :: digits =>
      if e != 'e' && e != 'E' then none
      else if sign == '-' then (count? (String.ofList digits)).map fun n => -(n : Int)
      else if sign == '+' then (count? (String.ofList digits)).map fun n => (n : Int)
      else (count? (String.ofList (sign :: digits))).map fun n => (n : Int)
    | _ => none
  if exponentLimit < exponent.natAbs then none
  let value := (whole ++ fraction).foldl (fun n c => 10 * n + (c.toNat - 48)) 0
  let power : Int := exponent - fraction.length
  let units : Int := if 0 ≤ power then (value * Nat.pow 10 power.toNat : Nat) else (value : Nat)
  let places := if 0 ≤ power then 0 else (-power).toNat
  pure { units := if negative then -units else units, places := places, width := s.length }

/-- A number of units with a point in it. -/
def fixedDecimal (places : Nat) (units : Int) : String :=
  let digits := toString units.natAbs
  let digits := String.ofList (List.replicate (places + 1 - digits.length) '0') ++ digits
  let whole := digits.toList.take (digits.length - places)
  let fraction := digits.toList.drop (digits.length - places)
  (if units < 0 then "-" else "") ++ String.ofList whole ++
    (if places == 0 then "" else "." ++ String.ofList fraction)

/-- Noughts between the sign and the digits. -/
def zeroPadded (width : Nat) (s : String) : String :=
  let (sign, digits) := if s.startsWith "-" then ("-", s.toList.tail) else ("", s.toList)
  sign ++ String.ofList (List.replicate (width - s.length) '0' ++ digits)

/-- How many numbers are written at most. -/
def seqLimit : Nat := 2000000

def seqOptions : Options where
  letters := "f:s:w"
  names := [("equal-width", 'w'), ("format", 'f'), ("separator", 's')]
  anywhere := false

/-- Words in which a number with a minus sign is no option. -/
def guardNumbers : List String → List String
  | [] => []
  | "-s" :: a :: rest => "-s" :: a :: guardNumbers rest
  | "-f" :: a :: rest => "-f" :: a :: guardNumbers rest
  | w :: rest =>
    match w.toList with
    | '-' :: c :: _ =>
      if c.isDigit || c == '.' then "--" :: w :: rest else w :: guardNumbers rest
    | _ => w :: rest

/-- The tool `seq`. -/
def seq : Doing Unit := do
  modify fun j => { j with call := { j.call with arguments := guardNumbers j.call.arguments } }
  let p ← seqOptions.parsed
  let read (text : String) : Doing Decimal := do
    match readDecimal? text with
    | some d => pure d
    | none => Doing.misuse ("invalid floating point argument: " ++ quotedText text)
  if p.operands.isEmpty then Doing.misuse "missing operand"
  match p.operands with
  | _ :: _ :: _ :: extra :: _ => Doing.misuse ("extra operand " ++ quotedText extra)
  | _ => pure ()
  let numbers ← p.operands.mapM read
  let one : Decimal := ⟨1, 0, 1⟩
  let (first, step, last) := match numbers with
    | [last] => (one, one, last)
    | [first, last] => (first, one, last)
    | [first, step, last] => (first, step, last)
    | _ => (one, one, one)
  if step.units == 0 then
    Doing.misuse ("invalid Zero increment value: " ++ quotedText ((p.operands[1]?).getD ""))
  let places := max (max first.places step.places) last.places
  let shown := max first.places step.places
  let a := first.at places
  let by_ := step.at places
  let b := last.at places
  let count := if 0 < by_ then (if b < a then 0 else ((b - a) / by_).toNat + 1)
    else (if a < b then 0 else ((a - b) / (-by_)).toNat + 1)
  let widthOf (d : Decimal) (text : String) : Nat :=
    let point := if d.places == 0 && 0 < shown then 1 else 0
    text.length + point + (shown - d.places) - (if shown < d.places then d.places - shown else 0) -
      (if shown == 0 && 0 < d.places then 1 else 0)
  let firstText := if p.operands.length == 1 then "1" else p.operands.headD ""
  let width := max (widthOf first firstText) (widthOf last (p.operands.getLast?.getD ""))
  let text (i : Nat) : String :=
    let units := (a + i * by_) / (Nat.pow 10 (places - shown) : Nat)
    let plain := fixedDecimal shown units
    match p.last? 'f' with
    | some format => (formatted format [plain]).1
    | none => if p.has 'w' then zeroPadded width plain else plain
  let separator := (p.last? 's').getD "\n"
  if 0 < count then
    let texts := (List.range (min count seqLimit)).map text
    Doing.write (separator.intercalate texts ++ "\n")

end ProxySync.Tool
