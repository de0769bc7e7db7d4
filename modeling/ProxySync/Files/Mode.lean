/-!
# Modes of files

Who may read, write and execute a file, as a number of twelve bits; and how
such a number is written with digits or changed with letters.
-/

namespace ProxySync.Files

/-- The parts of a mode that letters stand for. -/
def whoBits (who : List Char) : Nat :=
  let all := who.isEmpty || who.contains 'a'
  (if all || who.contains 'u' then 0o4700 else 0) ||| (if all || who.contains 'g' then 0o2070 else 0) |||
    (if all || who.contains 'o' then 0o1007 else 0)

/-- One clause of a mode in letters, such as `u+x`. -/
def applyClause (mask : Nat) (isFolder : Bool) (clause : List Char) (mode : Nat) : Option Nat :=
  let who := clause.takeWhile fun c => "ugoa".toList.contains c
  let limit := if who.isEmpty then whoBits [] &&& (Nat.xor 0o7777 mask) else whoBits who
  let rec go : (fuel : Nat) → List Char → Nat → Option Nat
    | 0, _, mode => some mode
    | fuel + 1, s, mode =>
      match s with
      | [] => some mode
      | op :: rest =>
        if op != '+' && op != '-' && op != '=' then none
        else
          let letters := rest.takeWhile fun c => !("+-=".toList.contains c)
          let after := rest.drop letters.length
          let copied (shift : Nat) : Nat :=
            let bits := (mode >>> shift) &&& 7
            bits <<< 6 ||| bits <<< 3 ||| bits
          let bitOf? : Char → Option Nat
            | 'r' => some 0o444
            | 'w' => some 0o222
            | 'x' => some 0o111
            | 'X' => some (if isFolder || mode &&& 0o111 != 0 then 0o111 else 0)
            | 's' => some 0o6000
            | 't' => some 0o1000
            | 'u' => some (copied 6)
            | 'g' => some (copied 3)
            | 'o' => some (copied 0)
            | _ => none
          match letters.mapM bitOf? with
          | none => none
          | some bits =>
            let wanted := bits.foldl (· ||| ·) 0 &&& limit
            let mode := if op == '+' then mode ||| wanted
              else if op == '-' then mode &&& (Nat.xor 0o7777 wanted)
              else (mode &&& (Nat.xor 0o7777 (limit &&& 0o777))) ||| wanted
            go fuel after mode
  if clause.drop who.length == [] then none else go (clause.length + 1) (clause.drop who.length) mode

/-- The mode that a text asks for, from the mode there is. -/
def modeFrom? (text : String) (mask : Nat) (isFolder : Bool) (mode : Nat) : Option Nat :=
  let chars := text.toList
  if chars.isEmpty then none
  else if chars.all fun c => '0' ≤ c && c ≤ '7' then
    let n := chars.foldl (fun n c => 8 * n + (c.toNat - '0'.toNat)) 0
    if 0o7777 < n then none else some n
  else
    (chars.splitOn ',').foldl (fun mode? clause => mode?.bind (applyClause mask isFolder clause))
      (some mode)

/-- A mode as letters. -/
def modeLetters (mode : Nat) : String :=
  let part (shift : Nat) : String :=
    let bits := (mode >>> shift) &&& 7
    (if bits &&& 4 != 0 then "r" else "-") ++ (if bits &&& 2 != 0 then "w" else "-") ++
      (if bits &&& 1 != 0 then "x" else "-")
  part 6 ++ part 3 ++ part 0

def octalMode (mode : Nat) : String :=
  let digits := String.ofList (Nat.toDigits 8 mode)
  "".pushn '0' (4 - digits.length) ++ digits

end ProxySync.Files
