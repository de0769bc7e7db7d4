/-!
# Characters behind a backslash

How backslashes are read in the texts of `echo` and in the formats of
`printf`. A backslash before anything else stands for itself.
-/

namespace ProxySync.Tool

def isOctalDigit (c : Char) : Bool := '0' ≤ c && c ≤ '7'

/-- The character of some octal digits. -/
def octalChar (digits : List Char) : Char :=
  Char.ofNat (digits.foldl (fun n c => 8 * n + (c.toNat - '0'.toNat)) 0 % 256)

/-- The character that a letter behind a backslash stands for. -/
def escapedLetter? : Char → Option Char
  | '\\' => some '\\'
  | 'a' => some '\x07'
  | 'b' => some '\x08'
  | 'e' => some '\x1b'
  | 'f' => some '\x0c'
  | 'n' => some '\n'
  | 'r' => some '\r'
  | 't' => some '\t'
  | 'v' => some '\x0b'
  | _ => none

/-- Reads what stands behind a backslash: its character and the rest. -/
def readEscape (s : List Char) : Char × List Char :=
  match s with
  | [] => ('\\', [])
  | c :: rest =>
    if isOctalDigit c then
      let digits := (s.take 3).takeWhile isOctalDigit
      (octalChar digits, s.drop digits.length)
    else
      match escapedLetter? c with
      | some e => (e, rest)
      | none => ('\\', s)

/-- A text with its backslashes read, and whether it goes on. Where nothing
goes on, nothing else is to be written either. -/
def unescape : (steps : Nat) → List Char → List Char × Bool
  | 0, _ => ([], true)
  | steps + 1, s =>
    match s with
    | [] => ([], true)
    | '\\' :: 'c' :: _ => ([], false)
    | '\\' :: '0' :: rest =>
      let digits := (rest.take 3).takeWhile isOctalDigit
      let (text, more) := unescape steps (rest.drop digits.length)
      (octalChar digits :: text, more)
    | '\\' :: rest =>
      let (c, rest) := readEscape rest
      let (text, more) := unescape steps rest
      (c :: text, more)
    | c :: rest =>
      let (text, more) := unescape steps rest
      (c :: text, more)

def unescapeText (s : String) : String × Bool :=
  let (text, more) := unescape (s.length + 1) s.toList
  (String.ofList text, more)

/-- What `echo` writes. -/
def echoed (words : List String) : String :=
  let (words, ending) := match words with
    | "-n" :: rest => (rest, "")
    | words => (words, "\n")
  let rec go : List String → String
    | [] => ending
    | [w] =>
      let (text, more) := unescapeText w
      if more then text ++ ending else text
    | w :: rest =>
      let (text, more) := unescapeText w
      if more then text ++ " " ++ go rest else text
  go words

end ProxySync.Tool
