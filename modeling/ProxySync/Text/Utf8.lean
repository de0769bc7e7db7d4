/-!
# UTF-8

Bytes are read as characters one after the other. A byte that belongs to no
character stands alone as `none`.
-/

namespace ProxySync.Text

/-- The six bits of a continuation byte. -/
def continuation? (b : UInt8) : Option Nat :=
  if 0x80 ≤ b && b < 0xC0 then some (b.toNat - 0x80) else none

/-- The character of a code, unless it is a surrogate, too large, or needs
fewer bytes than it was written with. -/
def charAbove? (least code : Nat) : Option Char :=
  if code < least || (0xD800 ≤ code && code < 0xE000) || 0x110000 ≤ code then none
  else some (Char.ofNat code)

/-- The character that starts a text of bytes and how many bytes follow its
first. -/
def firstChar? : List UInt8 → Option (Char × Nat)
  | [] => none
  | b :: rest =>
    if b < 0x80 then some (Char.ofNat b.toNat, 0)
    else if b < 0xC0 then none
    else if b < 0xE0 then do
      let x ← continuation? (← rest[0]?)
      (charAbove? 0x80 ((b.toNat - 0xC0) * 64 + x)).map (·, 1)
    else if b < 0xF0 then do
      let x ← continuation? (← rest[0]?)
      let y ← continuation? (← rest[1]?)
      (charAbove? 0x800 (((b.toNat - 0xE0) * 64 + x) * 64 + y)).map (·, 2)
    else if b < 0xF8 then do
      let x ← continuation? (← rest[0]?)
      let y ← continuation? (← rest[1]?)
      let z ← continuation? (← rest[2]?)
      (charAbove? 0x10000 ((((b.toNat - 0xF0) * 64 + x) * 64 + y) * 64 + z)).map (·, 3)
    else none

/-- The characters of a text of bytes, after those already read, of which the
last comes first. -/
def readUtf8Onto (read : List (Option Char)) (bytes : List UInt8) : List (Option Char) :=
  match bytes with
  | [] => read.reverse
  | b :: rest =>
    match firstChar? (b :: rest) with
    | some (c, n) => readUtf8Onto (some c :: read) (rest.drop n)
    | none => readUtf8Onto (none :: read) rest
termination_by bytes.length
decreasing_by
  · simp only [List.length_drop, List.length_cons]; omega
  · simp

/-- The characters of a text of bytes. -/
def readUtf8 (bytes : List UInt8) : List (Option Char) := readUtf8Onto [] bytes

def utf8Bytes (s : String) : List UInt8 := s.toList.flatMap String.utf8EncodeChar

/-- The text of bytes, if every byte belongs to a character. -/
def ofUtf8? (bytes : List UInt8) : Option String :=
  ((readUtf8 bytes).mapM id).map String.ofList

end ProxySync.Text
