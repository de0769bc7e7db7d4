/-!
# Blank characters, lines and fields

Trimming and field splitting go by the White_Space property of Unicode, so
a no-break space or an ideographic space counts as blank. A text is cut
into lines at its line feeds alone: a carriage return before the feed is
blank, and every reader of lines trims them.
-/

namespace ProxySync.Text

/-- The White_Space property of Unicode. -/
def isBlank (c : Char) : Bool :=
  let n := c.toNat
  (9 ≤ n && n ≤ 13) || n == 0x20 || n == 0x85 || n == 0xA0 || n == 0x1680 ||
    (0x2000 ≤ n && n ≤ 0x200A) || n == 0x2028 || n == 0x2029 || n == 0x202F ||
    n == 0x205F || n == 0x3000

/-! ## Trimming -/

def trimStart (s : List Char) : List Char := s.dropWhile isBlank

def trimEnd (s : List Char) : List Char := (trimStart s.reverse).reverse

/-- The text without the blanks at its two ends. -/
def trim (s : List Char) : List Char := trimEnd (trimStart s)

/-- Nothing but blanks. -/
def isBlankText (s : String) : Bool := s.toList.all isBlank

/-! ## Lines and fields -/

/-- The pieces between line feeds. -/
def lines (s : List Char) : List (List Char) := s.splitOn '\n'

/-- The maximal runs of characters that are not blank. -/
def fields (s : List Char) : List (List Char) :=
  (s.splitOnP isBlank).filter (!·.isEmpty)

/-! ## Leading words -/

/-- What follows `lead` in `s`, when `s` starts with it. -/
def dropLead? : (lead s : List Char) → Option (List Char)
  | [], s => some s
  | _ :: _, [] => none
  | a :: lead, c :: s => if a = c then dropLead? lead s else none

theorem dropLead?_eq_some_iff {lead s rest : List Char} :
    dropLead? lead s = some rest ↔ s = lead ++ rest := by
  induction lead generalizing s with
  | nil => simp [dropLead?]
  | cons a lead ih =>
    cases s with
    | nil => simp [dropLead?]
    | cons c s =>
      by_cases h : a = c
      · simp [dropLead?, h, ih]
      · simp [dropLead?, h, Ne.symm h]

/-- Both sides of the last `sep` in `s`. -/
def cutLast? (sep : Char) (s : List Char) : Option (List Char × List Char) :=
  if s.contains sep then
    let back := s.reverse
    some (((back.dropWhile (· != sep)).drop 1).reverse, (back.takeWhile (· != sep)).reverse)
  else none

end ProxySync.Text
