/-!
# Shell scripts

A word is a list of pieces, since quoted and unquoted characters, parameters
and the outputs of commands may stand side by side in it. A script is a tree
of commands, whose words are kept as they were written until the command runs.
-/

namespace ProxySync.Shell

/-! ## Redirections -/

inductive RedirectKind where
  | read
  | write
  | append
  /-- Over a file that may be there, whatever the options say. -/
  | overwrite
  | readWrite
  /-- Joins a channel to another one, or closes it. -/
  | join
  /-- A text in the script, by its number. -/
  | document (number : Nat)
deriving DecidableEq, Repr

/-! ## Words and commands -/

/-- What is made of the value of a parameter. -/
inductive Use where
  | value
  | length
  | orElse
  | orAssign
  | orFail
  | instead
  | cutFront (longest : Bool)
  | cutBack (longest : Bool)
  | unknown
deriving DecidableEq, Repr

mutual

inductive Piece where
  | plain (c : Char)
  | quoted (c : Char)
  /-- Quotes, which make a word even of nothing. -/
  | quotes
  /-- A parameter. Where `orNull` is set, a null value counts as none. -/
  | parameter (name : String) (use : Use) (orNull quoted : Bool) (word : List Piece)
  /-- The output of a script. -/
  | output (script : Script) (quoted : Bool)
  | arithmetic (text : List Piece) (quoted : Bool)

inductive Redirect where
  | mk (channel : Nat) (kind : RedirectKind) (target : List Piece)

inductive Script where
  | nothing
  | simple (line : Nat) (assignments : List (String × List Piece)) (words : List (List Piece))
      (redirects : List Redirect)
  /-- A command with the line that it begins on. -/
  | located (line : Nat) (a : Script)
  | andThen (a b : Script)
  | both (a b : Script)
  | either (a b : Script)
  | negated (a : Script)
  | pipeline (stages : List Script)
  | background (a : Script)
  | subshell (a : Script)
  | redirected (a : Script) (redirects : List Redirect)
  /-- Repeats the body while the condition holds, or until it does. -/
  | loop (untilHolds : Bool) (condition body : Script)
  | choice (condition yes : Script) (no : Option Script)
  | each (name : String) (words : List (List Piece)) (body : Script)
  | cases (subject : List Piece) (clauses : List (List (List Piece) × Script))
  | function (name : String) (body : Script)

end

abbrev Word := List Piece

instance : Inhabited Piece := ⟨.quotes⟩

instance : Inhabited Script := ⟨.nothing⟩

def Redirect.channel : Redirect → Nat
  | mk channel _ _ => channel

def Redirect.kind : Redirect → RedirectKind
  | mk _ kind _ => kind

def Redirect.target : Redirect → Word
  | mk _ _ target => target

/-! ## Texts of words -/

/-- The text of a word in which nothing is quoted and nothing stands for
anything else. -/
def plainText? (w : Word) : Option String :=
  let char? : Piece → Option Char
    | .plain c => some c
    | _ => none
  (w.mapM char?).map String.ofList

def wordOfText (s : String) : Word := .quotes :: s.toList.map .quoted

/-- A character that a name may start with. -/
def startsName (c : Char) : Bool := c.isAlpha || c == '_'

def isNameChar (c : Char) : Bool := c.isAlphanum || c == '_'

def isName (s : String) : Bool := s.toList.head?.any startsName && s.toList.all isNameChar

/-- The name and the value of a word that assigns. -/
def assignment? (w : Word) : Option (String × Word) :=
  let isNamePiece : Piece → Bool
    | .plain c => isNameChar c
    | _ => false
  let name := w.takeWhile isNamePiece
  match w.drop name.length, plainText? name with
  | .plain '=' :: value, some text => if isName text then some (text, value) else none
  | _, _ => none

end ProxySync.Shell
