import ProxySync.Shell.Script

/-!
# Reading shell scripts

A script is read one command line at a time, because the commands of a line
run before the next line is looked at. Substituted scripts stand inside words
and words inside scripts, so both are read by the same functions.
-/

namespace ProxySync.Shell

/-! ## Faults -/

inductive SyntaxFault where
  | unexpected (token : String) (wanted : Option String)
  | unclosedQuotes
  | unclosedBrace
  | unclosedArithmetic
  | unclosedBackquotes
  | loopName
  | functionName
deriving DecidableEq, Repr

def SyntaxFault.message : SyntaxFault → String
  | unexpected token none => "Syntax error: " ++ token ++ " unexpected"
  | unexpected token (some wanted) =>
    "Syntax error: " ++ token ++ " unexpected (expecting " ++ wanted ++ ")"
  | unclosedQuotes => "Syntax error: Unterminated quoted string"
  | unclosedBrace => "Syntax error: Missing '\x7d'"
  | unclosedArithmetic => "Syntax error: Missing '))'"
  | unclosedBackquotes => "Syntax error: EOF in backquote substitution"
  | loopName => "Syntax error: Bad for loop variable"
  | functionName => "Syntax error: Bad function name"

/-! ## Tokens -/

inductive Token where
  | finish
  | newline
  /-- One of the operators between commands. -/
  | operator (text : String)
  | redirect (channel : Nat) (kind : RedirectKind)
  /-- The start of a text in the script, whose tabs may be stripped. -/
  | here (channel : Nat) (stripTabs : Bool)
  | reserved (text : String)
  | word (w : Word)

def showQuoted (s : String) : String := "\"" ++ s ++ "\""

def Token.describe : Token → String
  | finish => "end of file"
  | newline => "newline"
  | operator text | reserved text => showQuoted text
  | redirect .. | here .. => "redirection"
  | word _ => "word"

def reservedWords : List String :=
  ["!", "\x7b", "\x7d", "if", "then", "elif", "else", "fi", "while", "until", "do", "done", "for",
    "case", "esac", "in"]

/-- The commands that are part of the shell's language. No function takes
their names. -/
def specialBuiltins : List String :=
  [":", ".", "break", "continue", "eval", "exec", "exit", "export", "readonly", "return", "set",
    "shift", "times", "trap", "unset", "local"]

/-- The tokens that end a list of commands. -/
def Token.endsList : Token → Bool
  | finish => true
  | operator text => text == ")" || text == ";;"
  | reserved text => ["\x7d", "then", "elif", "else", "fi", "do", "done", "esac"].contains text
  | _ => false

/-! ## The reader's state -/

/-- A text announced by a redirection. -/
structure Announced where
  number : Nat
  mark : String
  stripTabs : Bool
  quoted : Bool

structure Source where
  rest : List Char
  line : Nat := 1
  pushed : Option Token := none
  announced : List Announced := []
  /-- The texts read so far, by their numbers. -/
  documents : List (Nat × Word) := []
  nextDocument : Nat := 0
  aliases : List (String × String) := []
  /-- The aliases being read, with the length of what follows them. -/
  aliasesInUse : List (String × Nat) := []

abbrev Reading := ExceptT SyntaxFault (StateM Source)

namespace Reading

def refuse {α : Type} (fault : SyntaxFault) : Reading α := throw fault

def look (n : Nat := 0) : Reading (Option Char) := do return (← get).rest[n]?

/-- Takes the next character. -/
def take : Reading (Option Char) := do
  let s ← get
  match s.rest with
  | [] => pure none
  | c :: rest =>
    set { s with rest := rest, line := if c == '\n' then s.line + 1 else s.line }
    pure (some c)

def drop : Reading Unit := do let _ ← take

/-- Passes line breaks that a backslash hides. -/
def passJoins : Reading Unit := do
  let s ← get
  let rec go : List Char → Nat → List Char × Nat
    | '\\' :: '\n' :: rest, n => go rest (n + 1)
    | rest, n => (rest, n)
  let (rest, n) := go s.rest 0
  set { s with rest := rest, line := s.line + n }

/-- Takes the next character if it is `c`. -/
def takeIf (c : Char) : Reading Bool := do
  passJoins
  if (← look) == some c then
    drop
    pure true
  else pure false

def push (t : Token) : Reading Unit := modify fun s => { s with pushed := some t }

/-- Passes blanks and a comment. -/
def passBlanks : (steps : Nat) → Reading Unit
  | 0 => pure ()
  | steps + 1 => do
    passJoins
    match ← look with
    | some ' ' | some '\t' => drop; passBlanks steps
    | some '#' => modify fun s => { s with rest := s.rest.dropWhile (· != '\n') }
    | _ => pure ()

end Reading

open Reading

/-! ## Words -/

/-- Where pieces stand, which decides what ends them and what is special. -/
inductive Context where
  | word
  | quotes
  | brace (quoted : Bool)
  | arithmetic (depth : Nat)
  | document
deriving DecidableEq

/-- Characters stand for themselves and are not split. -/
def Context.isQuoted : Context → Bool
  | word => false
  | brace quoted => quoted
  | _ => true

def Context.isBrace : Context → Bool
  | brace _ => true
  | _ => false

def endsWord (c : Char) : Bool := " \t\n;&|()<>".toList.contains c

def isSpecialParameter (c : Char) : Bool := "@*#?-$!".toList.contains c

/-- Characters that a backslash takes the meaning of, inside quotes. -/
def Context.isEscapable (context : Context) (c : Char) : Bool :=
  c == '\\' || c == '$' || c == '\x60' || (c == '"' && context != .document) ||
    (c == '\x7d' && context.isBrace)

/-- The text up to the closing single quote. -/
def readSingleQuotes : Reading (List Char) := do
  let s ← get
  let text := s.rest.takeWhile (· != '\'')
  match s.rest.drop text.length with
  | _ :: rest =>
    set { s with rest := rest, line := s.line + text.count '\n' }
    pure text
  | [] => refuse .unclosedQuotes

/-- The script between backquotes. -/
def readBackquotes (inQuotes : Bool) : (steps : Nat) → List Char → Reading (List Char)
  | 0, _ => refuse .unclosedBackquotes
  | steps + 1, text => do
    passJoins
    match ← take with
    | none => refuse .unclosedBackquotes
    | some '\x60' => pure text.reverse
    | some '\\' =>
      match ← take with
      | none => refuse .unclosedBackquotes
      | some c =>
        if c == '\\' || c == '\x60' || c == '$' || (inQuotes && c == '"') then
          readBackquotes inQuotes steps (c :: text)
        else readBackquotes inQuotes steps (c :: '\\' :: text)
    | some c => readBackquotes inQuotes steps (c :: text)

/-- The characters of a name at the cursor, across hidden line breaks. -/
def readNameChars (isPart : Char → Bool) : (steps : Nat) → List Char → Reading String
  | 0, name => pure (String.ofList name.reverse)
  | steps + 1, name => do
    passJoins
    match ← look with
    | some c =>
      if isPart c then
        drop
        readNameChars isPart steps (c :: name)
      else pure (String.ofList name.reverse)
    | none => pure (String.ofList name.reverse)

/-- What a brace says before the word in it. -/
structure BraceHead where
  name : String
  use : Use
  orNull : Bool := false
  /-- The brace is closed already. -/
  closed : Bool := false

/-- The use that an operator asks for. -/
def readUse (name : String) : Reading BraceHead := do
  let orNull ← takeIf ':'
  let useOf? : Char → Option Use
    | '-' => some .orElse
    | '+' => some .instead
    | '?' => some .orFail
    | '=' => some .orAssign
    | _ => none
  let c := (← look).getD ' '
  match useOf? c with
  | some use => do
    drop
    pure ⟨name, use, orNull, false⟩
  | none =>
    if orNull then pure ⟨name, .unknown, false, false⟩
    else if c == '\x7d' then
      drop
      pure ⟨name, .value, false, true⟩
    else if c == '%' then
      drop
      let longest ← takeIf '%'
      pure ⟨name, .cutBack longest, false, false⟩
    else if c == '#' then
      drop
      let longest ← takeIf '#'
      pure ⟨name, .cutFront longest, false, false⟩
    else pure ⟨name, .unknown, false, false⟩

/-- The head of a braced parameter; the opening brace is taken. -/
def readBraceHead (steps : Nat) : Reading BraceHead := do
  passJoins
  match ← look with
  | none => pure ⟨"", .unknown, false, false⟩
  | some c =>
    if startsName c then readUse (← readNameChars isNameChar steps [])
    else if c.isDigit then readUse (← readNameChars Char.isDigit steps [])
    else if c == '#' then
      drop
      passJoins
      let after := (← look).getD ' '
      if startsName after || after.isDigit then
        let name ← readNameChars (if after.isDigit then Char.isDigit else isNameChar) steps []
        if ← takeIf '\x7d' then pure ⟨name, .length, false, true⟩
        else pure ⟨name, .unknown, false, false⟩
      else if isSpecialParameter after && (← look 1) == some '\x7d' then
        drop
        drop
        pure ⟨after.toString, .length, false, true⟩
      else if after != '\x7d' && (← look 1) == some '\x7d' then pure ⟨"", .unknown, false, false⟩
      else readUse "#"
    else if isSpecialParameter c then
      drop
      readUse c.toString
    else pure ⟨"", .unknown, false, false⟩

/-! ## Texts in the script -/

/-- The text of a word as it is written, without its quotes, and whether it
has any. -/
def readMark : (steps : Nat) → List Char → Bool → Reading (String × Bool)
  | 0, text, quoted => pure (String.ofList text.reverse, quoted)
  | steps + 1, text, quoted => do
    passJoins
    match ← look with
    | none => pure (String.ofList text.reverse, quoted)
    | some '\'' => do
      drop
      let inside ← readSingleQuotes
      readMark steps (inside.reverse ++ text) true
    | some '"' => do
      drop
      let s ← get
      let inside := s.rest.takeWhile (· != '"')
      if inside.length == s.rest.length then refuse .unclosedQuotes
      set { s with rest := s.rest.drop (inside.length + 1) }
      readMark steps (inside.reverse ++ text) true
    | some '\\' => do
      drop
      match ← take with
      | some c => readMark steps (c :: text) true
      | none => pure (String.ofList text.reverse, true)
    | some c =>
      if endsWord c then pure (String.ofList text.reverse, quoted)
      else do
        drop
        readMark steps (c :: text) quoted

/-- The lines of a text up to its mark, and what follows the mark's line. -/
def documentLines (a : Announced) : (steps : Nat) → (joined : Bool) → List Char → List Char →
    List Char × List Char
  | 0, _, text, rest => (text, rest)
  | steps + 1, joined, text, rest =>
    if rest.isEmpty then (text, [])
    else
      let whole := rest.takeWhile (· != '\n')
      let after := rest.drop (whole.length + 1)
      let line := if a.stripTabs then whole.dropWhile (· == '\t') else whole
      if !joined && line == a.mark.toList then (text, after)
      else
        let ending := if whole.length < rest.length then ['\n'] else []
        let slashes := (line.reverse.takeWhile (· == '\\')).length
        let joins := !a.quoted && slashes % 2 == 1
        documentLines a steps joins (text ++ line ++ ending) after

/-! ## The grammar -/

mutual

/-- The pieces of a word or of a part of one, the last read first. What ends
them is taken, except at the end of a word. -/
def readPieces : (fuel : Nat) → Context → List Piece → Reading Word
  | 0, _, done => pure done.reverse
  | fuel + 1, context, done => do
    let char (c : Char) : Piece := if context.isQuoted then .quoted c else .plain c
    match ← look with
    | none =>
      match context with
      | .word | .document => pure done.reverse
      | .quotes => refuse .unclosedQuotes
      | .brace _ => refuse .unclosedBrace
      | .arithmetic _ => refuse .unclosedArithmetic
    | some c =>
      if context == .word && endsWord c then pure done.reverse
      else do
        drop
        match c with
        | '\\' =>
          match ← look with
          | none => readPieces fuel context (.quoted '\\' :: done)
          | some '\n' => do
            drop
            readPieces fuel context done
          | some e => do
            drop
            if context.isQuoted && !context.isEscapable e then
              readPieces fuel context (.quoted e :: .quoted '\\' :: done)
            else readPieces fuel context (.quoted e :: done)
        | '\'' =>
          if context.isQuoted then readPieces fuel context (.quoted c :: done)
          else do
            let inside ← readSingleQuotes
            readPieces fuel context ((inside.map Piece.quoted).reverse ++ .quotes :: done)
        | '"' =>
          match context with
          | .quotes => pure done.reverse
          | .document | .arithmetic _ => readPieces fuel context (.quoted c :: done)
          | .brace true => readPieces fuel context done
          | .word | .brace false => do
            let inside ← readPieces fuel .quotes []
            match inside with
            | [.parameter "@" .value _ _ _] => readPieces fuel context (inside ++ done)
            | _ => readPieces fuel context (inside.reverse ++ .quotes :: done)
        | '$' => do
          let piece ← readDollar fuel context
          readPieces fuel context (piece :: done)
        | '\x60' => do
          let text ← readBackquotes context.isQuoted fuel []
          let script ← readInside fuel text
          readPieces fuel context (.output script context.isQuoted :: done)
        | '\x7d' =>
          if context.isBrace then pure done.reverse else readPieces fuel context (char c :: done)
        | '(' =>
          match context with
          | .arithmetic depth => readPieces fuel (.arithmetic (depth + 1)) (char c :: done)
          | _ => readPieces fuel context (char c :: done)
        | ')' =>
          match context with
          | .arithmetic 0 => do
            if ← takeIf ')' then pure done.reverse
            else readPieces fuel context (char c :: done)
          | .arithmetic (depth + 1) => readPieces fuel (.arithmetic depth) (char c :: done)
          | _ => readPieces fuel context (char c :: done)
        | _ => readPieces fuel context (char c :: done)

/-- What stands after a dollar sign. -/
def readDollar : (fuel : Nat) → Context → Reading Piece
  | 0, _ => pure (.plain '$')
  | fuel + 1, context => do
    let quoted := context.isQuoted
    passJoins
    let c := (← look).getD ' '
    if c == '(' then
      drop
      if ← takeIf '(' then
        let text ← readPieces fuel (.arithmetic 0) []
        pure (.arithmetic text quoted)
      else
        let script ← readList fuel 2
        let t ← readToken fuel false false
        match t with
        | .operator ")" => pure (.output script quoted)
        | t => refuse (.unexpected t.describe (some (showQuoted ")")))
    else if c == '\x7b' then
      drop
      let head ← readBraceHead fuel
      if head.closed then pure (.parameter head.name head.use head.orNull quoted [])
      else
        let isCut := match head.use with
          | .cutFront _ | .cutBack _ => true
          | _ => false
        let word ← readPieces fuel (.brace (quoted && !isCut)) []
        pure (.parameter head.name head.use head.orNull quoted word)
    else if startsName c then
      let name ← readNameChars isNameChar fuel []
      pure (.parameter name .value false quoted [])
    else if c.isDigit || isSpecialParameter c then
      drop
      pure (.parameter c.toString .value false quoted [])
    else pure (if quoted then .quoted '$' else .plain '$')

/-- A script that is given as a text of its own. -/
def readInside : (fuel : Nat) → List Char → Reading Script
  | 0, _ => pure .nothing
  | fuel + 1, text => do
    let outer ← get
    set { outer with rest := text, pushed := none, announced := [], aliasesInUse := [] }
    let script ← readList fuel 2
    let inner ← get
    set { outer with documents := inner.documents, nextDocument := inner.nextDocument }
    pure script

/-- Reads the texts announced on the line that has ended. -/
def readDocuments : (fuel : Nat) → Reading Unit
  | 0 => pure ()
  | fuel + 1 => do
    let s ← get
    match s.announced with
    | [] => pure ()
    | a :: more => do
      let (text, rest) := documentLines a (s.rest.length + 1) false [] s.rest
      let word ← (
        if a.quoted then pure (wordOfText (String.ofList text))
        else do
          set { s with rest := text, pushed := none, announced := [] }
          readPieces fuel .document [])
      modify fun t =>
        { t with
          rest := rest, line := s.line + text.count '\n' + 1, pushed := s.pushed
          announced := more, documents := (a.number, word) :: t.documents }
      readDocuments fuel

/-- The next token. Reserved words count where `reserving` is set, and line
breaks are passed where `passing` is set. -/
def readToken : (fuel : Nat) → (reserving passing : Bool) → Reading Token
  | 0, _, _ => pure .finish
  | fuel + 1, reserving, passing => do
    let s ← get
    let t ← (
      match s.pushed with
      | some t => do
        set { s with pushed := none }
        pure t
      | none => readFreshToken fuel)
    match t with
    | .newline => if passing then readToken fuel reserving passing else pure t
    | .word w =>
      match plainText? w with
      | some text =>
        if !reserving then pure t
        else if reservedWords.contains text then pure (.reserved text)
        else do
          let s ← get
          let inUse := s.aliasesInUse.filter (·.2 ≤ s.rest.length)
          match s.aliases.lookup text with
          | some value =>
            if (inUse.lookup text).isSome then pure t
            else do
              set { s with
                rest := value.toList ++ s.rest
                aliasesInUse := (text, s.rest.length) :: inUse }
              readToken fuel reserving passing
          | none => pure t
      | none => pure t
    | t => pure t

def readFreshToken : (fuel : Nat) → Reading Token
  | 0 => pure .finish
  | fuel + 1 => do
    passBlanks ((← get).rest.length + 1)
    match ← look with
    | none => pure .finish
    | some c =>
      match c with
      | '\n' => do
        drop
        readDocuments fuel
        pure .newline
      | '&' => do
        drop
        pure (.operator (if ← takeIf '&' then "&&" else "&"))
      | '|' => do
        drop
        pure (.operator (if ← takeIf '|' then "||" else "|"))
      | ';' => do
        drop
        pure (.operator (if ← takeIf ';' then ";;" else ";"))
      | '(' | ')' => do
        drop
        pure (.operator c.toString)
      | '<' | '>' => do
        drop
        readRedirectMark fuel (c == '>') none
      | _ => do
        let second ← look 1
        if c.isDigit && (second == some '<' || second == some '>') then
          drop
          drop
          readRedirectMark fuel (second == some '>') (some (c.toNat - '0'.toNat))
        else pure (.word (← readPieces fuel .word []))

/-- The rest of a redirection's mark. -/
def readRedirectMark : (fuel : Nat) → (outward : Bool) → Option Nat → Reading Token
  | 0, _, _ => pure .finish
  | _ + 1, outward, channel => do
    let channel := channel.getD (if outward then 1 else 0)
    if ← takeIf '&' then pure (.redirect channel .join)
    else if outward then
      if ← takeIf '>' then pure (.redirect channel .append)
      else if ← takeIf '|' then pure (.redirect channel .overwrite)
      else pure (.redirect channel .write)
    else if ← takeIf '<' then
      if ← takeIf '-' then pure (.here channel true) else pure (.here channel false)
    else if ← takeIf '>' then pure (.redirect channel .readWrite)
    else pure (.redirect channel .read)

/-- The redirection that starts with the token `t`, if it is one. -/
def readRedirect : (fuel : Nat) → Token → Reading (Option Redirect)
  | 0, _ => pure none
  | fuel + 1, t =>
    match t with
    | .redirect channel kind => do
      let target ← readToken fuel false false
      match target with
      | .word w => pure (some (.mk channel kind w))
      | t => refuse (.unexpected t.describe none)
    | .here channel stripTabs => do
      passBlanks ((← get).rest.length + 1)
      let (mark, quoted) ← readMark ((← get).rest.length + 1) [] false
      if mark.isEmpty && !quoted then
        let t ← readToken fuel false false
        refuse (.unexpected t.describe none)
      else
        let s ← get
        let a : Announced := ⟨s.nextDocument, mark, stripTabs, quoted⟩
        set { s with nextDocument := s.nextDocument + 1, announced := s.announced ++ [a] }
        pure (some (.mk channel (.document s.nextDocument) []))
    | _ => pure none

/-- The redirections after a command; the token after them is pushed back. -/
def readRedirects : (fuel : Nat) → List Redirect → Reading (List Redirect)
  | 0, done => pure done
  | fuel + 1, done => do
    let t ← readToken fuel true false
    match ← readRedirect fuel t with
    | some r => readRedirects fuel (done ++ [r])
    | none => do
      push t
      pure done

/-- Takes the token `wanted`, which has to come. -/
def readWanted : (fuel : Nat) → (passing : Bool) → (wanted : String) → Reading Unit
  | 0, _, wanted => refuse (.unexpected "end of file" (some (showQuoted wanted)))
  | fuel + 1, passing, wanted => do
    let t ← readToken fuel true passing
    let isWanted := match t with
      | .reserved text | .operator text => text == wanted
      | _ => false
    if !isWanted then refuse (.unexpected t.describe (some (showQuoted wanted)))

/-- A list of commands. Of the three kinds, the first needs a command, the
second is one line, and the third may be empty. -/
def readList : (fuel : Nat) → (kind : Nat) → Reading Script
  | 0, _ => pure .nothing
  | fuel + 1, kind => continueList fuel (kind == 1) (kind == 2) none

def continueList : (fuel : Nat) → (oneLine mayEnd : Bool) → Option Script → Reading Script
  | 0, _, _, done => pure (done.getD .nothing)
  | fuel + 1, oneLine, mayEnd, done => do
    let t ← readToken fuel true (!oneLine)
    let result := done.getD .nothing
    match t with
    | .newline => pure result
    | .finish => do
      push .finish
      pure result
    | t => do
      push t
      if mayEnd && !oneLine && t.endsList then pure result
      else do
        let a ← readJoined fuel
        let t ← readToken fuel false false
        let inBackground := match t with
          | .operator "&" => true
          | _ => false
        let a := if inBackground then .background a else a
        let result := match done with
          | some b => .andThen b a
          | none => a
        match t with
        | .operator "&" | .operator ";" => continueList fuel oneLine true (some result)
        | .newline => do
          push .newline
          continueList fuel oneLine true (some result)
        | .finish => do
          push .finish
          pure result
        | t =>
          if oneLine then refuse (.unexpected t.describe none)
          else do
            push t
            pure result

/-- Pipelines joined by conditions. -/
def readJoined : (fuel : Nat) → Reading Script
  | 0 => pure .nothing
  | fuel + 1 => do continueJoined fuel (← readPipeline fuel false)

def continueJoined : (fuel : Nat) → Script → Reading Script
  | 0, a => pure a
  | fuel + 1, a => do
    let t ← readToken fuel false false
    match t with
    | .operator "&&" => do
      let b ← readPipeline fuel true
      continueJoined fuel (.both a b)
    | .operator "||" => do
      let b ← readPipeline fuel true
      continueJoined fuel (.either a b)
    | t => do
      push t
      pure a

def readPipeline : (fuel : Nat) → (passing : Bool) → Reading Script
  | 0, _ => pure .nothing
  | fuel + 1, passing => do
    let t ← readToken fuel true passing
    let negated := match t with
      | .reserved "!" => true
      | _ => false
    if !negated then push t
    let first ← readCommand fuel false
    let stages ← readStages fuel [first]
    let a := match stages with
      | [a] => a
      | stages => .pipeline stages
    pure (if negated then .negated a else a)

def readStages : (fuel : Nat) → List Script → Reading (List Script)
  | 0, done => pure done
  | fuel + 1, done => do
    let t ← readToken fuel false false
    match t with
    | .operator "|" => do
      let a ← readCommand fuel true
      readStages fuel (done ++ [a])
    | t => do
      push t
      pure done

/-- One command with its redirections. -/
def readCommand : (fuel : Nat) → (passing : Bool) → Reading Script
  | 0, _ => pure .nothing
  | fuel + 1, passing => do
    let t ← readToken fuel true passing
    let line := (← get).line
    let close (a : Script) : Reading Script := do
      let rs ← readRedirects fuel []
      pure (if rs.isEmpty then a else .located line (.redirected a rs))
    match t with
    | .reserved "if" => do close (← readChoice fuel)
    | .reserved "while" => do close (← readLoop fuel false)
    | .reserved "until" => do close (← readLoop fuel true)
    | .reserved "for" => do close (.located line (← readEach fuel))
    | .reserved "case" => do
      let subject ← readToken fuel false false
      match subject with
      | .word w => do
        readWanted fuel true "in"
        close (.located line (.cases w (← readClauses fuel [])))
      | t => refuse (.unexpected t.describe (some "word"))
    | .operator "(" => do
      let a ← readList fuel 0
      readWanted fuel false ")"
      close (.located line (.subshell a))
    | .reserved "\x7b" => do
      let a ← readList fuel 0
      readWanted fuel false "\x7d"
      close a
    | .word _ | .redirect .. | .here .. => do
      push t
      readSimple fuel (← get).line true [] [] []
    | t => refuse (.unexpected t.describe none)

/-- A choice, after its first word. -/
def readChoice : (fuel : Nat) → Reading Script
  | 0 => pure .nothing
  | fuel + 1 => do
    let condition ← readList fuel 0
    readWanted fuel false "then"
    let yes ← readList fuel 0
    let t ← readToken fuel true false
    match t with
    | .reserved "elif" => do pure (.choice condition yes (some (← readChoice fuel)))
    | .reserved "else" => do
      let no ← readList fuel 0
      readWanted fuel false "fi"
      pure (.choice condition yes (some no))
    | t => do
      push t
      readWanted fuel false "fi"
      pure (.choice condition yes none)

/-- A loop, after its first word. -/
def readLoop : (fuel : Nat) → (untilHolds : Bool) → Reading Script
  | 0, _ => pure .nothing
  | fuel + 1, untilHolds => do
    let condition ← readList fuel 0
    readWanted fuel false "do"
    let body ← readList fuel 0
    readWanted fuel false "done"
    pure (.loop untilHolds condition body)

/-- A loop over words, after its first word. -/
def readEach : (fuel : Nat) → Reading Script
  | 0 => pure .nothing
  | fuel + 1 => do
    let t ← readToken fuel false false
    let name := match t with
      | .word w => (plainText? w).getD ""
      | _ => ""
    if !isName name then refuse .loopName
    let t ← readToken fuel true true
    let words ← (
      match t with
      | .reserved "in" => readEachWords fuel []
      | .operator ";" => pure [[.parameter "@" .value false true []]]
      | t => do
        push t
        pure [[.parameter "@" .value false true []]])
    readWanted fuel true "do"
    let body ← readList fuel 0
    readWanted fuel false "done"
    pure (.each name words body)

def readEachWords : (fuel : Nat) → List Word → Reading (List Word)
  | 0, done => pure done
  | fuel + 1, done => do
    let t ← readToken fuel false false
    match t with
    | .word w => readEachWords fuel (done ++ [w])
    | .newline | .operator ";" => pure done
    | t => refuse (.unexpected t.describe none)

/-- The clauses of a choice by patterns, up to its last word. -/
def readClauses : (fuel : Nat) → List (List Word × Script) → Reading (List (List Word × Script))
  | 0, done => pure done
  | fuel + 1, done => do
    let t ← readToken fuel true true
    match t with
    | .reserved "esac" => pure done
    | t => do
      let first ← (
        match t with
        | .operator "(" => readToken fuel false false
        | t => pure t)
      let patterns ← readPatterns fuel first []
      let body ← readList fuel 2
      let t ← readToken fuel true true
      match t with
      | .operator ";;" => readClauses fuel (done ++ [(patterns, body)])
      | .reserved "esac" => pure (done ++ [(patterns, body)])
      | t => refuse (.unexpected t.describe (some (showQuoted ";;")))

/-- The patterns of a clause, up to the parenthesis after them. -/
def readPatterns : (fuel : Nat) → Token → List Word → Reading (List Word)
  | 0, _, done => pure done
  | fuel + 1, t, done => do
    let pattern ← (
      match t with
      | .word w => pure w
      | .reserved text => pure (wordOfText text)
      | t => refuse (.unexpected t.describe (some (showQuoted ")"))))
    let t ← readToken fuel false false
    match t with
    | .operator "|" => do
      let next ← readToken fuel false false
      readPatterns fuel next (done ++ [pattern])
    | .operator ")" => pure (done ++ [pattern])
    | t => refuse (.unexpected t.describe (some (showQuoted ")")))

/-- Assignments, words and redirections up to the next operator. -/
def readSimple : (fuel : Nat) → (line : Nat) → (mayAssign : Bool) →
    List (String × Word) → List Word → List Redirect → Reading Script
  | 0, _, _, _, _, _ => pure .nothing
  | fuel + 1, line, mayAssign, assigned, words, redirects => do
    let t ← readToken fuel false false
    match t with
    | .word w =>
      match (if mayAssign then assignment? w else none) with
      | some a => readSimple fuel line true (assigned ++ [a]) words redirects
      | none => readSimple fuel line false assigned (words ++ [w]) redirects
    | .redirect .. | .here .. => do
      match ← readRedirect fuel t with
      | some r => readSimple fuel line mayAssign assigned words (redirects ++ [r])
      | none => pure (.simple line assigned words redirects)
    | .operator "(" =>
      match assigned, words, redirects with
      | [], [w], [] => do
        readWanted fuel false ")"
        let name := (plainText? w).getD ""
        if !isName name || specialBuiltins.contains name then refuse .functionName
        let body ← readCommand fuel true
        pure (.function name body)
      | _, _, _ => do
        push t
        pure (.simple line assigned words redirects)
    | t => do
      push t
      pure (.simple line assigned words redirects)

end

/-! ## Command lines -/

/-- Enough steps to read what is left. -/
def Source.steps (s : Source) : Nat := 8 * s.rest.length + 64

/-- The next command line, or none at the end of the text; and how far the
text was read, even if there is a fault. -/
def readLine (s : Source) : Except SyntaxFault (Option Script) × Source :=
  let s := { s with pushed := none, announced := [] }
  let go : Reading (Option Script) := do
    let t ← readToken s.steps true false
    match t with
    | .finish => pure none
    | t => do
      push t
      some <$> readList s.steps 1
  go.run.run s

end ProxySync.Shell
