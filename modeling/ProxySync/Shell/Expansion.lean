import ProxySync.Files.Disk
import ProxySync.Shell.Arithmetic
import ProxySync.Text.Pattern

/-!
# Expanding words

A word becomes fields: parameters, calculations and the outputs of scripts
are put into it, unquoted results are split, and patterns become the names
that they describe. Expanding is a function of the session and of the outputs
that the word asks for. It stops at the first output that is not known yet;
once that script has run, the word is expanded again from the beginning with
one output more.
-/

namespace ProxySync.Shell

open Files

/-! ## Expanded characters -/

inductive Part where
  /-- A character, whether patterns take it literally, and whether the word
  may be split at it. -/
  | char (c : Char) (literal splits : Bool)
  | quotes
  /-- The place between two arguments. -/
  | cut
  /-- The place where a result begins. -/
  | edge
deriving DecidableEq

/-- The parts of a result, which is split and matched unless it is quoted. -/
def resultParts (quoted : Bool) (s : String) : List Part :=
  let parts := s.toList.map fun c => Part.char c quoted (!quoted)
  if quoted then parts else .edge :: parts

/-- The text of parts. -/
def partsText (ps : List Part) : String :=
  String.ofList (ps.filterMap fun
    | .char c _ _ => some c
    | _ => none)

/-- The parts as the characters of a pattern. -/
def partsMarked (ps : List Part) : List Text.Marked :=
  ps.filterMap fun
    | .char c literal _ => some (c, literal)
    | _ => none

/-! ## Expanding pieces -/

inductive Halt where
  | needs (script : Script)
  | fails (message : String)

structure Work where
  session : Session
  /-- The outputs of the scripts in the word, in their order. -/
  answers : List String

abbrev Expanding := StateT Work (Except Halt)

/-- The output of a script without the line breaks at its end. -/
def trimmedOutput (s : String) : String :=
  String.ofList ((s.toList.filter (· != '\x00')).reverse.dropWhile (· == '\n')).reverse

def nextAnswer (script : Script) : Expanding String := do
  let w ← get
  match w.answers with
  | a :: rest => do
    set { w with answers := rest }
    pure (trimmedOutput a)
  | [] => throw (.needs script)

/-- The folder of a user. -/
def homeOf? (s : Session) (user : String) : Option String :=
  if user.isEmpty then s.value? "HOME" else if user == "root" then some "/root" else none

/-- The folder that the tilde before `rest` stands for, and how many pieces
name its user. -/
def tildeFolder? (s : Session) (afterColons : Bool) (rest : Word) : Option (String × Nat) :=
  let isUserPiece : Piece → Bool
    | .plain c => c != '/' && !(afterColons && c == ':')
    | _ => false
  let user := rest.takeWhile isUserPiece
  let isWhole := match rest.drop user.length with
    | [] | .plain _ :: _ => true
    | _ => false
  let folder? := if isWhole then (plainText? user).bind (homeOf? s) else none
  folder?.map fun folder => (folder, user.length)

/-- The word with a tilde at its front, and after each colon where that is
asked for, as the folder that it stands for. The first `skipped` pieces are
left out. -/
def expandTildes (s : Session) (afterColons : Bool) : (atStart : Bool) → (skipped : Nat) →
    Word → Word
  | _, _, [] => []
  | _, skipped + 1, _ :: rest => expandTildes s afterColons false skipped rest
  | atStart, 0, p :: rest =>
    match p with
    | .plain '~' =>
      match if atStart then tildeFolder? s afterColons rest else none with
      | some (folder, n) =>
        folder.toList.map .quoted ++ expandTildes s afterColons false n rest
      | none => p :: expandTildes s afterColons false 0 rest
    | .plain c => p :: expandTildes s afterColons (afterColons && c == ':') 0 rest
    | _ => p :: expandTildes s afterColons false 0 rest

/-- The text of the arguments with `separator` between them. -/
def joinArguments (s : Session) (separator : String) : String :=
  separator.intercalate s.arguments

/-- What stands between arguments that become one text. -/
def argumentSeparator (s : Session) : String :=
  match s.slot? "IFS" with
  | none => " "
  | some _ => String.ofList (s.separators.take 1)

/-- Arguments stay apart where fields are made, unless quotes hold them
together. -/
def staysApart (name : String) (fields quoted : Bool) : Bool :=
  (name == "@" || name == "*") && fields && (!quoted || name == "@")

/-- Texts as parts, each a field of its own. -/
def apartParts (quoted : Bool) (texts : List String) : List Part :=
  let own (a : String) : List Part :=
    if quoted then .quotes :: resultParts true a else resultParts false a
  ((texts.map own).intersperse [.cut]).flatten

/-- The arguments as parts. -/
def argumentParts (s : Session) (name : String) (fields quoted : Bool) : List Part :=
  if staysApart name fields quoted then apartParts quoted s.arguments
  else resultParts quoted (joinArguments s (argumentSeparator s))

/-- Arguments without what a pattern describes at the front or the end of all
of them together. The pattern sees no more than the rest of one argument. -/
def cutArguments (pattern : List Text.Glob) (front longest : Bool) (arguments : List String) :
    List String :=
  let s := (List.intersperse ['\x00'] (arguments.map String.toList)).flatten
  let seen (s : List Char) : List Char := s.takeWhile (· != '\x00')
  let upwards := List.range ((seen s).length + 1)
  let downwards := (List.range (s.length + 1)).reverse
  let places := if front == longest then downwards else upwards
  let fits (n : Nat) : Bool :=
    Text.matchesGlob pattern (seen (if front then s.take n else s.drop n))
  let rest := match places.find? fits with
    | some n => if front then s.drop n else s.take n
    | none => s
  if arguments.isEmpty then [] else (rest.splitOn '\x00').map String.ofList

/-- The value of a parameter that is no list. -/
def Session.parameter? (s : Session) (name : String) : Option String :=
  match name with
  | "?" => some (toString s.status)
  | "#" => some (toString s.arguments.length)
  | "$" => some (toString s.root)
  | "!" => s.lastJob.map toString
  | "-" => some s.shownOptions
  | "0" => some s.name
  | "LINENO" => some (toString s.line)
  | name =>
    if name.toList.all Char.isDigit then s.arguments[name.toNat?.getD 0 - 1]?
    else s.value? name

/-- What is said of a parameter that has to be there. -/
def missingMessage (name text : String) (orNull : Bool) : String :=
  let text := if !text.isEmpty then text
    else if orNull then "parameter not set or null" else "parameter not set"
  name ++ ": " ++ text

/-- How deeply words may stand in words. -/
def nestingLimit : Nat := 500

mutual

/-- The parts of a word. `splits` tells whether its own characters may be
split, and `fields` whether fields are made of the parts. -/
def expandPieces : (fuel : Nat) → (fields splits : Bool) → Word → Expanding (List Part)
  | 0, _, _, _ => throw (.fails "Word nested too deeply")
  | fuel + 1, fields, splits, w => do
    let parts ← w.mapM (expandPiece fuel fields splits)
    pure parts.flatten

def expandPiece : (fuel : Nat) → (fields splits : Bool) → Piece → Expanding (List Part)
  | 0, _, _, _ => throw (.fails "Word nested too deeply")
  | fuel + 1, fields, splits, p => do
    match p with
    | .plain c => pure [.char c false splits]
    | .quoted c => pure [.char c true false]
    | .quotes => pure [.quotes]
    | .output script quoted => return resultParts quoted (← nextAnswer script)
    | .arithmetic text quoted => do
      let text := partsText (← expandPieces fuel false false text)
      let w ← get
      match calculateText w.session text with
      | .ok (n, session) => do
        set { w with session := session }
        pure (resultParts quoted (toString n))
      | .error message => throw (.fails message)
    | .parameter name use orNull quoted word => do
      let session := (← get).session
      let value? : Option (List Part) :=
        if name == "@" || name == "*" then some (argumentParts session name fields quoted)
        else (session.parameter? name).map (resultParts quoted)
      let isNull := value?.all fun ps => ps.all fun p => p == .cut || p == .edge || p == .quotes
      let absent := value?.isNone || (orNull && isNull)
      let value := value?.getD []
      let inner : Expanding (List Part) := do
        let w ← get
        expandPieces fuel fields (!quoted) (expandTildes w.session false (!quoted) 0 word)
      let checkSet : Expanding Unit :=
        if value?.isNone && session.hasOption 'u' then
          throw (.fails (missingMessage name "" false))
        else pure ()
      match use with
      | .value => do
        checkSet
        pure value
      | .length => do
        checkSet
        let text := if name == "@" || name == "*" then
            joinArguments session (argumentSeparator session)
          else partsText value
        pure (resultParts quoted (toString text.length))
      | .orElse => if absent then inner else pure value
      | .instead => if absent then pure [] else inner
      | .orAssign =>
        if absent then do
          let text := partsText (← expandPieces fuel false false
            (expandTildes session false (!quoted) 0 word))
          let w ← get
          if !isName name then throw (.fails (name ++ ": bad variable name"))
          else if w.session.isFixed name then throw (.fails (name ++ ": is read only"))
          else
            set { w with session := w.session.assign name text }
            pure (resultParts quoted text)
        else pure value
      | .orFail =>
        if absent then do
          let text := partsText (← expandPieces fuel false false word)
          throw (.fails (missingMessage name text orNull))
        else pure value
      | .cutFront longest => do
        checkSet
        let pattern := partsMarked (← expandPieces fuel false false
          (expandTildes session false true 0 word))
        if staysApart name fields quoted then
          pure (apartParts quoted (cutArguments (Text.globOf pattern) true longest session.arguments))
        else
          let text := Text.cutFront (Text.globOf pattern) longest (partsText value).toList
          pure (resultParts quoted (String.ofList text))
      | .cutBack longest => do
        checkSet
        let pattern := partsMarked (← expandPieces fuel false false
          (expandTildes session false true 0 word))
        if staysApart name fields quoted then
          pure (apartParts quoted (cutArguments (Text.globOf pattern) false longest session.arguments))
        else
          let text := Text.cutBack (Text.globOf pattern) longest (partsText value).toList
          pure (resultParts quoted (String.ofList text))
      | .unknown => throw (.fails "Bad substitution")

end

/-! ## Fields -/

/-- Where splitting is. The field being put together is kept with its last
character first, and so are the fields that are done. -/
structure Splitting where
  done : List (List Text.Marked) := []
  field : List Text.Marked := []
  /-- The field is one even without any character. -/
  isField : Bool := false
  /-- A blank has ended a field, and one separator may follow it. -/
  afterBlank : Bool := false

/-- Ends the field, which counts only if it is one or if it has to be. -/
def Splitting.close (s : Splitting) (always : Bool) : Splitting :=
  let done := if s.isField || always then s.field.reverse :: s.done else s.done
  { s with done := done, field := [], isField := false }

def Splitting.step (separators : List Char) (s : Splitting) (p : Part) : Splitting :=
  match p with
  | .cut => { s.close false with afterBlank := false }
  | .edge => { s with afterBlank := false }
  | .quotes => { s with isField := true, afterBlank := false }
  | .char c literal splits =>
    if splits && separators.contains c then
      if c == ' ' || c == '\t' || c == '\n' then
        if s.isField then { s.close false with afterBlank := true } else s
      else if s.afterBlank then { s with afterBlank := false }
      else s.close true
    else { s with field := (c, literal) :: s.field, isField := true, afterBlank := false }

/-- The fields of parts. -/
def fieldsOf (separators : List Char) (ps : List Part) : List (List Text.Marked) :=
  ((ps.foldl (Splitting.step separators) {}).close false).done.reverse

/-! ## Names that patterns describe -/

def markedText (s : List Text.Marked) : String := String.ofList (s.map (·.1))

/-- The parts of a path between its slashes. -/
def splitSlashes : List Text.Marked → List (List Text.Marked)
  | [] => [[]]
  | (c, literal) :: rest =>
    if c == '/' then [] :: splitSlashes rest
    else
      match splitSlashes rest with
      | first :: more => ((c, literal) :: first) :: more
      | [] => [[(c, literal)]]

/-- The names of a folder that a pattern describes. A dot in front is only
described by a dot. -/
def namesDescribed (d : Disk) (base : Place) (lead : String) (part : List Text.Marked) :
    List String :=
  let folder := if lead.isEmpty then "." else Text.ofOctets lead
  match d.lookup folder true base with
  | .ok (p, .folder _) =>
    let pattern := Text.globOf part
    let names := (d.names p).map Text.toOctets ++ [".", ".."]
    names.filter fun n =>
      Text.matchesGlob pattern n.toList &&
        (!n.startsWith "." || pattern.head? == some (.char '.'))
  | _ => []

/-- The paths that begin with one of `leads` and go on as the parts say. -/
def describedPaths (d : Disk) (base : Place) : (parts : List (List Text.Marked)) →
    (leads : List String) → List String
  | [], leads => leads
  | part :: rest, leads =>
    let slash := if rest.isEmpty then "" else "/"
    let next := leads.flatMap fun lead =>
      if Text.isOpenGlob (Text.globOf part) then
        (namesDescribed d base lead part).map fun n => lead ++ n ++ slash
      else [lead ++ markedText part ++ slash]
    describedPaths d base rest next

/-- The paths that a field describes, or its own text. -/
def pathsOf (d : Disk) (base : Place) (field : List Text.Marked) : List String :=
  if !Text.isOpenGlob (Text.globOf field) then [markedText field]
  else
    let isThere (path : String) : Bool := (d.lookup (Text.ofOctets path) false base).isOk
    let found := (describedPaths d base (splitSlashes field) [""]).filter isThere
    if found.isEmpty then [markedText field] else found.mergeSort fun a b => a ≤ b

/-! ## Words -/

/-- How a word is expanded. -/
inductive Manner where
  /-- Into any number of fields. -/
  | fields
  /-- Into one text. -/
  | text
  /-- Into one text, as the value of an assignment. -/
  | value
  /-- An argument that may be an assignment. -/
  | assignment
  /-- Into a pattern. -/
  | pattern
deriving DecidableEq

inductive Expanded where
  | fields (texts : List String)
  | pattern (marked : List Text.Marked)
  | needs (script : Script)
  | fails (message : String)

/-- The piece that ends the name of an assignment, and what follows it. -/
def splitAssignment (w : Word) : Word × Word :=
  let isEqualSign : Piece → Bool
    | .plain '=' => true
    | _ => false
  let name := w.takeWhile (!isEqualSign ·)
  (name ++ (w.drop name.length).take 1, w.drop (name.length + 1))

/-- Expands a word with the outputs that are known. -/
def expandWord (s : Session) (d : Disk) (base : Place) (manner : Manner) (answers : List String)
    (w : Word) : Expanded × Session :=
  let w := match manner with
    | .fields | .text | .pattern => expandTildes s false true 0 w
    | .value => expandTildes s true true 0 w
    | .assignment => (splitAssignment w).1 ++ expandTildes s true true 0 (splitAssignment w).2
  let makesFields := manner = .fields
  match (expandPieces nestingLimit makesFields false w).run ⟨s, answers⟩ with
  | .error (.needs script) => (.needs script, s)
  | .error (.fails message) => (.fails message, s)
  | .ok (parts, work) =>
    match manner with
    | .fields =>
      let fields := fieldsOf s.separators parts
      let texts := if s.hasOption 'f' then fields.map markedText else fields.flatMap (pathsOf d base)
      (.fields texts, work.session)
    | .pattern => (.pattern (partsMarked parts), work.session)
    | _ => (.fields [partsText parts], work.session)

end ProxySync.Shell
