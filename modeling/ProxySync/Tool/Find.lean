import ProxySync.Tool.Listing
import ProxySync.Text.RegexReader

/-!
# Finding files

The tool `find` goes through trees of files and does something with each file
that an expression holds for. What the expression does is gathered as a list
of effects; where it runs a program whose status it needs, judging the file
starts again with that answer, and the effects that were had are passed over.
-/

namespace ProxySync.Tool

open Files

/-! ## Expressions -/

/-- A number, or everything below or above it. -/
inductive Bound where
  | exactly (n : Nat)
  | below (n : Nat)
  | above (n : Nat)

def Bound.holds (b : Bound) (n : Nat) : Bool :=
  match b with
  | .exactly m => n == m
  | .below m => n < m
  | .above m => m < n

def readBound? (s : List Char) : Option Bound :=
  match s with
  | '+' :: digits => (count? (String.ofList digits)).map .above
  | '-' :: digits => (count? (String.ofList digits)).map .below
  | digits => (count? (String.ofList digits)).map .exactly

inductive FindTest where
  | always (b : Bool)
  | negate (t : FindTest)
  | both (a b : FindTest)
  | either (a b : FindTest)
  /-- Does both; only the second counts. -/
  | after (a b : FindTest)
  | name (pattern : String) (foldCase : Bool)
  | path (pattern : String) (foldCase : Bool)
  | linkName (pattern : String)
  | regex (r : Text.Regex) (foldCase : Bool)
  | kind (letters : List Char) (follow : Bool)
  | size (unit : Nat) (b : Bound)
  | empty
  | mode (how : Option Char) (mode : Nat)
  | links (b : Bound)
  | access (bits : Nat)
  /-- Everything was made just now. -/
  | age (b : Bound)
  | same (number : Option Nat)
  | print (ending : String) (target : Option String)
  | printFormat (format : String) (target : Option String)
  | listLong
  | delete
  | prune
  | quit
  | run (words : List String) (inside : Bool)
  /-- Runs a program once with many files; the batches are numbered. -/
  | batch (number : Nat)

/-- Whether a test does something with the file, so that the file need not be
printed besides. -/
def FindTest.acts : FindTest → Bool
  | .negate t => t.acts
  | .both a b | .either a b | .after a b => a.acts || b.acts
  | .print .. | .printFormat .. | .listLong | .delete | .quit | .run .. | .batch _ => true
  | _ => false

def FindTest.deletes : FindTest → Bool
  | .negate t => t.deletes
  | .both a b | .either a b | .after a b => a.deletes || b.deletes
  | .delete => true
  | _ => false

/-! ## Reading expressions -/

structure FindWords where
  rest : List String
  maxDepth : Option Nat := none
  minDepth : Nat := 0
  depthFirst : Bool := false
  extended : Bool := false
  batches : List (List String) := []

abbrev FindReading := StateT FindWords (Except String)

namespace FindReading

def next? : FindReading (Option String) := do
  let w ← get
  match w.rest with
  | [] => pure none
  | a :: rest => do
    set { w with rest := rest }
    pure (some a)

def peek? : FindReading (Option String) := do return (← get).rest.head?

/-- The argument of a predicate. -/
def argument (predicate : String) : FindReading String := do
  match ← next? with
  | some a => pure a
  | none => throw ("missing argument to \x60" ++ predicate ++ "'")

def bound (predicate : String) : FindReading Bound := do
  let a ← argument predicate
  match readBound? a.toList with
  | some b => pure b
  | none => throw ("invalid argument \x60" ++ a ++ "' to \x60" ++ predicate ++ "'")

/-- The words of a program up to a semicolon, or to a plus behind the mark for
the file. -/
def program (predicate : String) : FindReading (List String × Bool) := do
  let w ← get
  let rec go (words : List String) : List String → Option (List String × Bool × List String)
    | [] => none
    | ";" :: rest => some (words.reverse, false, rest)
    | "+" :: rest => if words.head? == some "\x7b\x7d" then some (words.tail.reverse, true, rest)
      else go ("+" :: words) rest
    | a :: rest => go (a :: words) rest
  match go [] w.rest with
  | some (words, many, rest) => do
    set { w with rest := rest }
    if words.isEmpty then throw ("invalid argument \x60;' to \x60" ++ predicate ++ "'")
    else pure (words, many)
  | none => throw ("missing argument to \x60" ++ predicate ++ "'")

end FindReading

open FindReading in
/-- Reads a predicate and its arguments. -/
def readPredicate (d : Disk) (place : Place) (word : String) : FindReading FindTest := do
  let number : FindReading Nat := do
    let a ← argument word
    match count? a with
    | some n => pure n
    | none => throw ("Expected a positive decimal integer argument to " ++ word ++ ", but got " ++
        quotedText a)
  match word with
  | "-true" | "-daystart" | "-noleaf" | "-follow" | "-warn" | "-nowarn" | "-xdev" | "-mount"
  | "-ignore_readdir_race" => pure (.always true)
  | "-false" => pure (.always false)
  | "-maxdepth" => do
    let n ← number
    modify fun w => { w with maxDepth := some n }
    pure (.always true)
  | "-mindepth" => do
    let n ← number
    modify fun w => { w with minDepth := n }
    pure (.always true)
  | "-depth" | "-d" => do
    modify fun w => { w with depthFirst := true }
    pure (.always true)
  | "-regextype" => do
    let kind ← argument word
    modify fun w => { w with extended := kind.endsWith "extended" || kind.endsWith "egrep" }
    pure (.always true)
  | "-name" => return .name (← argument word) false
  | "-iname" => return .name (← argument word) true
  | "-path" | "-wholename" => return .path (← argument word) false
  | "-ipath" | "-iwholename" => return .path (← argument word) true
  | "-lname" => return .linkName (← argument word)
  | "-regex" | "-iregex" => do
    let text ← argument word
    match Text.Regex.ofString { extended := (← get).extended } text with
    | .ok r => pure (.regex r (word == "-iregex"))
    | .error e => throw e.message
  | "-type" | "-xtype" => do
    let a ← argument word
    let letters := (a.toList.splitOn ',').flatten
    match letters.find? fun c => !"fdlpscbD".toList.contains c with
    | some c => throw ("Unknown argument to " ++ word ++ ": " ++ c.toString)
    | none =>
      if letters.isEmpty then throw ("Arguments to " ++ word ++ " should contain at least one letter")
      else pure (.kind letters (word == "-xtype"))
  | "-size" => do
    let a ← argument word
    let unit? := match a.toList.getLast? with
      | some 'c' => some 1
      | some 'w' => some 2
      | some 'b' => some 512
      | some 'k' => some 1024
      | some 'M' => some 1048576
      | some 'G' => some 1073741824
      | _ => none
    match readBound? (if unit?.isSome then a.toList.dropLast else a.toList) with
    | some b => pure (.size (unit?.getD 512) b)
    | none => throw ("Invalid argument \x60" ++ a ++ "' to -size")
  | "-empty" => pure .empty
  | "-perm" => do
    let a ← argument word
    let how := a.toList.head?.filter fun c => c == '-' || c == '/'
    match modeFrom? (String.ofList (if how.isSome then a.toList.tail else a.toList)) 0 false 0 with
    | some m => pure (.mode how m)
    | none => throw ("invalid mode " ++ quotedText a)
  | "-links" => return .links (← bound word)
  | "-readable" => pure (.access 0)
  | "-writable" => pure (.access 0)
  | "-executable" => pure (.access 0o111)
  | "-mtime" | "-atime" | "-ctime" | "-mmin" | "-amin" | "-cmin" => return .age (← bound word)
  | "-newer" | "-anewer" | "-cnewer" | "-newermt" => do
    let _ ← argument word
    pure (.always false)
  | "-samefile" => do
    let a ← argument word
    pure (.same (fileNumber? d place a))
  | "-inum" => do
    let _ ← bound word
    pure (.always false)
  | "-user" | "-group" | "-uid" | "-gid" => do
    let a ← argument word
    pure (.always (a == "root" || a == "0"))
  | "-nouser" | "-nogroup" => pure (.always false)
  | "-print" => pure (.print "\n" none)
  | "-print0" => pure (.print "\x00" none)
  | "-fprint" => return .print "\n" (some (← argument word))
  | "-printf" => return .printFormat (← argument word) none
  | "-fprintf" => do
    let target ← argument word
    return .printFormat (← argument word) (some target)
  | "-ls" => pure .listLong
  | "-delete" => pure .delete
  | "-prune" => pure .prune
  | "-quit" => pure .quit
  | "-exec" | "-execdir" => do
    let (words, many) ← program word
    if many then
      let w ← get
      set { w with batches := w.batches ++ [words] }
      pure (.batch w.batches.length)
    else pure (.run words (word == "-execdir"))
  | "-ok" | "-okdir" => do
    let _ ← program word
    pure (.always false)
  | word =>
    if word.startsWith "-" then throw ("unknown predicate \x60" ++ word ++ "'")
    else throw ("paths must precede expression: \x60" ++ word ++ "'")

mutual

def readFindList (d : Disk) (place : Place) : (fuel : Nat) → FindReading FindTest
  | 0 => throw "expression is too long"
  | fuel + 1 => do
    let a ← readFindEither d place fuel
    if (← FindReading.peek?) == some "," then
      let _ ← FindReading.next?
      return .after a (← readFindList d place fuel)
    else pure a

def readFindEither (d : Disk) (place : Place) : (fuel : Nat) → FindReading FindTest
  | 0 => throw "expression is too long"
  | fuel + 1 => do
    let a ← readFindBoth d place fuel
    match ← FindReading.peek? with
    | some "-o" | some "-or" => do
      let operator ← FindReading.next?
      if (← FindReading.peek?).isNone then
        throw ("expected an expression after '" ++ operator.getD "" ++ "'")
      return .either a (← readFindEither d place fuel)
    | _ => pure a

def readFindBoth (d : Disk) (place : Place) : (fuel : Nat) → FindReading FindTest
  | 0 => throw "expression is too long"
  | fuel + 1 => do
    let a ← readFindOne d place fuel
    match ← FindReading.peek? with
    | none | some "-o" | some "-or" | some ")" | some "," => pure a
    | some "-a" | some "-and" => do
      let operator ← FindReading.next?
      if (← FindReading.peek?).isNone then
        throw ("expected an expression after '" ++ operator.getD "" ++ "'")
      return .both a (← readFindBoth d place fuel)
    | some _ => return .both a (← readFindBoth d place fuel)

def readFindOne (d : Disk) (place : Place) : (fuel : Nat) → FindReading FindTest
  | 0 => throw "expression is too long"
  | fuel + 1 => do
    match ← FindReading.next? with
    | none => throw "expected an expression"
    | some "!" | some "-not" => do
      if (← FindReading.peek?).isNone then throw "expected an expression after '!'"
      return .negate (← readFindOne d place fuel)
    | some "(" => do
      if (← FindReading.peek?) == some ")" then
        throw "invalid expression; empty parentheses are not allowed."
      if (← FindReading.peek?).isNone then
        throw "invalid expression; expected to find a ')' but didn't see one. Perhaps you need an extra predicate after '('"
      let t ← readFindList d place fuel
      match ← FindReading.next? with
      | some ")" => pure t
      | _ => throw "invalid expression; I was expecting to find a ')' somewhere but did not see one."
    | some ")" => throw "invalid expression; you have used a binary operator ')' with nothing before it."
    | some word =>
      if ["-o", "-or", "-a", "-and", ","].contains word then
        throw ("invalid expression; you have used a binary operator '" ++ word ++
          "' with nothing before it.")
      else readPredicate d place word

end

/-! ## Judging files -/

inductive FindEffect where
  | write (text : String) (target : Option String)
  | delete
  | batch (number : Nat)
  /-- The answer to this one was had. -/
  | ran

structure Judging where
  answers : List Bool
  /-- What was done, the last effect first. -/
  effects : List FindEffect := []
  pruned : Bool := false
  finished : Bool := false
  /-- A program whose answer is not there yet; nothing more is done. -/
  waits : Option (List String) := none

def Judging.had (j : Judging) (e : FindEffect) : Judging := { j with effects := e :: j.effects }

/-- The fields of `-printf`. -/
def findField (d : Disk) (start : String) (v : Visit) : Char → String
  | 'p' => v.path
  | 'f' => lastPart v.path
  | 'h' => folderPart v.path
  | 'P' =>
    let rest := String.ofList (v.path.toList.drop start.length)
    if rest.startsWith "/" then String.ofList rest.toList.tail else rest
  | 'H' => start
  | 'd' => toString v.depth
  | 's' => toString (sizeOfNode d v.node)
  | 'm' => String.ofList (Nat.toDigits 8 (modeOf d v.node))
  | 'M' => typeLetter v.node ++ modeLetters (modeOf d v.node)
  | 'y' => if typeLetter v.node == "-" then "f" else typeLetter v.node
  | 'u' | 'g' => "root"
  | 'U' | 'G' => "0"
  | 'n' => toString (linkCount d v.place v.node)
  | 'k' => toString (blocksOf d v.node)
  | 'l' => match v.node with
    | .link target => Text.toOctets target
    | _ => ""
  | '%' => "%"
  | c => "%" ++ c.toString

def globFits (pattern : String) (foldCase : Bool) (text : String) : Bool :=
  let fold (s : String) : String := if foldCase then s.map Char.toLower else s
  Text.matchesGlob (Text.globOf ((fold pattern).toList.map fun c => (c, false))) (fold text).toList

def kindLetter : Node → Char
  | .file _ => 'f'
  | .folder _ => 'd'
  | .link _ => 'l'
  | .device _ => 'c'

/-- Judges a file. -/
def FindTest.judge (d : Disk) (start : String) (v : Visit) : FindTest → Judging → Bool × Judging
  | t, j =>
    if j.waits.isSome || j.finished then (false, j)
    else
      match t with
      | .always b => (b, j)
      | .negate t =>
        let (b, j) := t.judge d start v j
        (!b, j)
      | .both a b =>
        let (x, j) := a.judge d start v j
        if x then b.judge d start v j else (false, j)
      | .either a b =>
        let (x, j) := a.judge d start v j
        if x then (true, j) else b.judge d start v j
      | .after a b =>
        let (_, j) := a.judge d start v j
        b.judge d start v j
      | .name pattern foldCase => (globFits pattern foldCase (lastPart v.path), j)
      | .path pattern foldCase => (globFits pattern foldCase v.path, j)
      | .linkName pattern =>
        (match v.node with
          | .link target => globFits pattern false (Text.toOctets target)
          | _ => false, j)
      | .regex r foldCase =>
        let subject : Text.Subject := { chars := v.path.toList.toArray, foldCase := foldCase }
        ((r.matchAt? subject 0).any fun m => m.stop == v.path.length, j)
      | .kind letters follow =>
        let node := match v.node, follow with
          | .link _, true => match d.lookup ("/" ++ "/".intercalate v.place) true [] with
            | .ok (_, n) => n
            | .error _ => v.node
          | n, _ => n
        (letters.contains (kindLetter node), j)
      | .size unit b => (b.holds ((sizeOfNode d v.node + unit - 1) / unit), j)
      | .empty =>
        (match v.node with
          | .file _ => sizeOfNode d v.node == 0
          | .folder _ => (d.names v.place).isEmpty
          | _ => false, j)
      | .mode how m =>
        let own := modeOf d v.node
        (match how with
          | some '-' => own &&& m == m
          | some _ => m == 0 || own &&& m != 0
          | none => own == m, j)
      | .links b => (b.holds (linkCount d v.place v.node), j)
      | .access bits =>
        (bits == 0 || modeOf d v.node &&& bits != 0, j)
      | .age b => (b.holds 0, j)
      | .same number =>
        (match v.node, number with
          | .file n, some m => n == m
          | _, _ => false, j)
      | .print ending target => (true, j.had (.write (v.path ++ ending) target))
      | .printFormat format target =>
        let text := fillStat (findField d start v) true (format.length + 1) format.toList
        (true, j.had (.write (String.ofList text) target))
      | .listLong =>
        let line := " 1 " ++ toString (blocksOf d v.node) ++ " " ++ typeLetter v.node ++
          modeLetters (modeOf d v.node) ++ " 1 root root " ++ toString (sizeOfNode d v.node) ++
          " Jan  1 00:00 " ++ v.path ++ "\n"
        (true, j.had (.write line none))
      | .delete => (true, if v.path == "." then j else j.had .delete)
      | .prune => (true, { j with pruned := true })
      | .quit => (true, { j with finished := true })
      | .batch n => (true, j.had (.batch n))
      | .run words _ =>
        match j.answers with
        | answer :: rest => (answer, { j.had .ran with answers := rest })
        | [] =>
          let words := words.map fun w => v.path.intercalate (w.splitOn "\x7b\x7d")
          (false, { j with waits := some words })

/-! ## The search -/

/-- What the search is about. -/
structure Search where
  test : FindTest
  words : FindWords
  follow : Bool
  name : String
  place : Place
  searchPath : String

/-- Something that is still to be done. -/
inductive FindTask where
  /-- A path to go to; at the top it is an operand. -/
  | go (start path : String) (depth : Nat)
  /-- A file to judge, with the answers so far and the number of effects that
  were had. -/
  | judge (start : String) (v : Visit) (answers : List Bool) (had : Nat)

/-- A search under way. -/
structure Searching where
  tasks : List FindTask
  disk : Disk
  chunks : List (Nat × String) := []
  status : Nat := 0
  /-- The paths that were put into batches, the last one first. -/
  batched : List (Nat × String) := []
  /-- The files that were written. -/
  written : List (String × String) := []

def Searching.say (s : Searching) (name text : String) : Searching :=
  { s with chunks := (2, name ++ ": " ++ text ++ "\n") :: s.chunks }

/-- Carries out an effect. -/
def Searching.carryOut (s : Searching) (f : Search) (v : Visit) : FindEffect → Searching
  | .write text none => { s with chunks := (1, text) :: s.chunks }
  | .write text (some target) =>
    let whole := ((s.written.lookup target).getD "") ++ text
    let disk := match s.disk.write (pathOf target) (.ofOctets whole) 0o644 f.place with
      | .ok d => d
      | .error _ => s.disk
    { s with disk := disk, written := (target, whole) :: s.written }
  | .delete =>
    let path := pathOf v.path
    let r := match v.node with
      | .folder _ => s.disk.removeFolder path f.place
      | _ => s.disk.unlink path f.place
    match r with
    | .ok d => { s with disk := d }
    | .error e => { (s.say f.name ("cannot delete " ++ quotedText v.path ++ ": " ++ e.reason)) with
        status := 1 }
  | .batch n => { s with batched := (n, v.path) :: s.batched }
  | .ran => s

/-- The tasks for what is in a folder. -/
def Searching.inside (s : Searching) (f : Search) (start : String) (v : Visit) : List FindTask :=
  match v.node with
  | .folder _ =>
    if f.words.maxDepth.all (v.depth < ·) then
      (sortedNames s.disk v.place).map fun name => .go start (child v.path name) (v.depth + 1)
    else []
  | _ => []

/-- Runs the programs that were given many files. -/
def runBatches (f : Search) (batched : List (Nat × String)) :
    (batches : List (Nat × List String)) → (chunks : List (Nat × String)) → (status : Nat) → Disk →
    Outcome
  | [], chunks, status, d => .ended d chunks status 0
  | (n, words) :: rest, chunks, status, d =>
    let paths := batched.filterMap fun (m, path) => if m == n then some path else none
    if paths.isEmpty then runBatches f batched rest chunks status d
    else
      match programPath d f.place f.searchPath (words.headD "") with
      | .error e =>
        let text := f.name ++ ": " ++ quotedText (words.headD "") ++ ": " ++ e.reason ++ "\n"
        runBatches f batched rest (chunks ++ [(2, text)]) 1 d
      | .ok _ =>
        .asks d chunks (words ++ paths) fun ending d =>
          runBatches f batched rest [] (if ending == .exited 0 then status else 1) d

def Searching.finish (s : Searching) (f : Search) : Outcome :=
  runBatches f s.batched.reverse (f.words.batches.zipIdx.map fun (words, n) => (n, words))
    s.chunks.reverse s.status s.disk

/-- Goes on with the search. -/
def search (f : Search) : (fuel : Nat) → Searching → Outcome
  | 0, s => s.finish f
  | fuel + 1, s =>
    match s.tasks with
    | [] => s.finish f
    | .go start path depth :: tasks =>
      let s := { s with tasks := tasks }
      match lookupEither s.disk f.follow f.place path with
      | .error e =>
        search f fuel { (s.say f.name (quotedText path ++ ": " ++ e.reason)) with status := 1 }
      | .ok (place, node) =>
        let v : Visit := ⟨path, place, node, depth⟩
        if f.words.depthFirst then
          search f fuel { s with tasks := s.inside f start v ++ .judge start v [] 0 :: tasks }
        else search f fuel { s with tasks := .judge start v [] 0 :: tasks }
    | .judge start v answers had :: tasks =>
      let s := { s with tasks := tasks }
      let (_, j) := if f.words.minDepth ≤ v.depth then
          f.test.judge s.disk start v { answers := answers }
        else (false, { answers := [] })
      let effects := j.effects.reverse.drop had
      let s := effects.foldl (fun s e => s.carryOut f v e) s
      let had := had + effects.length
      match j.waits with
      | some words =>
        match programPath s.disk f.place f.searchPath (words.headD "") with
        | .error e =>
          let s := s.say f.name (quotedText (words.headD "") ++ ": " ++ e.reason)
          search f fuel { s with tasks := .judge start v (answers ++ [false]) had :: tasks }
        | .ok _ =>
          .asks s.disk s.chunks.reverse words fun ending d =>
            search f fuel { s with
              disk := d
              chunks := []
              tasks := .judge start v (answers ++ [ending == .exited 0]) had :: tasks }
      | none =>
        if j.finished then { s with tasks := [] }.finish f
        else if f.words.depthFirst || j.pruned then search f fuel s
        else search f fuel { s with tasks := s.inside f start v ++ tasks }

/-- How many steps a search takes at most. -/
def searchLimit : Nat := 100000

/-- The tool `find`. -/
def find : Doing Unit := do
  let c ← Doing.call
  let j ← get
  let isFront (w : String) : Bool := w == "-H" || w == "-L" || w == "-P" || w.startsWith "-O"
  let front := c.arguments.takeWhile isFront
  let rest := c.arguments.drop front.length
  let isPath (w : String) : Bool :=
    !(w.startsWith "-" && 1 < w.length) && w != "(" && w != ")" && w != "!" && w != ","
  let paths := rest.takeWhile isPath
  let expression := rest.drop paths.length
  let read : FindReading FindTest :=
    if expression.isEmpty then pure (.always true)
    else readFindList j.disk c.place (8 * expression.length + 16)
  match read.run { rest := expression } with
  | .error text => do
    Doing.complain text
    Doing.quit 1
  | .ok (test, w) =>
    match w.rest with
    | ")" :: _ => do
      Doing.complain "invalid expression; you have too many ')'"
      Doing.quit 1
    | _ => do
      let test := if test.acts then test else .both test (.print "\n" none)
      let w := if test.deletes then { w with depthFirst := true } else w
      let follow := front.getLast? == some "-L" || expression.contains "-follow"
      let paths := if paths.isEmpty then ["."] else paths
      throw (search {
        test := test
        words := w
        follow := follow
        name := c.name
        place := c.place
        searchPath := searchPathOf c.environment } searchLimit {
        tasks := paths.map fun path => .go path path 0
        disk := j.disk })

end ProxySync.Tool
