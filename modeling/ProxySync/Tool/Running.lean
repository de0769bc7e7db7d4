import ProxySync.Shell.Signal
import ProxySync.Tool.Program
import ProxySync.Tool.Words

/-!
# Tools that run programs

The tools that run another program, with another environment, for a limited
time or with words from the input: `env`, `nohup`, `nice`, `timeout`, `xargs`
and `flock`. With them goes `sleep`, which only waits.
-/

namespace ProxySync.Tool

open Files

/-! ## Becoming a program -/

/-- The status of a tool that cannot run its program. -/
def launchFailure (e : IoFault) : Nat := if e == .notFound then 127 else 126

/-- Becomes a program, or says why that cannot be; `front` stands before the
name of the program. -/
def become (front : String) (quotes : Bool) (words : List String)
    (environment : List (String × String)) (place : Place) : Doing Unit := do
  let d := (← get).disk
  let name := words.headD ""
  match programPath d place (searchPathOf environment) name with
  | .ok _ => throw (.becomes d words environment place)
  | .error e => do
    Doing.complain (front ++ (if quotes then quotedText name else name) ++ ": " ++ e.reason)
    Doing.quit (launchFailure e)

/-- Becomes a program with everything as it is. -/
def becomeSame (front : String) (words : List String) : Doing Unit := do
  let c ← Doing.call
  become front true words c.environment c.place

/-! ## env -/

/-- Sets a variable, in its place if it is there. -/
def setVariable (environment : List (String × String)) (name value : String) :
    List (String × String) :=
  if environment.any (·.1 == name) then
    environment.map fun (n, v) => if n == name then (n, value) else (n, v)
  else environment ++ [(name, value)]

/-- The name and the value around the first equals sign. -/
def splitSetting? (word : String) : Option (String × String) :=
  let name := word.toList.takeWhile (· != '=')
  if name.length == word.length then none
  else some (String.ofList name, String.ofList (word.toList.drop (name.length + 1)))

def environmentOptions : Options where
  letters := "0C:iS:u:v\x01"
  names := [("ignore-environment", 'i'), ("null", '0'), ("unset", 'u'), ("chdir", 'C'),
    ("split-string", 'S'), ("debug", 'v'), ("block-signal", '\x01')]
  anywhere := false

/-- The tool `env`. -/
def env : Doing Unit := do
  let p ← environmentOptions.parsed 125
  let c ← Doing.call
  let operands := (p.all 'S').flatMap (fun s =>
    (s.toList.splitBy (fun a b => isBlankPair a b)).filterMap fun part =>
      if part.all isSpaceChar then none else some (String.ofList part)) ++ p.operands
  let clears := p.has 'i' || operands.head? == some "-"
  let operands := if operands.head? == some "-" then operands.tail else operands
  let environment := if clears then [] else c.environment
  let environment := environment.filter fun (n, _) => !(p.all 'u').contains n
  let settings := operands.takeWhile fun w => (splitSetting? w).isSome
  let environment := (settings.filterMap splitSetting?).foldl
    (fun e (n, v) => setVariable e n v) environment
  let words := operands.drop settings.length
  match words with
  | [] =>
    if (p.has 'C') then Doing.misuse "must specify command with --chdir (-C)" 125
    else
      for (n, v) in environment do
        Doing.write (n ++ "=" ++ v ++ (if p.has '0' then "\x00" else "\n"))
  | words => do
    if p.has '0' then Doing.misuse "cannot specify --null (-0) with command" 125
    match p.last? 'C' with
    | none => become "" true words environment c.place
    | some folder =>
      match ← Doing.look fun d place => d.lookup (pathOf folder) true place with
      | .ok (place, .folder _) => become "" true words environment place
      | r => do
        let reason := match r with
          | .error e => e.reason
          | .ok _ => IoFault.notADirectory.reason
        Doing.complain ("cannot change directory to " ++ quotedText folder ++ ": " ++ reason)
        Doing.quit 125
where
  isBlankPair (a b : Char) : Bool := isSpaceChar a == isSpaceChar b

/-- The tool `printenv`. -/
def printenv : Doing Unit := do
  let p ← ({ letters := "0", names := [("null", '0')], anywhere := false } : Options).parsed 2
  let c ← Doing.call
  let ending := if p.has '0' then "\x00" else "\n"
  if p.operands.isEmpty then
    for (n, v) in c.environment do
      Doing.write (n ++ "=" ++ v ++ ending)
  else
    for name in p.operands do
      match c.environment.lookup name with
      | some v => Doing.write (v ++ ending)
      | none => Doing.fail 1

/-! ## nohup, nice and others -/

def noOptions : Options where
  letters := ""
  anywhere := false

/-- The tool `nohup`. -/
def nohup : Doing Unit := do
  let p ← noOptions.parsed 125
  if p.operands.isEmpty then Doing.misuse "missing operand" 125
  else becomeSame "failed to run command " p.operands

/-- Words whose first is a number with a sign, as an option. -/
def niceWords (words : List String) : List String :=
  match words with
  | [] => []
  | w :: rest =>
    match w.toList with
    | '-' :: s =>
      let digits := if s.head? == some '-' || s.head? == some '+' then s.tail else s
      if !digits.isEmpty && digits.all Char.isDigit then "-n" :: String.ofList s :: rest else words
    | _ => words

/-- The tool `nice`. -/
def nice : Doing Unit := do
  modify fun j => { j with call := { j.call with arguments := niceWords j.call.arguments } }
  let p ← ({ letters := "n:", names := [("adjustment", 'n')], anywhere := false } : Options).parsed 125
  match p.last? 'n' with
  | some s =>
    let digits := match s.toList with
      | '-' :: rest | '+' :: rest => rest
      | rest => rest
    if (count? (String.ofList digits)).isNone then
      Doing.complain ("invalid adjustment " ++ quotedText s)
      Doing.quit 125
    else if p.operands.isEmpty then Doing.misuse "a command must be given with an adjustment" 125
  | none => pure ()
  if p.operands.isEmpty then Doing.writeLine "0" else becomeSame "" p.operands

/-- A tool that runs a program without changing anything that is seen here;
`letters` are its options. -/
def plainRunner (letters : String) (names : List (String × Char)) : Doing Unit := do
  let p ← ({ letters := letters, names := names, anywhere := false } : Options).parsed 125
  if p.operands.isEmpty then Doing.misuse "missing operand" 125
  else becomeSame "failed to run command " p.operands

/-- The tool `flock`. Whoever asks for a lock gets it at once. -/
def flock : Doing Unit := do
  let p ← ({
    letters := "sxenw:uoE:FvhV"
    names := [("shared", 's'), ("exclusive", 'x'), ("unlock", 'u'), ("nonblock", 'n'),
      ("nb", 'n'), ("timeout", 'w'), ("wait", 'w'), ("conflict-exit-code", 'E'), ("close", 'o'),
      ("no-fork", 'F'), ("verbose", 'v')]
    anywhere := false } : Options).parsed 64
  let c ← Doing.call
  match p.operands with
  | [] => do
    Doing.complain "requires at least one argument"
    Doing.quit 64
  | [one] =>
    if (count? one).isNone then
      Doing.complain ("bad file descriptor: " ++ quotedText one)
      Doing.quit 64
  | path :: words =>
    let mode := Nat.land 0o666 (Nat.xor 0o777 c.mask)
    let present ← Doing.look fun d place => (d.lookup (pathOf path) true place).isOk
    if !present then
      match ← Doing.onDisk fun d => d.write (pathOf path) (.text "") mode c.place with
      | .ok () => pure ()
      | .error e => do
        Doing.complain ("cannot open lock file " ++ path ++ ": " ++ e.reason)
        Doing.quit 66
    match words with
    | "-c" :: text :: _ | "--command" :: text :: _ => becomeSame "" ["sh", "-c", text]
    | words => do
      let d := (← get).disk
      match programPath d c.place (searchPathOf c.environment) (words.headD "") with
      | .ok _ => throw (.becomes d words c.environment c.place)
      | .error e => do
        Doing.complain ("failed to execute " ++ words.headD "" ++ ": " ++ e.reason)
        Doing.quit 69

/-! ## Time -/

/-- A span of time that is written with a unit, in microseconds; nothing where
it has no end. -/
def interval? (text : String) : Option (Option Nat) :=
  let s := text.toList
  let (factor, number) := match s.getLast? with
    | some 's' => (1, s.dropLast)
    | some 'm' => (60, s.dropLast)
    | some 'h' => (3600, s.dropLast)
    | some 'd' => (86400, s.dropLast)
    | _ => (1, s)
  let lower := String.ofList (number.map Char.toLower)
  if lower == "inf" || lower == "infinity" then some none
  else
    match readDecimal? (String.ofList number) with
    | none => none
    | some d =>
      if d.units < 0 then none
      else
        let scale := Nat.pow 10 d.places
        some (some ((d.units.toNat * factor * 1000000 + scale - 1) / scale))

/-- The tool `sleep`. -/
def sleepTool : Doing Unit := do
  let p ← ({ letters := "" } : Options).parsed
  if p.operands.isEmpty then Doing.misuse "missing operand"
  let bad := p.operands.filter fun w => (interval? w).isNone
  match bad.getLast? with
  | some last => do
    for w in bad.dropLast do
      Doing.complain ("invalid time interval " ++ quotedText w)
    Doing.misuse ("invalid time interval " ++ quotedText last)
  | none =>
    let spans := p.operands.filterMap interval?
    let total := spans.foldl (fun a b => a.bind fun m => b.map (m + ·)) (some 0)
    throw (.sleeps total)

def timeoutOptions : Options where
  letters := "fk:ps:v"
  names := [("foreground", 'f'), ("kill-after", 'k'), ("preserve-status", 'p'), ("signal", 's'),
    ("verbose", 'v')]
  anywhere := false

/-- The number of a signal, whose name may have `SIG` in front. -/
def signalFrom? (text : String) : Option Nat :=
  let upper := text.map Char.toUpper
  Shell.signalNumber? (if upper.startsWith "SIG" then String.ofList (upper.toList.drop 3) else upper)

/-- The tool `timeout`. -/
def timeout : Doing Unit := do
  let p ← timeoutOptions.parsed 125
  let span (text : String) : Doing (Option Nat) := do
    match interval? text with
    | some s => pure s
    | none => Doing.misuse ("invalid time interval " ++ quotedText text) 125
  let killAfter ← match p.last? 'k' with
    | some s => span s
    | none => pure none
  let signal ← match p.last? 's' with
    | none => pure Shell.Signal.terminate
    | some s =>
      match signalFrom? s with
      | some n => pure n
      | none => Doing.misuse (quotedText s ++ ": invalid signal") 125
  match p.operands with
  | duration :: name :: rest => do
    let micros ← span duration
    let c ← Doing.call
    match ← Doing.look fun d place => programPath d place (searchPathOf c.environment) name with
    | .error e => do
      Doing.complain ("failed to run command " ++ quotedText name ++ ": " ++ e.reason)
      Doing.quit (launchFailure e)
    | .ok _ =>
      throw (.limits (name :: rest) {
        micros := micros.getD 0
        signal := signal
        killAfter := killAfter
        alone := p.has 'f'
        keepsStatus := p.has 'p' })
  | _ => do
    let c ← Doing.call
    modify fun j => { j with
      chunks := (2, "Try '" ++ c.name ++ " --help' for more information.\n") :: j.chunks }
    Doing.quit 125

/-! ## xargs -/

inductive ItemFault where
  | unclosed (double : Bool)

/-- An item and whether its line ends behind it. -/
abbrev Item := String × Bool

/-- Reads items between blanks, or whole lines; quotes and backslashes hold
items together. `part` is the item so far, backwards, if there is one. -/
def readItems (wholeLines : Bool) : (fuel : Nat) → (part : Option (List Char)) →
    (done : List Item) → List Char → Except ItemFault (List Item)
  | 0, _, done, _ => .ok done.reverse
  | fuel + 1, part, done, s =>
    let close (atEnd : Bool) : List Item :=
      match part with
      | some cs => (String.ofList cs.reverse, atEnd) :: done
      | none => done
    match s with
    | [] => .ok (close true).reverse
    | '\n' :: rest =>
      let done := match part, done with
        | none, (last, _) :: more => (last, true) :: more
        | _, _ => close true
      readItems wholeLines fuel none done rest
    | '\\' :: c :: rest => readItems wholeLines fuel (some (c :: part.getD [])) done rest
    | c :: rest =>
      if c == '\'' || c == '"' then
        let inner := rest.takeWhile fun d => d != c && d != '\n'
        match rest.drop inner.length with
        | d :: more =>
          if d == c then
            readItems wholeLines fuel (some (inner.reverse ++ part.getD [])) done more
          else .error (.unclosed (c == '"'))
        | [] => .error (.unclosed (c == '"'))
      else if isItemBlank c && (!wholeLines || part.isNone) then
        readItems wholeLines fuel none (close false) rest
      else readItems wholeLines fuel (some (c :: part.getD [])) done rest
where
  isItemBlank (c : Char) : Bool := c == ' ' || c == '\t'

/-- Puts items into groups of a number of items and of a length. -/
def groupItems (most : Nat) (room : Nat) (items : List String) : List (List String) :=
  let (groups, last, _) := items.foldl (fun (groups, group, used) item =>
    let size := item.length + 1
    if !group.isEmpty && (most ≤ group.length || room < used + size) then
      (group.reverse :: groups, [item], size)
    else (groups, item :: group, used + size)) (([] : List (List String)), ([] : List String), 0)
  (if last.isEmpty then groups else last.reverse :: groups).reverse

/-- Puts items of a number of lines together. -/
def groupLines (most : Nat) (items : List Item) : List (List String) :=
  let (groups, last, _) := items.foldl (fun (groups, group, lines) (item, atEnd) =>
    let lines := if atEnd then lines + 1 else lines
    if most ≤ lines then ((item :: group).reverse :: groups, [], 0)
    else (groups, item :: group, lines)) (([] : List (List String)), ([] : List String), 0)
  (if last.isEmpty then groups else last.reverse :: groups).reverse

/-- Puts a text in the place of every mark in a word. -/
def replaceMark (mark text : String) (word : String) : String := text.intercalate (word.splitOn mark)

def argumentOptions : Options where
  letters := "0a:d:E:e::I:i::L:l::n:P:prs:tx\x01"
  names := [("null", '0'), ("arg-file", 'a'), ("delimiter", 'd'), ("eof", 'e'), ("replace", 'i'),
    ("max-lines", 'l'), ("max-args", 'n'), ("max-procs", 'P'), ("interactive", 'p'),
    ("no-run-if-empty", 'r'), ("max-chars", 's'), ("verbose", 't'), ("exit", 'x'),
    ("open-tty", '\x01')]
  anywhere := false

/-- The character that separates items, as it is written. -/
def delimiterOf (text : String) : Char :=
  match text.toList with
  | '\\' :: 'n' :: _ => '\n'
  | '\\' :: 't' :: _ => '\t'
  | '\\' :: '0' :: _ => '\x00'
  | '\\' :: c :: _ => c
  | c :: _ => c
  | [] => '\x00'

/-- The room that the words of a program take at most. -/
def argumentRoom : Nat := 131072

/-- Runs programs one after the other. A program that fails in a bad way is
the last one. -/
def askAll (name : String) : (commands : List (List String)) → (chunks : List (Nat × String)) →
    (status : Nat) → Disk → Outcome
  | [], chunks, status, d => .ended d chunks status 0
  | command :: rest, chunks, status, d =>
    .asks d chunks command fun ending d =>
      let stop (status : Nat) (text : String) : Outcome :=
        let said := if text.isEmpty then [] else
          [(2, name ++ ": " ++ command.headD "" ++ ": " ++ text ++ "\n")]
        .ended d said status 0
      match ending with
      | .exited 0 => askAll name rest [] status d
      | .exited 255 => stop 124 "exited with status 255; aborting"
      | .exited 126 => stop 126 ""
      | .exited 127 => stop 127 ""
      | .exited _ => askAll name rest [] 123 d
      | .killed n => stop 125 ("terminated by signal " ++ toString n)
      | .expired => stop 125 ""

/-- The tool `xargs`. -/
def xargs : Doing Unit := do
  let p ← argumentOptions.parsed
  let c ← Doing.call
  let count (letter : Char) (least : Nat) : Doing (Option Nat) := do
    match p.last? letter with
    | none => pure none
    | some "" => pure (some 1)
    | some s =>
      match count? s with
      | none => Doing.misuse ("invalid number \"" ++ s ++ "\" for -" ++ letter.toString ++ " option")
      | some n =>
        if n < least then
          Doing.misuse ("value " ++ s ++ " for -" ++ letter.toString ++ " option should be >= " ++
            toString least)
        else pure (some n)
  let perCall ← count 'n' 1
  let perLines ← count 'L' 1
  let perLines := perLines.orElse fun () => (p.last? 'l').map fun s => (count? s).getD 1
  let room ← count 's' 1
  let mark? := ((p.last? 'I').orElse fun () => p.last? 'i').map fun s => if s.isEmpty then "\x7b\x7d" else s
  let text ← match p.last? 'a' with
    | none => Doing.input
    | some path =>
      match ← operandText path with
      | .ok s => pure s
      | .error e => do
        Doing.complain ("Cannot open input file " ++ quotedText path ++ ": " ++ e.reason)
        Doing.quit 1
  let s := text.toList
  let delimiter? := if p.lastOf ['0', 'd'] == some '0' then some '\x00'
    else (p.last? 'd').map delimiterOf
  let items ← match delimiter? with
    | some d => pure (((records d s).map (withoutMark d)).map fun r => (String.ofList r, true))
    | none =>
      match readItems mark?.isSome (s.length + 2) none [] s with
      | .ok items => pure items
      | .error (.unclosed double) => do
        Doing.complain ("unmatched " ++ (if double then "double" else "single") ++
          " quote; by default quotes are special to xargs unless you use the -0 option")
        Doing.quit 1
  let items := match (p.last? 'E').orElse fun () => p.last? 'e' with
    | some last => if last.isEmpty then items else items.takeWhile (·.1 != last)
    | none => items
  let words := if p.operands.isEmpty then ["echo"] else p.operands
  let texts := items.map (·.1)
  let commands : List (List String) := match mark? with
    | some mark => texts.map fun item => words.map (replaceMark mark item)
    | none =>
      let groups := match perLines with
        | some n => groupLines n items
        | none => groupItems (perCall.getD items.length) (room.getD argumentRoom) texts
      if groups.isEmpty then if p.has 'r' then [] else [words]
      else groups.map (words ++ ·)
  match commands with
  | [] => pure ()
  | first :: _ => do
    match ← Doing.look fun d place => programPath d place (searchPathOf c.environment) (first.headD "") with
    | .error e => do
      Doing.complain (first.headD "" ++ ": " ++ e.reason)
      Doing.quit (launchFailure e)
    | .ok _ => do
      if p.has 't' then
        for command in commands do
          modify fun j => { j with chunks := (2, " ".intercalate command ++ "\n") :: j.chunks }
      let j ← get
      throw (askAll c.name commands j.chunks.reverse 0 j.disk)

end ProxySync.Tool
