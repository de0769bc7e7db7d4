import ProxySync.Shell.Builtin
import ProxySync.Tool.All

/-!
# Steps of a process

A process does what the frame on top of its stack says. A step either gets
somewhere or finds that the process has to wait; then it changes nothing.
-/

namespace ProxySync.Shell

open Files

namespace Act

/-! ## Children -/

/-- Starts a shell like this one for a script. -/
def forkShell (script : Script) (tested : Bool) (change : Process → Process := id) : Act Nat := do
  let loops ← loopCount
  fork [.run script tested] fun p => change { p with session := { p.session with loops := loops } }

def withDescriptors (changes : List (Nat × Nat)) (p : Process) : Process :=
  { p with files := changes ++ p.files.filter fun (d, _) => (changes.lookup d).isNone }

/-- Forgets a child whose ending has been told. -/
def forgetChild (number : Nat) : Act Unit :=
  changeMachine fun m => { m with processes := m.processes.filter (·.number != number) }

/-- Says that a signal ended a child, if that is worth saying. -/
def tellEnding (e : Ending) : Act Unit :=
  match e with
  | .killed n =>
    if n == Signal.interrupt || n == Signal.brokenPipe then pure ()
    else tell 2 (signalText n ++ "\n")
  | _ => pure ()

/-- Starts the stages of a pipeline, each reading what the one before it
writes. -/
def forkStages (tested : Bool) (change : Process → Process) :
    (input : Option Nat) → List Script → Act (List Nat)
  | _, [] => pure []
  | input, [last] => do
    let changes := (input.map fun id => [(0, id)]).getD []
    return [← forkShell last tested fun p => withDescriptors changes (change p)]
  | input, stage :: rest => do
    let (out, inn) ← newPipe
    let changes := ((input.map fun id => [(0, id)]).getD []) ++ [(1, inn)]
    let child ← forkShell stage tested fun p => withDescriptors changes (change p)
    return child :: (← forkStages tested id (some out) rest)

/-- A process in the background reads nothing and is not interrupted. -/
def inBackground (input : Nat) (p : Process) : Process :=
  let p := withDescriptors [(0, input)] p
  { p with ignored := p.ignored ++ [Signal.interrupt, Signal.quit] }

def startJob (script : Script) : Act Unit := do
  let input ← newOpening { channel := .device .null, reads := true }
  let deaf (p : Process) : Process :=
    { p with ignored := p.ignored ++ [Signal.interrupt, Signal.quit] }
  let children ← match script with
    | .pipeline stages => forkStages false deaf (some input) stages
    | script => do
      let child ← forkShell script false (inBackground input)
      pure [child]
  changeSession fun s => { s with lastJob := children.getLast? }
  setStatus 0

/-! ## Running scripts -/

/-- Begins to run a script. -/
def runScript (script : Script) (tested : Bool) : Act Unit := do
  let s ← session
  let checks := s.hasOption 'e' && !tested
  if s.hasOption 'n' then pure ()
  else
    match script with
    | .nothing => setStatus 0
    | .simple line assignments words redirects => do
      changeSession fun s => { s with line := line, outputStatus := 0 }
      if checks then push .checked
      push (.words ⟨assignments, redirects, tested⟩ words [] [])
    | .andThen a b => do
      push (.run b tested)
      push (.run a tested)
    | .both a b => do
      push (.goOn true b tested)
      push (.run a true)
    | .either a b => do
      push (.goOn false b tested)
      push (.run a true)
    | .negated a => do
      push .invert
      push (.run a true)
    | .pipeline stages => do
      if checks then push .checked
      let children ← forkStages tested id none stages
      push (.await children)
    | .located line a => do
      changeSession fun s => { s with line := line }
      push (.run a tested)
    | .background a => startJob a
    | .subshell a => do
      if checks then push .checked
      let child ← forkShell a tested
      push (.await [child])
    | .redirected a redirects => push (.targets (.script a tested) redirects [] [])
    | .loop untilHolds condition body => do
      push (.loopTested ⟨untilHolds, condition, body, tested⟩ 0)
      push (.run condition true)
    | .choice condition yes no => do
      push (.choose yes no tested)
      push (.run condition true)
    | .each name words body => push (.eachWords name words body tested [] [])
    | .cases subject clauses => push (.subject subject clauses tested [])
    | .function name body => do
      changeSession fun s =>
        { s with functions := (name, body) :: s.functions.filter (·.1 != name) }
      setStatus 0

/-! ## Expanding -/

/-- Starts a script whose output is put into a word. -/
def startOutput (script : Script) : Act Unit := do
  let (out, inn) ← newPipe
  let child ← forkShell script false (withDescriptors [(1, inn)])
  let kept ← freeDescriptor
  setDescriptor kept (some out)
  push (.collect kept child [])

/-- The frame with one more output that its word asked for. -/
def withAnswer (a : String) : Frame → Frame
  | .words c todo answers fields => .words c todo (answers ++ [a]) fields
  | .targets what todo answers done => .targets what todo (answers ++ [a]) done
  | .values c arguments todo answers saved => .values c arguments todo (answers ++ [a]) saved
  | .eachWords name todo body tested answers fields =>
    .eachWords name todo body tested (answers ++ [a]) fields
  | .subject w clauses tested answers => .subject w clauses tested (answers ++ [a])
  | .matching text patterns body clauses tested answers =>
    .matching text patterns body clauses tested (answers ++ [a])
  | f => f

/-- Expands a word with the outputs that are known, and goes on with what it
becomes. -/
def expandThen (manner : Manner) (answers : List String) (w : Word)
    (act : List String → Act Unit) (actPattern : List Text.Marked → Act Unit := fun _ => pure ())
    (fail : String → Act Unit := giveUp) : Act Unit := do
  let p ← self
  match expandWord p.session (← disk) p.place manner answers w with
  | (.needs script, _) => startOutput script
  | (.fails message, _) => fail message
  | (.fields texts, s) => do
    changeSession fun _ => s
    act texts
  | (.pattern marked, s) => do
    changeSession fun _ => s
    actPattern marked

/-! ## Simple commands -/

/-- Runs a program in the place of the process, or in a child. -/
def runExternal (name : String) (arguments : List String) : Act Unit := do
  let p ← self
  let s := p.session
  let isIdle : Frame → Bool
    | .restore _ | .forget _ | .checked => true
    | _ => false
  let searchPath := (s.value? "PATH").getD ""
  let d ← disk
  let isKnown := name.toList.contains '/' || (Tool.findProgram? d p.place searchPath name).isSome
  if !isKnown then
    complain (name ++ ": not found")
    setStatus 127
  else if p.isChild && p.stack.all isIdle && s.traps.all (·.2 == "") then
    execute searchPath name arguments s.environment
  else
    let child ← fork [.launch searchPath name arguments]
    push (.await [child])

/-- Runs a command whose words, redirections and assignments are done. -/
def dispatch (c : Command) (arguments : List String) : Act Unit := do
  let s ← session
  let rec unwrap (steps : Nat) (plain : Bool) (words : List String) : Bool × List String :=
    match steps, words with
    | steps + 1, "command" :: rest =>
      match rest with
      | "-p" :: next :: more =>
        if next.startsWith "-" then (plain, words) else unwrap steps true (next :: more)
      | "--" :: next :: more => unwrap steps true (next :: more)
      | next :: more => if next.startsWith "-" then (plain, words) else unwrap steps true (next :: more)
      | [] => (plain, words)
    | _, words => (plain, words)
  let hidden := (s.functions.lookup "command").isSome
  let (plain, words) := if hidden then (false, arguments) else unwrap arguments.length false arguments
  match words with
  | [] => setStatus s.outputStatus
  | name :: rest =>
    if s.hasOption 'x' then
      tell 2 ((s.value? "PS4").getD "" ++ " ".intercalate arguments ++ "\n")
    let function? := if plain then none else s.functions.lookup name
    if specialBuiltins.contains name then runBuiltin ⟨name, rest, !plain, c.tested⟩
    else
      match function? with
      | some body => do
        push (.leave s.arguments [])
        changeSession fun s => { s with arguments := rest }
        push (.run body c.tested)
      | none =>
        if name == "command" then
          match leadingOptions "pvV" rest with
          | .error text => failOf ⟨name, rest, false, c.tested⟩ text
          | .ok (_, []) => setStatus 0
          | .ok (options, word :: _) =>
            tellCommand ⟨name, rest, false, c.tested⟩ word (options.any (·.1 == 'V'))
        else if regularBuiltins.contains name then runBuiltin ⟨name, rest, false, c.tested⟩
        else runExternal name rest

/-- Goes on with a simple command whose redirections are done. -/
def beginValues (c : Command) (arguments : List String) : Act Unit :=
  push (.values c arguments c.assignments [] [])

/-- What is assigned in front of a command stays only if there is no command,
or one that is part of the language. -/
def assignmentsStay (arguments : List String) : Bool :=
  match arguments with
  | [] => true
  | name :: _ => specialBuiltins.contains name

/-- What follows from a redirection that failed: the shell ends if the command
is part of the language, and everything else only has a status. -/
def redirectionFailed (what : Redirected) : Act Unit := do
  let s ← session
  let ends := match what with
    | .command _ (name :: _) => specialBuiltins.contains name
    | .command _ [] => false
    | .script _ tested => s.hasOption 'e' && !tested
  if ends then exitShell 2 else setStatus 2

/-- Performs the redirections of a command or a script, and runs it. -/
def redirectThen (what : Redirected) (targets : List (Nat × RedirectKind × String)) :
    Act Unit := do
  let r ← redirectAll targets []
  match r.fault with
  | some (true, message) => do
    push (.restore r.saved)
    giveUp message
  | some (false, message) => do
    complain message
    restoreDescriptors r.saved
    redirectionFailed what
  | none =>
    match what with
    | .command c arguments => do
      let isExec := match arguments.filter (· != "command") with
        | ["exec"] => true
        | _ => false
      if isExec then forgetDescriptors r.saved
      else if !r.saved.isEmpty then push (.restore r.saved)
      beginValues c arguments
    | .script a tested => do
      push (.restore r.saved)
      push (.run a tested)

/-- Assigns in front of a command. -/
def assignFor (c : Command) (arguments : List String) (rest : List (String × Word))
    (saved : List (String × Option Variable)) (name value : String) : Act Unit := do
  let s ← session
  let old := s.slot? name
  match ← assignChecked name value with
  | some message => do
    replaceTop (.forget saved)
    giveUp message
  | none =>
    if assignmentsStay arguments then replaceTop (.values c arguments rest [] saved)
    else
      changeSession fun s =>
        s.put name { (s.slot? name).getD ⟨none, false, false⟩ with exported := true }
      let saved := if (saved.lookup name).isSome then saved else (name, old) :: saved
      replaceTop (.values c arguments rest [] saved)

/-! ## Reading lines -/

/-- Gives back what was read too much. -/
def giveBack (descriptor : Nat) (s : String) : Act Unit := do
  if s.isEmpty then return
  match ← opening? descriptor with
  | none => pure ()
  | some (id, o) =>
    match o.channel with
    | .file _ => changeMachine fun m => m.setOpening id { o with position := o.position - s.length }
    | .pipe n => do
      let p := (← machine).pipe n
      changeMachine fun m => m.setPipe n ⟨s :: p.chunks, p.size + s.length⟩
    | _ => pure ()

/-- Reads at most up to the end of a line. -/
def receiveLine (descriptor : Nat) : Act Received := do
  match ← receive descriptor with
  | .text s => do
    let line := s.toList.takeWhile (· != '\n')
    let line := if line.length < s.length then line ++ ['\n'] else line
    giveBack descriptor (String.ofList (s.toList.drop line.length))
    pure (.text (String.ofList line))
  | r => pure r

/-- The characters of a line that is read, put behind those before it, and
whether the line has ended. -/
def addToLine (r : LineReading) : List Char → LineReading × Bool
  | [] => (r, false)
  | c :: rest =>
    if c == '\x00' then addToLine r rest
    else if r.escaped then
      let r := { r with escaped := false }
      if c == '\n' then addToLine r rest
      else addToLine { r with text := (c, true) :: r.text } rest
    else if c == '\\' && !r.raw then addToLine { r with escaped := true } rest
    else if c == '\n' then (r, true)
    else addToLine { r with text := (c, false) :: r.text } rest

/-- The fields of a line for `count` names; the last one takes what is left. -/
def lineFields (separators : List Char) : (count : Nat) → List (Char × Bool) → List String
  | 0, _ => []
  | count + 1, s =>
    let isBlank (p : Char × Bool) : Bool :=
      !p.2 && separators.contains p.1 && (p.1 == ' ' || p.1 == '\t' || p.1 == '\n')
    let isSeparator (p : Char × Bool) : Bool := !p.2 && separators.contains p.1
    let text (s : List (Char × Bool)) : String := String.ofList (s.map (·.1))
    let s := s.dropWhile isBlank
    let field := s.takeWhile (!isSeparator ·)
    let rest := s.drop field.length
    let after := rest.dropWhile isBlank
    let after := match after with
      | p :: more => if isSeparator p then more.dropWhile isBlank else after
      | [] => []
    if count == 0 then
      if after.isEmpty then [text field] else [text ((s.reverse.dropWhile isBlank).reverse)]
    else text field :: lineFields separators count after

/-- Puts a line into the variables. -/
def endReading (r : LineReading) (status : Nat) : Act Unit := do
  let s ← session
  let fields := lineFields s.separators r.names.length r.text.reverse
  setStatus status
  let rec go : List String → List String → Act Unit
    | [], _ => pure ()
    | name :: names, fields => do
      match ← assignChecked name (fields.headD "") with
      | some message => do
        complainPlainly ("read: " ++ message)
        setStatus 2
      | none => go names fields.tail
  go r.names fields

/-! ## Programs -/

/-- What the tool of a program does with the input that it has. -/
def toolOutcome (p : Program) : Act Tool.Outcome := do
  let q ← self
  let m ← machine
  let fileOf (descriptor : Nat) : Option Nat := do
    let id ← q.files.lookup descriptor
    let o ← m.opening? id
    match o.channel with
    | .file n => some n
    | _ => none
  return Tool.runTool p.name {
    name := p.arguments.headD p.name
    arguments := p.arguments.tail
    environment := p.environment
    disk := m.disk
    place := q.place
    mask := q.mask
    input := p.input
    inputEnded := p.inputEnded
    inputFile := fileOf 0
    outputFile := fileOf 1
    clock := m.clock }

/-- Runs a program in a child of a tool. -/
def forkProgram (command : List String) (environment : List (String × String)) : Act Nat :=
  fork [.launch (Tool.searchPathOf environment) (command.headD "") command.tail] fun q =>
    { q with session := { q.session with bindings := environment.map fun (n, v) =>
        (n, { value := some v, exported := true }) } }

/-- Does what a tool wants, its frame being on top. -/
def performOutcome (p : Program) (outcome : Tool.Outcome) : Act Bool := do
  match outcome with
  | .needsInput => do
    if p.inputEnded then
      replaceTop (.quit 1)
      return true
    match ← receive 0 with
    | .text s => replaceTop (.program { p with input := p.input ++ s })
    | .blocked => return false
    | .ended | .fault _ => replaceTop (.program { p with inputEnded := true })
    return true
  | .ended d chunks status unused => do
    setDisk d
    match ← opening? 0 with
    | some (id, o) =>
      if (match o.channel with | .file _ => true | _ => false) then
        changeMachine fun m => m.setOpening id { o with position := o.position - unused }
    | none => pure ()
    replaceTop (.quit status)
    push (.emit chunks (.tool (p.arguments.headD p.name)))
    return true
  | .sleeps micros => do
    let now := (← machine).clock
    replaceTop (.quit 0)
    push (.sleep (micros.map (now + ·)))
    return true
  | .repeats text => do
    replaceTop (.repeated text (p.arguments.headD p.name))
    return true
  | .becomes d arguments environment place => do
    setDisk d
    pop
    changeSession fun s => { s with name := p.arguments.headD p.name }
    changeSelf fun q => { q with place := place }
    execute (Tool.searchPathOf environment) (arguments.headD "") arguments.tail environment
    return true
  | .asks d chunks command next => do
    setDisk d
    replaceTop (.asked p command none next)
    push (.emit chunks (.tool (p.arguments.headD p.name)))
    return true
  | .limits arguments limit => do
    let now := (← machine).clock
    let child ← forkProgram arguments p.environment
    let due := if limit.micros == 0 then none else some (now + limit.micros)
    replaceTop (.limited child due limit false)
    return true

/-- Tells that a text could not be written. -/
def writingFailed (writer : Writer) (e : IoFault) : Act Unit := do
  match writer with
  | .builtin name => do
    pop
    complainPlainly (name ++ ": " ++ name ++ ": I/O error")
    setStatus 1
  | .tool name => do
    let text := if e == .badDescriptor then "standard output: " else "write error: "
    tell 2 (name ++ ": " ++ text ++ e.reason ++ "\n")
    finish (.exited 1)

/-! ## Traps -/

/-- Between two commands: a trap may run here. -/
def isBoundary : Frame → Bool
  | .run .. | .goOn .. | .invert | .choose .. | .loopTested .. | .loopDone .. | .each ..
  | .checked | .restore _ | .forget _ | .leave .. | .source .. => true
  | _ => false

/-- Runs the trap for a signal that was caught, if this is the time to. -/
def runTraps : Act Bool := do
  let p ← self
  match p.caught with
  | [] => pure false
  | n :: rest =>
    match p.stack.head? with
    | some (.awaitJobs _) => do
      pop
      setStatus (128 + n)
      pure true
    | top? =>
      if top?.all isBoundary then
        changeSelf fun p => { p with caught := rest }
        push (.trapped p.session.status)
        push (.source (← sourceOf ((p.session.traps.lookup n).getD "")) .trap false)
        pure true
      else pure false

/-! ## Steps -/

/-- Waits for children; the last one's ending is the status. -/
def stepAwait (children : List Nat) : Act Bool := do
  let m ← machine
  let endings := children.map fun n => (m.process? n).elim (some (.exited 0)) (·.ending)
  if endings.all (·.isSome) then
    pop
    let last := (endings.getLast?.bind id).getD (.exited 0)
    tellEnding last
    setStatus last.status
    children.forM forgetChild
    return true
  else return false

/-- Waits for jobs in the background. -/
def stepAwaitJobs (jobs : Option (List Nat)) : Act Bool := do
  let m ← machine
  let me := (← self).number
  let own := m.processes.filter fun q => q.parent == me
  match jobs with
  | none =>
    if own.all (·.ending.isSome) then
      pop
      setStatus 0
      return true
    else return false
  | some [] => do
    pop
    return true
  | some (n :: rest) =>
    match own.find? (·.number == n) with
    | none => do
      setStatus 127
      replaceTop (.awaitJobs (some rest))
      return true
    | some q =>
      match q.ending with
      | none => return false
      | some e => do
        changeMachine fun m => m.setProcess { q with waited := true }
        tellEnding e
        setStatus e.status
        replaceTop (.awaitJobs (some rest))
        return true

/-- The process and all that it started, directly or not. -/
def familyOf (m : Machine) (number : Nat) : List Nat :=
  m.processes.foldl (fun found q => if found.contains q.parent then found ++ [q.number] else found)
    [number]

/-- Waits for a program whose time is limited. -/
def stepLimited (child : Nat) (due : Option Nat) (limit : Tool.TimeLimit) (sent : Bool) :
    Act Bool := do
  let m ← machine
  match (m.process? child).elim (some (.exited 0)) (·.ending) with
  | some e => do
    forgetChild child
    match e with
    | .killed n =>
      if !sent then
        changeSelf fun p => p.signalled n
        if (← self).ending.isNone then finish (.exited e.status)
      else if limit.keepsStatus || n == Signal.kill then finish (.exited e.status)
      else finish (.exited 124)
    | e => finish (.exited (if sent && !limit.keepsStatus then 124 else e.status))
    return true
  | none =>
    if due.any (· ≤ m.clock) then
      let signal := if sent then Signal.kill else limit.signal
      let others := if limit.alone then [] else (familyOf m child).drop 1
      for number in child :: others do
        let _ ← send number signal
        let _ ← send number Signal.continued
      if signal == Signal.kill && !limit.alone then
        changeSelf fun p => p.signalled Signal.kill
      let next := if sent then none else limit.killAfter.map (m.clock + ·)
      if (← self).ending.isNone then replaceTop (.limited child next limit true)
      return true
    else return false

/-- A step of the process at work, unless it has to wait. -/
def step : Act Bool := do
  let p ← self
  if ← runTraps then return true
  match p.stack with
  | [] => do
    exitShell p.session.status
    return true
  | top :: _ =>
    let s := p.session
    match top with
    | .run script tested => do
      pop
      runScript script tested
      return true
    | .goOn ifSuccess script tested => do
      pop
      if (s.status == 0) == ifSuccess then push (.run script tested)
      return true
    | .invert => do
      pop
      setStatus (if s.status == 0 then 1 else 0)
      return true
    | .choose yes no tested => do
      pop
      if s.status == 0 then push (.run yes tested)
      else
        match no with
        | some no => push (.run no tested)
        | none => setStatus 0
      return true
    | .loopTested l last => do
      if (s.status == 0) != l.untilHolds then
        replaceTop (.loopDone l)
        push (.run l.body l.tested)
      else
        pop
        setStatus last
      return true
    | .loopDone l => do
      replaceTop (.loopTested l s.status)
      push (.run l.condition true)
      return true
    | .each _ [] _ _ => do
      pop
      return true
    | .each name (w :: words) body tested => do
      match ← assignChecked name w with
      | some message => giveUp message
      | none => do
        replaceTop (.each name words body tested)
        push (.run body tested)
      return true
    | .checked => do
      pop
      if s.status != 0 then exitShell s.status
      return true
    | .restore _ | .forget _ | .leave .. => do
      pop
      putBack top
      return true
    | .source source origin tested => do
      let source := { source with
        documents := s.documents, nextDocument := s.nextDocument, aliases := s.aliases }
      match Shell.readLine source with
      | (.error fault, source) => do
        changeSession fun s => { s with line := source.line }
        giveUp fault.message
      | (.ok none, _) => pop
      | (.ok (some script), source) => do
        changeSession fun s =>
          { s with documents := source.documents, nextDocument := source.nextDocument }
        replaceTop (.source source origin tested)
        match script with
        | .nothing => pure ()
        | script => push (.run script tested)
      return true
    | .words c [] _ fields => do
      replaceTop (.targets (.command c fields.reverse) c.redirects [] [])
      return true
    | .words c (w :: rest) answers fields => do
      let assigns := match fields.reverse.filter (· != "command") with
        | name :: _ => assigningBuiltins.contains name
        | [] => false
      let manner := if assigns && (assignment? w).isSome then Manner.assignment else .fields
      expandThen manner answers w fun texts => replaceTop (.words c rest [] (texts.reverse ++ fields))
      return true
    | .targets what [] _ done => do
      pop
      redirectThen what done.reverse
      return true
    | .targets what (r :: rest) answers done => do
      let word := match r.kind with
        | .document n => (s.documents.lookup n).getD []
        | _ => r.target
      let goOn (texts : List String) : Act Unit :=
        replaceTop (.targets what rest [] ((r.channel, r.kind, String.join texts) :: done))
      let documentFailed (message : String) : Act Unit := do
        pop
        let r ← redirectAll done.reverse []
        complain message
        restoreDescriptors r.saved
        redirectionFailed what
      match r.kind with
      | .document _ => expandThen .text answers word goOn (fun _ => pure ()) documentFailed
      | _ => expandThen .text answers word goOn
      return true
    | .values c arguments [] _ saved => do
      pop
      if !saved.isEmpty then push (.forget saved)
      dispatch c arguments
      return true
    | .values c arguments ((name, w) :: rest) answers saved => do
      expandThen .value answers w fun texts =>
        assignFor c arguments rest saved name (String.join texts)
      return true
    | .eachWords name [] body tested _ fields => do
      if fields.isEmpty then setStatus 0
      replaceTop (.each name fields.reverse body tested)
      return true
    | .eachWords name (w :: rest) body tested answers fields => do
      expandThen .fields answers w fun texts =>
        replaceTop (.eachWords name rest body tested [] (texts.reverse ++ fields))
      return true
    | .subject w clauses tested answers => do
      expandThen .text answers w fun texts =>
        replaceTop (.matching (String.join texts) [] .nothing clauses tested [])
      return true
    | .matching _ [] _ [] _ _ => do
      pop
      setStatus 0
      return true
    | .matching text [] _ ((patterns, body) :: clauses) tested _ => do
      replaceTop (.matching text patterns body clauses tested [])
      return true
    | .matching text (w :: patterns) body clauses tested answers => do
      expandThen .pattern answers w (fun _ => pure ()) fun marked => do
        if Text.matchesGlob (Text.globOf marked) text.toList then
          pop
          push (.run body tested)
        else replaceTop (.matching text patterns body clauses tested [])
      return true
    | .collect descriptor child chunks => do
      match ← receive descriptor with
      | .text t => replaceTop (.collect descriptor child (t :: chunks))
      | .blocked => return false
      | .ended | .fault _ => do
        close descriptor
        match ((← machine).process? child).elim (some (.exited 0)) (·.ending) with
        | none => return false
        | some e => do
          tellEnding e
          forgetChild child
          pop
          changeSession fun s => { s with outputStatus := e.status }
          changeSelf fun p => { p with stack := match p.stack with
            | f :: rest => withAnswer (String.join chunks.reverse) f :: rest
            | [] => [] }
      return true
    | .await children => stepAwait children
    | .awaitJobs jobs => stepAwaitJobs jobs
    | .readLine r => do
      match ← receiveLine 0 with
      | .text t => do
        let (r, ended) := addToLine r t.toList
        if ended then
          pop
          endReading r 0
        else replaceTop (.readLine r)
      | .blocked => return false
      | .ended | .fault _ => do
        pop
        endReading r 1
      return true
    | .gather chunks => do
      match ← receive 0 with
      | .text t => replaceTop (.gather (t :: chunks))
      | .blocked => return false
      | .ended | .fault _ => replaceTop (.source (← sourceOf (String.join chunks.reverse)) .main false)
      return true
    | .launch searchPath name arguments => do
      pop
      execute searchPath name arguments s.environment
      return true
    | .become name path arguments environment depth => do
      pop
      becomeProgram name path arguments environment depth
      return true
    | .program p => performOutcome p (← toolOutcome p)
    | .emit [] _ => do
      pop
      return true
    | .emit ((descriptor, text) :: rest) writer => do
      match ← transmit descriptor text with
      | .done => replaceTop (.emit rest writer)
      | .blocked => return false
      | .fault e =>
        if descriptor == 1 then writingFailed writer e else replaceTop (.emit rest writer)
      | .broken => do
        changeSelf fun p => p.signalled Signal.brokenPipe
        if (← self).ending.isNone then writingFailed writer .brokenPipe
      return true
    | .repeated text name => do
      let isPipe := match ← opening? 1 with
        | some (_, o) => (match o.channel with | .pipe _ => true | _ => false)
        | none => true
      if !isPipe then return false
      match ← transmit 1 text with
      | .done => pure ()
      | .blocked => return false
      | .fault e => writingFailed (.tool name) e
      | .broken => do
        changeSelf fun p => p.signalled Signal.brokenPipe
        if (← self).ending.isNone then writingFailed (.tool name) .brokenPipe
      return true
    | .asked p command none next => do
      let child ← forkProgram command p.environment
      replaceTop (.asked p command (some child) next)
      return true
    | .asked p _ (some child) next => do
      match ((← machine).process? child).elim (some (.exited 0)) (·.ending) with
      | none => return false
      | some e => do
        forgetChild child
        performOutcome p (next e (← disk))
    | .limited child due limit sent => stepLimited child due limit sent
    | .sleep due => do
      match due with
      | some t =>
        if t ≤ (← machine).clock then
          pop
          return true
        else return false
      | none => return false
    | .quit status | .exiting status => do
      finish (.exited (status % 256))
      return true
    | .trapped status => do
      pop
      setStatus status
      return true

end Act

/-- When a process that waits may go on by itself. -/
def Process.due? (p : Process) : Option Nat :=
  if p.ending.isSome || p.stopped then none
  else
    match p.stack.head? with
    | some (.sleep due) => due
    | some (.limited _ due _ _) => due
    | _ => none

end ProxySync.Shell
