import ProxySync.Files.Disk
import ProxySync.Shell.Reader
import ProxySync.Shell.Session
import ProxySync.Shell.Signal
import ProxySync.Tool.Basic

/-!
# Processes

A process has open descriptors, a folder that it is in, what it does with
signals, and a stack of things to do. A descriptor leads to an opening, which
processes share: its position moves for all of them. Openings lead to files,
devices and pipes.
-/

namespace ProxySync.Shell

open Files

/-! ## Openings -/

/-- What an opening leads to. -/
inductive Channel where
  | file (number : Nat)
  | device (d : Device)
  | folder (place : Place)
  | pipe (number : Nat)
  /-- Output that nobody looks at. -/
  | unseen
deriving DecidableEq, Repr

structure Opening where
  channel : Channel
  position : Nat := 0
  reads : Bool := false
  writes : Bool := false
  /-- Every text is written behind all others. -/
  appends : Bool := false
deriving DecidableEq, Repr

/-- What has been written into a pipe and not been read yet, oldest first. -/
structure Pipe where
  chunks : List String := []
  size : Nat := 0

/-- How much a pipe holds before its writers have to wait. -/
def pipeLimit : Nat := 65536

/-! ## Things to do -/

/-- A simple command that is being run. -/
structure Command where
  assignments : List (String × Word)
  redirects : List Redirect
  /-- Its status is looked at, so that failing ends nothing. -/
  tested : Bool

structure Repetition where
  untilHolds : Bool
  condition : Script
  body : Script
  tested : Bool

/-- What the redirections belong to. -/
inductive Redirected where
  | command (c : Command) (arguments : List String)
  | script (a : Script) (tested : Bool)

/-- Where a text of commands comes from. -/
inductive Origin where
  | main
  | evaluated
  | file (path : String)
  | trap
deriving DecidableEq, Repr

/-- What complaints begin with where commands come from there. -/
def Origin.context : Origin → String
  | .evaluated => "eval: "
  | .file path => path ++ ": "
  | .main | .trap => ""

/-- Who writes a text, which decides what is said when that fails. -/
inductive Writer where
  | builtin (name : String)
  | tool (name : String)
deriving DecidableEq, Repr

/-- A program other than the shell. -/
structure Program where
  name : String
  arguments : List String
  environment : List (String × String)
  /-- What has been read so far from the input. -/
  input : String := ""
  inputEnded : Bool := false

/-- What is read by the command `read`. -/
structure LineReading where
  names : List String
  raw : Bool
  /-- The characters so far, the last one first, and whether each of them is
  literal. -/
  text : List (Char × Bool) := []
  escaped : Bool := false

/-- Something a process has to do. The frame that comes next is on top. -/
inductive Frame where
  | run (script : Script) (tested : Bool)
  /-- Goes on with a script if the status says so. -/
  | goOn (ifSuccess : Bool) (script : Script) (tested : Bool)
  | invert
  | choose (yes : Script) (no : Option Script) (tested : Bool)
  /-- The condition of a loop has been run. -/
  | loopTested (l : Repetition) (last : Nat)
  /-- The body of a loop has been run. -/
  | loopDone (l : Repetition)
  | each (name : String) (words : List String) (body : Script) (tested : Bool)
  /-- Ends the shell if the status is a failure. -/
  | checked
  | restore (saved : List (Nat × Option Nat))
  | forget (saved : List (String × Option Variable))
  | leave (arguments : List String) (saved : List (String × Option Variable))
  | source (s : Source) (origin : Origin) (tested : Bool)
  /-- The words of a command, the last field first. -/
  | words (c : Command) (todo : List Word) (answers : List String) (fields : List String)
  | targets (what : Redirected) (todo : List Redirect) (answers : List String)
      (done : List (Nat × RedirectKind × String))
  | values (c : Command) (arguments : List String) (todo : List (String × Word))
      (answers : List String) (saved : List (String × Option Variable))
  | eachWords (name : String) (todo : List Word) (body : Script) (tested : Bool)
      (answers : List String) (fields : List String)
  | subject (w : Word) (clauses : List (List Word × Script)) (tested : Bool)
      (answers : List String)
  | matching (text : String) (patterns : List Word) (body : Script)
      (clauses : List (List Word × Script)) (tested : Bool) (answers : List String)
  /-- Reads the output of a child. -/
  | collect (descriptor : Nat) (child : Nat) (chunks : List String)
  | await (children : List Nat)
  | awaitJobs (jobs : Option (List Nat))
  | readLine (r : LineReading)
  /-- Reads commands from the input. -/
  | gather (chunks : List String)
  | launch (searchPath name : String) (arguments : List String)
  /-- Becomes the program at a path. What goes wrong is told of the name. -/
  | become (name path : String) (arguments : List String)
      (environment : List (String × String)) (depth : Nat)
  | program (p : Program)
  | emit (chunks : List (Nat × String)) (writer : Writer)
  | repeated (text : String) (name : String)
  /-- Runs a program for a tool, which then goes on. -/
  | asked (p : Program) (command : List String) (child : Option Nat)
      (next : Ending → Disk → Tool.Outcome)
  /-- Waits for a child, and sends it a signal when its time is over. -/
  | limited (child : Nat) (due : Option Nat) (limit : Tool.TimeLimit) (sent : Bool)
  | sleep (due : Option Nat)
  | quit (status : Nat)
  | trapped (status : Nat)
  | exiting (status : Nat)

/-! ## Processes -/

structure Process where
  number : Nat
  parent : Nat
  /-- The openings of the descriptors. From 10 on, descriptors are the
  shell's own. -/
  files : List (Nat × Nat) := []
  place : Place := []
  /-- The folder as the shell names it. -/
  folder : String := "/"
  mask : Nat := 0o022
  ignored : List Nat := []
  session : Session
  stack : List Frame
  /-- Signals that a trap is still to be run for. -/
  caught : List Nat := []
  stopped : Bool := false
  /-- What runs last may take the place of the process. -/
  isChild : Bool := false
  ending : Option Ending := none
  /-- Its ending has been told to its parent. -/
  waited : Bool := false

/-- What complaints begin with now. -/
def Process.context (p : Process) : String :=
  let origin? := p.stack.findSome? fun
    | .source _ origin _ => some origin
    | _ => none
  (origin?.map Origin.context).getD p.session.context

/-- The process with a signal delivered to it. -/
def Process.signalled (p : Process) (n : Nat) : Process :=
  if p.ending.isSome || n == 0 then p
  else if n == Signal.kill then { p with files := [], stack := [], ending := some (.killed n) }
  else if n == Signal.stop then { p with stopped := true }
  else
    let p := if n == Signal.continued then { p with stopped := false } else p
    match p.session.traps.lookup n with
    | some action =>
      if action.isEmpty || p.caught.contains n then p else { p with caught := p.caught ++ [n] }
    | none =>
      if p.ignored.contains n then p
      else
        match signalEffect n with
        | .nothing => p
        | .stops => { p with stopped := true }
        | .ends => { p with files := [], stack := [], ending := some (.killed n) }

def ownDescriptor : Nat := 10

structure Machine where
  disk : Disk
  openings : List (Nat × Opening) := []
  pipes : List (Nat × Pipe) := []
  /-- All processes, older ones first. -/
  processes : List Process := []
  /-- Microseconds since the start. -/
  clock : Nat := 0
  nextOpening : Nat := 0
  nextPipe : Nat := 0
  nextProcess : Nat := 4201

namespace Machine

def process? (m : Machine) (number : Nat) : Option Process :=
  m.processes.find? (·.number == number)

def setProcess (m : Machine) (p : Process) : Machine :=
  { m with processes := m.processes.map fun q => if q.number == p.number then p else q }

def opening? (m : Machine) (id : Nat) : Option Opening := m.openings.lookup id

def setOpening (m : Machine) (id : Nat) (o : Opening) : Machine :=
  { m with openings := m.openings.map fun (i, p) => if i == id then (i, o) else (i, p) }

def pipe (m : Machine) (number : Nat) : Pipe := (m.pipes.lookup number).getD {}

def setPipe (m : Machine) (number : Nat) (p : Pipe) : Machine :=
  { m with pipes := m.pipes.map fun (n, q) => if n == number then (n, p) else (n, q) }

/-- Some process may still do to the pipe what `uses` says. -/
def pipeIsUsed (m : Machine) (number : Nat) (uses : Opening → Bool) : Bool :=
  m.processes.any fun p => p.files.any fun (_, id) =>
    (m.opening? id).any fun o => o.channel == .pipe number && uses o

/-- Forgets the openings that no process has any more. -/
def tidy (m : Machine) : Machine :=
  let used := m.processes.flatMap fun p => p.files.map (·.2)
  { m with openings := m.openings.filter fun (id, _) => used.contains id }

end Machine

/-- A process at work, with everything around it. Among the processes of the
machine, its own entry is not kept up to date. -/
structure Turn where
  self : Process
  machine : Machine

abbrev Act := StateM Turn

namespace Act

def self : Act Process := do return (← get).self

def machine : Act Machine := do return (← get).machine

/-- The machine with the process at work as it is now. -/
def machineNow : Act Machine := do
  let t ← get
  pure (t.machine.setProcess t.self)

def changeSelf (f : Process → Process) : Act Unit := modify fun t => { t with self := f t.self }

def changeMachine (f : Machine → Machine) : Act Unit :=
  modify fun t => { t with machine := f t.machine }

def session : Act Session := do return (← get).self.session

def changeSession (f : Session → Session) : Act Unit :=
  changeSelf fun p => { p with session := f p.session }

def disk : Act Disk := do return (← get).machine.disk

def setDisk (d : Disk) : Act Unit := changeMachine fun m => { m with disk := d }

def setStatus (n : Nat) : Act Unit := changeSession fun s => { s with status := n }

def push (f : Frame) : Act Unit := changeSelf fun p => { p with stack := f :: p.stack }

/-- Removes the frame on top. -/
def pop : Act Unit := changeSelf fun p => { p with stack := p.stack.tail }

/-- Puts another frame in the place of the one on top. -/
def replaceTop (f : Frame) : Act Unit := changeSelf fun p => { p with stack := f :: p.stack.tail }

/-! ## Descriptors -/

def opening? (descriptor : Nat) : Act (Option (Nat × Opening)) := do
  let t ← get
  pure do
    let id ← t.self.files.lookup descriptor
    let o ← t.machine.opening? id
    pure (id, o)

def newOpening (o : Opening) : Act Nat := do
  let m ← machine
  let id := m.nextOpening
  changeMachine fun m => { m with openings := (id, o) :: m.openings, nextOpening := id + 1 }
  pure id

/-- Lets a descriptor lead to an opening, or to none. -/
def setDescriptor (descriptor : Nat) (id : Option Nat) : Act Unit :=
  changeSelf fun p =>
    let others := p.files.filter (·.1 != descriptor)
    { p with files := match id with
        | some id => (descriptor, id) :: others
        | none => others }

def close (descriptor : Nat) : Act Unit := setDescriptor descriptor none

/-- A descriptor of the shell's own that is free. -/
def freeDescriptor : Act Nat := do
  let p ← self
  pure (p.files.foldl (fun n (d, _) => max n (d + 1)) ownDescriptor)

def newPipe : Act (Nat × Nat) := do
  let m ← machine
  let n := m.nextPipe
  changeMachine fun m => { m with pipes := (n, {}) :: m.pipes, nextPipe := n + 1 }
  let out ← newOpening { channel := .pipe n, reads := true }
  let inn ← newOpening { channel := .pipe n, writes := true }
  pure (out, inn)

/-! ## Reading and writing -/

inductive Received where
  | text (s : String)
  | ended
  | blocked
  | fault (e : IoFault)

/-- The text of a file from a position on. -/
def textFrom (s : String) (position : Nat) : String :=
  if position == 0 then s else String.ofList (s.toList.drop position)

/-- Reads what a descriptor has to give, at most `limit` octets. -/
def receive (descriptor : Nat) (limit : Nat := pipeLimit) : Act Received := do
  match ← opening? descriptor with
  | none => pure (.fault .badDescriptor)
  | some (id, o) =>
    if !o.reads then pure (.fault .badDescriptor)
    else
      match o.channel with
      | .file n => do
        let content := (((← disk).file? n).map (·.content.octets)).getD ""
        let text := textFrom content o.position
        let text := if limit < text.length then String.ofList (text.toList.take limit) else text
        if text.isEmpty then pure .ended
        else
          changeMachine fun m => m.setOpening id { o with position := o.position + text.length }
          pure (.text text)
      | .device .null => pure .ended
      | .device _ => pure (.text (String.ofList (List.replicate (min limit 4096) '\x00')))
      | .folder _ => pure (.fault .isADirectory)
      | .unseen => pure .ended
      | .pipe n => do
        let m ← machineNow
        let p := m.pipe n
        match p.chunks with
        | [] => pure (if m.pipeIsUsed n (·.writes) then .blocked else .ended)
        | chunk :: rest =>
          let now := if limit < chunk.length then String.ofList (chunk.toList.take limit) else chunk
          let later := if limit < chunk.length then
              String.ofList (chunk.toList.drop limit) :: rest
            else rest
          changeMachine fun m => m.setPipe n ⟨later, p.size - now.length⟩
          pure (.text now)

inductive Sent where
  | done
  | blocked
  | fault (e : IoFault)
  /-- Nobody is left who could read it. -/
  | broken

/-- The text with `s` written over what stands from `position` on. -/
def overwritten (old : String) (position : Nat) (s : String) : String :=
  if position == old.length then old ++ s
  else
    let old := old.toList
    let front := old.take position ++ List.replicate (position - old.length) '\x00'
    String.ofList (front ++ s.toList ++ old.drop (position + s.length))

def transmit (descriptor : Nat) (s : String) : Act Sent := do
  match ← opening? descriptor with
  | none => pure (.fault .badDescriptor)
  | some (id, o) =>
    if !o.writes then pure (.fault .badDescriptor)
    else
      match o.channel with
      | .file n => do
        let d ← disk
        let f := (d.file? n).getD ⟨.text "", 0o644⟩
        let old := f.content.octets
        let position := if o.appends then old.length else o.position
        setDisk (d.setFile n { f with content := .ofOctets (overwritten old position s) })
        changeMachine fun m => m.setOpening id { o with position := position + s.length }
        pure .done
      | .device .full => pure (.fault .noSpace)
      | .device _ | .unseen => pure .done
      | .folder _ => pure (.fault .badDescriptor)
      | .pipe n => do
        let m ← machineNow
        if !m.pipeIsUsed n (·.reads) then pure .broken
        else
          let p := m.pipe n
          if pipeLimit ≤ p.size then pure .blocked
          else
            changeMachine fun m => m.setPipe n ⟨p.chunks ++ [s], p.size + s.length⟩
            pure .done

/-- Writes to a descriptor, whether or not that works. -/
def tell (descriptor : Nat) (s : String) : Act Unit := do
  let _ ← transmit descriptor s

/-! ## Ending and forking -/

/-- Ends the process at work. -/
def finish (e : Ending) : Act Unit :=
  changeSelf fun p => { p with files := [], stack := [], ending := some e }

/-- Starts a process that begins as this one is, with another stack. The
traps of the shell are not its own. -/
def fork (stack : List Frame) (change : Process → Process := id) : Act Nat := do
  let t ← get
  let m := t.machine
  let p := t.self
  let child : Process := change { p with
    number := m.nextProcess
    parent := p.number
    session := { p.session with
      traps := p.session.traps.filter (·.2 == ""), context := p.context }
    stack := stack
    isChild := true
    caught := [] }
  set { t with machine := { m with
    processes := m.processes ++ [child], nextProcess := m.nextProcess + 1 } }
  pure child.number

end Act

end ProxySync.Shell
