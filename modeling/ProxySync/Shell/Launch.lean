import ProxySync.Shell.Redirect
import ProxySync.Tool.Program

/-!
# Launching programs

A program is found along the search path or by its own path. What its file
holds decides what runs: a tool of the system, an interpreter that the file
names, or the shell.
-/

namespace ProxySync.Shell

open Files

/-! ## What keeps programs from running -/

/-- The status of a program that cannot be run. -/
def launchStatus : IoFault → Nat
  | .notFound | .notADirectory | .tooManyLinks | .nameTooLong => 127
  | _ => 126

def launchReason : IoFault → String
  | .notFound | .notADirectory => "not found"
  | e => e.reason

/-! ## Starting shells -/

/-- What the words behind a shell's name ask for. -/
structure ShellCall where
  options : List Char := []
  ofText : Bool := false
  rest : List String := []
  fault : Option String := none

/-- The options with longer names. -/
def optionNames : List (String × Char) :=
  [("errexit", 'e'), ("noglob", 'f'), ("ignoreeof", 'I'), ("interactive", 'i'), ("monitor", 'm'),
    ("noexec", 'n'), ("stdin", 's'), ("xtrace", 'x'), ("verbose", 'v'), ("vi", 'V'),
    ("emacs", 'E'), ("noclobber", 'C'), ("allexport", 'a'), ("notify", 'b'), ("nounset", 'u'),
    ("privileged", 'p')]

/-- Reads the options of a shell. -/
def ShellCall.read : (steps : Nat) → ShellCall → List String → ShellCall
  | 0, c, words => { c with rest := words }
  | steps + 1, c, words =>
    match words with
    | [] => c
    | w :: rest =>
      match w.toList with
      | ['-'] | ['-', '-'] => { c with rest := rest }
      | sign :: letters =>
        if (sign != '-' && sign != '+') || letters.isEmpty then { c with rest := words }
        else
          let on := sign == '-'
          let step (state : ShellCall × List String) (l : Char) : ShellCall × List String :=
            let (c, rest) := state
            let set (o : Char) : ShellCall :=
              { c with options := if on then o :: c.options else c.options.filter (· != o) }
            if c.fault.isSome then state
            else if l == 'c' then ({ c with ofText := true }, rest)
            else if l == 'o' then
              match rest with
              | [] => (c, rest)
              | name :: rest =>
                match optionNames.lookup name with
                | some o => (set o, rest)
                | none => ({ c with fault := some ("Illegal option -o " ++ name) }, rest)
            else if l == 'l' then (c, rest)
            else if optionLetters.contains l then (set l, rest)
            else ({ c with fault := some ("Illegal option " ++ sign.toString ++ l.toString) }, rest)
          let (c, rest) := letters.foldl step (c, rest)
          ShellCall.read steps c rest
      | [] => { c with rest := words }
where
  optionLetters : List Char := "efIimnsxvVECabup".toList

/-- How much of a file of commands is read. -/
def scriptLimit : Nat := 16777216

namespace Act

/-- Says something before any line has been read. -/
def complainAtStart (name text : String) : Act Unit := tell 2 (name ++ ": 0: " ++ text ++ "\n")

/-- A shell in the place of the process at work, with nothing to do yet. -/
def startSession (name : String) (arguments : List String)
    (environment : List (String × String)) (options : List Char) : Act Unit :=
  changeSelf fun p =>
    let s := Session.start name arguments environment
    let s := (s.put "PPID" { value := some (toString p.parent) }).assignExported "PWD" p.folder
    { p with stack := [], session := { s with root := p.number, options := options } }

/-- Begins a shell as it is called. -/
def startShell (arguments : List String) (environment : List (String × String)) : Act Unit := do
  let name := arguments.headD "sh"
  let c := ShellCall.read arguments.length {} arguments.tail
  let stop (text : String) : Act Unit := do
    complainAtStart name text
    finish (.exited 2)
  match c.fault, c.ofText, c.rest with
  | some text, _, _ => stop text
  | none, true, [] => stop "-c requires an argument"
  | none, true, text :: rest => do
    startSession (rest.headD name) (rest.drop 1) environment c.options
    push (.source (← sourceOf text) .main false)
  | none, false, rest =>
    match if c.options.contains 's' then none else rest.head? with
    | none => do
      startSession name rest environment ('s' :: c.options.filter (· != 's'))
      push (.gather [])
    | some path => do
      match ← openFile .read path with
      | .error e => stop (openingFault false path e)
      | .ok id => do
        startSession path rest.tail environment c.options
        let kept ← freeDescriptor
        setDescriptor kept (some id)
        let r ← receive kept scriptLimit
        close kept
        match r with
        | .text text => push (.source (← sourceOf text) .main false)
        | _ => pure ()

/-! ## Becoming a program -/

/-- Closes what programs do not see, and forgets the shell. -/
def leaveShell : Act Unit :=
  changeSelf fun p => { p with
    files := p.files.filter (·.1 < ownDescriptor)
    ignored := p.ignored ++ (p.session.traps.filter (·.2 == "")).map (·.1)
    caught := []
    session := { p.session with traps := [], functions := [], loops := 0 }
    stack := [] }

/-- Runs the program at a path in the place of the process at work. -/
def becomeProgram (name path : String) (arguments : List String)
    (environment : List (String × String)) (depth : Nat) : Act Unit := do
  let p ← self
  let d ← disk
  let failWith (e : IoFault) : Act Unit := do
    complain (name ++ ": " ++ launchReason e)
    exitShell (launchStatus e)
  match Tool.executable d p.place path, depth with
  | .error e, _ => failWith e
  | .ok (.tool tool), _ => do
    leaveShell
    if Tool.shellNames.contains tool then startShell arguments environment
    else push (.program ⟨tool, arguments, environment, "", false⟩)
  | .ok (.interpreted _ _), 0 => failWith .tooManyLinks
  | .ok (.interpreted interpreter argument), depth + 1 =>
    push (.become name interpreter ([interpreter] ++ argument.toList ++ path :: arguments.tail)
      environment depth)
  | .ok .commands, _ => do
    leaveShell
    startShell ("/bin/sh" :: path :: arguments.tail) environment

/-- How many interpreters a file may go through. -/
def interpreterLimit : Nat := 5

/-- Runs a program by its name in the place of the process at work. -/
def execute (searchPath name : String) (arguments : List String)
    (environment : List (String × String)) (shown : String := name) : Act Unit := do
  let p ← self
  let d ← disk
  match Tool.programPath d p.place searchPath name with
  | .ok path => push (.become shown path (name :: arguments) environment interpreterLimit)
  | .error e =>
    complain (shown ++ ": " ++ launchReason e)
    exitShell (launchStatus e)

end Act

end ProxySync.Shell
