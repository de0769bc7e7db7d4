import ProxySync.Files.Mode
import ProxySync.Shell.Launch
import ProxySync.Tool.Condition
import ProxySync.Tool.Format

/-!
# Commands of the shell itself

Some commands are part of the language: when they fail, the shell ends, and
what is assigned in front of them stays. All others only have a status.
-/

namespace ProxySync.Shell

open Files

def regularBuiltins : List String :=
  ["alias", "bg", "cd", "chdir", "command", "echo", "false", "fg", "getopts", "hash", "jobs",
    "kill", "printf", "pwd", "read", "test", "[", "true", "type", "ulimit", "umask", "unalias",
    "wait"]

/-- The commands whose words may be assignments. -/
def assigningBuiltins : List String := ["export", "readonly", "local"]

/-- A text between single quotes, quotes inside it between double ones. -/
def singleQuoted (s : String) : String :=
  let rec go : List Char → List Char
    | [] => ['\'']
    | '\'' :: rest =>
      match rest with
      | '\'' :: _ => '\'' :: '"' :: '\'' :: inner rest
      | [] => ['\'', '"', '\'', '"']
      | _ => '\'' :: '"' :: '\'' :: '"' :: '\'' :: go rest
    | c :: rest => c :: go rest
  "'" ++ String.ofList (go s.toList)
where
  inner : List Char → List Char
    | [] => ['"']
    | '\'' :: rest => '\'' :: inner rest
    | s => '"' :: '\'' :: s ++ ['\'']

/-- The options in front of words, and the words behind them. -/
def leadingOptions (letters : String) : List String → Except String (List (Char × String) × List String)
  | [] => .ok ([], [])
  | w :: rest =>
    let o : Tool.Options := ⟨letters, [], false⟩
    match w.toList with
    | ['-'] => .ok ([], w :: rest)
    | ['-', '-'] => .ok ([], rest)
    | '-' :: cs => do
      let found ← readAll o cs rest
      let (more, words) ← leadingOptions letters (rest.drop found.2)
      pure (found.1 ++ more, words)
    | _ => .ok ([], w :: rest)
termination_by words => words.length
decreasing_by simp only [List.length_drop, List.length_cons]; omega
where
  /-- The options of one word, and how many more words they take. -/
  readAll (o : Tool.Options) : List Char → List String → Except String (List (Char × String) × Nat)
    | [], _ => .ok ([], 0)
    | c :: cs, rest =>
      match o.taking? c with
      | none => .error ("Illegal option -" ++ c.toString)
      | some .nothing => do
        let (more, n) ← readAll o cs rest
        pure ((c, "") :: more, n)
      | some _ =>
        match cs, rest with
        | [], [] => .error ("No arg for -" ++ c.toString ++ " option")
        | [], a :: _ => .ok ([(c, a)], 1)
        | cs, _ => .ok ([(c, String.ofList cs)], 0)

/-- A command of the shell that is being run. -/
structure Builtin where
  name : String
  arguments : List String
  /-- The shell ends when the command fails. -/
  special : Bool
  tested : Bool

namespace Act

/-- Says something after the name of the command. -/
def complainOf (b : Builtin) (text : String) : Act Unit := complainPlainly (b.name ++ ": " ++ text)

/-- The command fails over its words. -/
def failOf (b : Builtin) (text : String) : Act Unit := do
  complainOf b text
  if b.special then exitShell 2 else setStatus 2

/-- Writes an output and ends with a status. -/
def answer (b : Builtin) (text : String) (status : Nat := 0) : Act Unit := do
  setStatus status
  if !text.isEmpty then push (.emit [(1, text)] (.builtin b.name))

/-- The number that a word is, or the command fails. -/
def withNumber (b : Builtin) (word : String) (act : Nat → Act Unit) : Act Unit :=
  match decimal? word with
  | some n =>
    if n < 0 || 2147483647 < n then failOf b ("Illegal number: " ++ word) else act n.toNat
  | none => failOf b ("Illegal number: " ++ word)

/-- The options and the words behind them, or the command fails. -/
def withOptions (b : Builtin) (letters : String)
    (act : List (Char × String) → List String → Act Unit) : Act Unit :=
  match leadingOptions letters b.arguments with
  | .ok (options, words) => act options words
  | .error text => failOf b text

/-! ## Variables -/

/-- The name in front of an equal sign, and what stands behind it. -/
def splitName (word : String) : String × Option String :=
  let name := word.toList.takeWhile (· != '=')
  match word.toList.drop name.length with
  | _ :: value => (String.ofList name, some (String.ofList value))
  | [] => (word, none)

/-- Gives a variable a value; what is wrong with that otherwise. -/
def assignChecked (name value : String) : Act (Option String) := do
  let s ← session
  if !isName name then pure (some (name ++ ": bad variable name"))
  else if s.isFixed name then pure (some (name ++ ": is read only"))
  else
    changeSession fun s => s.assign name value
    pure none

/-- Lines that would set the variables again. -/
def variableLines (s : Session) (lead : String) (isShown : Variable → Bool)
    (withoutValue : Bool) : String :=
  let shown := s.bindings.filter fun (_, v) => isShown v && (v.value.isSome || withoutValue)
  let sorted := shown.mergeSort fun a b => a.1 ≤ b.1
  String.join (sorted.map fun (name, v) =>
    let value := match v.value with
      | some value => "=" ++ singleQuoted value
      | none => ""
    lead ++ name ++ value ++ "\n")

def mark (b : Builtin) (change : Variable → Variable) : List String → Act Unit
  | [] => setStatus 0
  | w :: rest => do
    let (name, value?) := splitName w
    let s ← session
    let fault? ← match value? with
      | some value => assignChecked name value
      | none => pure (if isName name then none else some (name ++ ": bad variable name"))
    match fault? with
    | some fault => failOf b fault
    | none => do
      let v := ((← session).slot? name).getD ⟨none, false, false⟩
      let _ := s
      changeSession fun s => s.put name (change v)
      mark b change rest

def runExport (b : Builtin) : Act Unit :=
  withOptions b "p" fun options words => do
    if options.isEmpty && !words.isEmpty then mark b (fun v => { v with exported := true }) words
    else answer b (variableLines (← session) "export " (·.exported) true)

def runReadonly (b : Builtin) : Act Unit :=
  withOptions b "p" fun options words => do
    if options.isEmpty && !words.isEmpty then mark b (fun v => { v with fixed := true }) words
    else answer b (variableLines (← session) "readonly " (·.fixed) true)

/-- Keeps a variable so that it is put back when the function is left. -/
def keepVariable (name : String) : Act Unit := do
  let s ← session
  changeSelf fun p =>
    let before := p.stack.takeWhile (!Frame.isCall ·)
    match p.stack.drop before.length with
    | .leave arguments saved :: rest =>
      if (saved.lookup name).isSome then p
      else { p with stack := before ++ .leave arguments ((name, s.slot? name) :: saved) :: rest }
    | _ => p

def runLocal (b : Builtin) : Act Unit := do
  if !(← self).stack.any Frame.isCall then failOf b "not in a function"
  else go b.arguments
where
  go : List String → Act Unit
    | [] => setStatus 0
    | w :: rest => do
      let (name, value?) := splitName w
      if !isName name && name != "-" then failOf b (name ++ ": bad variable name")
      else if name == "-" then go rest
      else
        keepVariable name
        match value? with
        | none => go rest
        | some value =>
          match ← assignChecked name value with
          | some fault => failOf b fault
          | none => go rest

def runUnset (b : Builtin) : Act Unit :=
  withOptions b "vf" fun options words => go (options.getLast?.map (·.1) == some 'f') words
where
  go (functions : Bool) : List String → Act Unit
    | [] => setStatus 0
    | w :: rest => do
      let s ← session
      if functions then
        changeSession fun s => { s with functions := s.functions.filter (·.1 != w) }
        go functions rest
      else if !isName w then failOf b (w ++ ": bad variable name")
      else if s.isFixed w then failOf b (w ++ ": is read only")
      else
        changeSession fun s => s.unset w
        go functions rest

/-! ## Options and arguments -/

/-- Sets options; the arguments that follow them, if there are any. -/
def setOptions (b : Builtin) : (steps : Nat) → List String → Act Unit
  | 0, _ => pure ()
  | steps + 1, words => do
    setStatus 0
    let setArguments (words : List String) : Act Unit :=
      changeSession fun s => { s with arguments := words }
    match words with
    | [] => pure ()
    | "--" :: rest => setArguments rest
    | "-" :: rest => do
      changeSession fun s => (s.setOption 'x' false).setOption 'v' false
      if !rest.isEmpty then setArguments rest
    | w :: rest =>
      match w.toList with
      | sign :: letters =>
        if sign != '-' && sign != '+' then setArguments words
        else
          let on := sign == '-'
          match letters with
          | ['o'] =>
            match rest with
            | [] => do
              let s ← session
              let names := ["errexit", "noglob", "ignoreeof", "interactive", "monitor", "noexec",
                "stdin", "xtrace", "verbose", "vi", "emacs", "noclobber", "allexport", "notify",
                "nounset", "privileged", "nolog", "debug"]
              let isOn (name : String) : Bool := ((optionNames.lookup name).map s.hasOption).getD false
              let lines := names.map fun name =>
                if on then name ++ "".pushn ' ' (16 - name.length) ++
                  (if isOn name then "on" else "off") ++ "\n"
                else "set " ++ (if isOn name then "-o " else "+o ") ++ name ++ "\n"
              answer b ((if on then "Current option settings\n" else "") ++ String.join lines)
            | name :: rest =>
              match optionNames.lookup name with
              | some o => do
                changeSession fun s => s.setOption o on
                setOptions b steps rest
              | none =>
                if name == "nolog" || name == "debug" then setOptions b steps rest
                else failOf b ("Illegal option -o " ++ name)
          | letters =>
            match letters.find? fun l => !Session.optionLetters.contains l with
            | some l => failOf b ("Illegal option " ++ sign.toString ++ l.toString)
            | none => do
              changeSession fun s => letters.foldl (fun s l => s.setOption l on) s
              setOptions b steps rest
      | [] => setArguments words

def runSet (b : Builtin) : Act Unit := do
  if b.arguments.isEmpty then answer b (variableLines (← session) "" (fun _ => true) false)
  else setOptions b (b.arguments.length + 1) b.arguments

def runShift (b : Builtin) : Act Unit := do
  let shift (n : Nat) : Act Unit := do
    let s ← session
    if s.arguments.length < n then failOf b "can't shift that many"
    else
      changeSession fun s => { s with arguments := s.arguments.drop n }
      setStatus 0
  match b.arguments with
  | [] => shift 1
  | w :: _ => withNumber b w shift

/-- Reads the next option of the arguments into a variable. -/
def runGetopts (b : Builtin) : Act Unit := do
  match b.arguments with
  | letters :: name :: given => do
    let s ← session
    let words := if given.isEmpty then s.arguments else given
    let index := max 1 (((s.value? "OPTIND").bind wholeNumber?).getD 1).toNat
    let quiet := letters.startsWith ":"
    let o : Tool.Options := ⟨letters, [], false⟩
    let put (value : String) (argument : Option String) (index place status : Nat) : Act Unit := do
      let fault? ← assignChecked name value
      changeSession fun s =>
        let s := match argument with
          | some a => s.assign "OPTARG" a
          | none => s
        { s.assign "OPTIND" (toString index) with optionPlace := place }
      match fault? with
      | some fault => failOf b fault
      | none => setStatus status
    let word := (words[index - 1]?).getD ""
    let letterList := word.toList
    let isOption := letterList.head? == some '-' && 1 < letterList.length
    if s.optionPlace == 0 && (!isOption || words.length < index) then put "?" none index 0 1
    else if s.optionPlace == 0 && word == "--" then put "?" none (index + 1) 0 1
    else
      let place := if s.optionPlace == 0 then 1 else s.optionPlace
      match letterList.drop place with
      | [] => put "?" none (index + 1) 0 1
      | c :: rest =>
        let after := if rest.isEmpty then (index + 1, 0) else (index, place + 1)
        match o.taking? c with
        | none =>
          if quiet then put "?" (some c.toString) after.1 after.2 0
          else
            tell 2 ("Illegal option -" ++ c.toString ++ "\n")
            changeSession fun s => s.unset "OPTARG"
            put "?" none after.1 after.2 0
        | some .nothing => put c.toString (some "") after.1 after.2 0
        | some _ =>
          if !rest.isEmpty then put c.toString (some (String.ofList rest)) (index + 1) 0 0
          else
            match words[index]? with
            | some a => put c.toString (some a) (index + 2) 0 0
            | none =>
              if quiet then put ":" (some c.toString) (index + 1) 0 0
              else
                tell 2 ("No arg for -" ++ c.toString ++ " option\n")
                changeSession fun s => s.unset "OPTARG"
                put "?" none (index + 1) 0 0
  | _ => failOf b "Usage: getopts optstring var [arg...]"

/-! ## Folders -/

/-- A path without steps that lead nowhere. -/
def plainPath (base path : String) : String :=
  let parts := steps (if isAbsolute path then path else base ++ "/" ++ path)
  let parts := parts.foldl (fun done s =>
    if s == "." then done else if s == ".." then done.dropLast else done ++ [s]) []
  joined true parts

/-- Goes to a folder, if it is one. -/
def goTo (path : String) (physical : Bool) : Act Bool := do
  let p ← self
  let d ← disk
  let full := if physical then path else plainPath p.folder path
  match d.lookup (Text.ofOctets full) true p.place with
  | .ok (place, .folder _) => do
    let folder := if physical then joined true (place.map Text.toOctets) else full
    changeSelf fun p => { p with place := place, folder := folder }
    changeSession fun s => (s.assignExported "OLDPWD" p.folder).assignExported "PWD" folder
    pure true
  | _ => pure false

def runCd (b : Builtin) : Act Unit :=
  withOptions b "LP" fun options words => do
    let physical := options.getLast?.map (·.1) == some 'P'
    let s ← session
    let (target, shows) := match words with
      | [] => ((s.value? "HOME").getD "", false)
      | "-" :: _ => ((s.value? "OLDPWD").getD "", true)
      | w :: _ => (w, false)
    let target := if target.isEmpty then "." else target
    let lead := target.startsWith "/" || target.startsWith "./" || target.startsWith "../" ||
      target == "." || target == ".."
    let folders := if lead then [""]
      else (((s.value? "CDPATH").getD "").toList.splitOn ':').map String.ofList
    let rec try_ : List String → Act Unit
      | [] => failOf b ("can't cd to " ++ target)
      | folder :: rest => do
        let path := if folder.isEmpty then target else child folder target
        if ← goTo path physical then
          let p ← self
          answer b (if shows || !folder.isEmpty then p.folder ++ "\n" else "")
        else try_ rest
    try_ (folders ++ [""])

def runPwd (b : Builtin) : Act Unit :=
  withOptions b "LP" fun options _ => do
    let p ← self
    let physical := options.getLast?.map (·.1) == some 'P'
    answer b ((if physical then joined true (p.place.map Text.toOctets) else p.folder) ++ "\n")

/-! ## Signals and jobs -/

def runTrap (b : Builtin) : Act Unit :=
  withOptions b "" fun _ words => do
    match words with
    | [] => do
      let s ← session
      let sorted := s.traps.mergeSort fun a b => a.1 ≤ b.1
      let lines := sorted.map fun (n, action) =>
        "trap -- " ++ singleQuoted action ++ " " ++ (if n == 0 then "EXIT" else signalName n) ++ "\n"
      answer b (String.join lines)
    | first :: rest => do
      let isNumber := !first.isEmpty && first.toList.all Char.isDigit
      let (action, names) := if rest.isEmpty || isNumber then ("-", words) else (first, rest)
      let rec go : List String → Act Unit
        | [] => setStatus 0
        | name :: rest => do
          let number? := if name.map Char.toUpper == "EXIT" then some 0 else signalNumber? name
          match number? with
          | none => do
            tell 2 ("trap: " ++ name ++ ": bad trap\n")
            setStatus 1
          | some n => do
            changeSelf fun p =>
              let others := p.session.traps.filter (·.1 != n)
              let s := { p.session with traps := if action == "-" then others else (n, action) :: others }
              { p with session := s }
            go rest
      go names

/-- Sends a signal to a process. -/
def send (number signal : Nat) : Act Bool := do
  let p ← self
  if p.number == number then
    changeSelf fun p => p.signalled signal
    pure true
  else
    let m ← machine
    match m.process? number with
    | some q =>
      if q.waited then pure false
      else
        changeMachine fun m => m.setProcess (q.signalled signal)
        pure true
    | none => pure false

def killUsage : String :=
  "Usage: kill [-s sigspec | -signum | -sigspec] [pid | job]... or\nkill -l [exitstatus]"

def runKill (b : Builtin) : Act Unit := do
  let nameOf (n : Nat) : String := if n == 0 then "EXIT" else signalName n
  let sendAll (signal : Nat) (targets : List String) : Act Unit := do
    let rec go (status : Nat) : List String → Act Unit
      | [] => setStatus status
      | t :: rest => do
        let m ← machine
        let me := (← self).number
        let target := if t.startsWith "-" then String.ofList (t.toList.drop 1) else t
        if t.startsWith "%" then
          let own := m.processes.filter fun q => q.parent == me && !q.waited
          match own.getLast? with
          | some q => do
            let _ ← send q.number signal
            go status rest
          | none => failOf b ("No such job: " ++ t)
        else
          match decimal? target with
          | none => failOf b ("Illegal number: " ++ t)
          | some n =>
            if n < 0 then failOf b ("Illegal number: " ++ t)
            else if n == 0 && !t.startsWith "-" then do
              for q in m.processes do
                let _ ← send q.number signal
              go status rest
            else if t.startsWith "-" || !(← send n.toNat signal) then
              complainOf b "No such process\n"
              go 1 rest
            else go status rest
    match targets with
    | [] => failOf b killUsage
    | targets => go 0 targets
  let list : List String → Act Unit
    | [] => answer b (String.join (("0" :: signalNames).map (· ++ "\n")))
    | w :: _ => withNumber b w fun n =>
        let n := if 128 < n then n - 128 else n
        if 0 < n && n < signalCount then answer b (nameOf n ++ "\n")
        else failOf b ("invalid signal number or exit status: " ++ w)
  match b.arguments with
  | [] => failOf b killUsage
  | w :: rest =>
    if w.startsWith "-" then
      match signalNumber? (String.ofList (w.toList.drop 1)) with
      | some n => sendAll n rest
      | none => withOptions b "ls:" fun options words => do
          let signal? := (options.reverse.find? (·.1 == 's')).map (·.2)
          match signal?.map fun name => (name, signalNumber? name) with
          | some (name, none) => failOf b ("invalid signal number or name: " ++ name)
          | some (_, some n) =>
            if options.any (·.1 == 'l') then failOf b killUsage else sendAll n words
          | none =>
            if options.any (·.1 == 'l') then list words else sendAll Signal.terminate words
    else sendAll Signal.terminate (w :: rest)

def runWait (b : Builtin) : Act Unit := do
  if b.arguments.isEmpty then push (.awaitJobs none)
  else
    let rec numbers (done : List Nat) : List String → Act Unit
      | [] => push (.awaitJobs (some done.reverse))
      | w :: rest =>
        if w.startsWith "%" then do
          let m ← machine
          let me := (← self).number
          match (m.processes.filter fun q => q.parent == me && !q.waited).getLast? with
          | some q => numbers (q.number :: done) rest
          | none => failOf b ("No such job: " ++ w)
        else withNumber b w fun n => numbers (n :: done) rest
    numbers [] b.arguments

/-! ## Names of commands -/

inductive CommandKind where
  | keyword
  | alias_ (text : String)
  | special
  | function
  | builtin
  | program (path : String)
  | unknown
deriving DecidableEq

def kindOf (name : String) : Act CommandKind := do
  let p ← self
  let s := p.session
  let d ← disk
  if reservedWords.contains name then return .keyword
  match s.aliases.lookup name with
  | some text => return .alias_ text
  | none => pure ()
  if specialBuiltins.contains name then return .special
  if (s.functions.lookup name).isSome then return .function
  if regularBuiltins.contains name then return .builtin
  if name.toList.contains '/' then
    return if (Tool.executable d p.place name).isOk then .program name else .unknown
  match Tool.findProgram? d p.place ((s.value? "PATH").getD "") name with
  | some path => return .program path
  | none => return .unknown

/-- How `command -V` and `type` tell what a name is. -/
def describedKind (name : String) : CommandKind → String × Nat
  | .keyword => (name ++ " is a shell keyword\n", 0)
  | .alias_ text => (name ++ " is an alias for " ++ text ++ "\n", 0)
  | .special => (name ++ " is a special shell builtin\n", 0)
  | .function => (name ++ " is a shell function\n", 0)
  | .builtin => (name ++ " is a shell builtin\n", 0)
  | .program path => (name ++ " is " ++ path ++ "\n", 0)
  | .unknown => (name ++ ": not found\n", 127)

def runType (b : Builtin) : Act Unit := do
  let kinds ← b.arguments.mapM fun name => return describedKind name (← kindOf name)
  answer b (String.join (kinds.map (·.1))) (kinds.foldl (fun n (_, m) => max n m) 0)

/-- Tells what a name stands for, in a word or in a sentence. -/
def tellCommand (b : Builtin) (name : String) (sentence : Bool) : Act Unit := do
  let kind ← kindOf name
  if sentence then
    let (text, status) := describedKind name kind
    answer b text status
  else
    match kind with
    | .unknown => setStatus 127
    | .program path => answer b (path ++ "\n")
    | .alias_ text => answer b ("alias " ++ name ++ "=" ++ singleQuoted text ++ "\n")
    | _ => answer b (name ++ "\n")

def runAlias (b : Builtin) : Act Unit := do
  let s ← session
  let line (name text : String) : String := name ++ "=" ++ singleQuoted text ++ "\n"
  if b.arguments.isEmpty then answer b (String.join (s.aliases.map fun (n, t) => line n t))
  else
    let rec go (status : Nat) (lines : List String) : List String → Act Unit
      | [] => answer b (String.join lines.reverse) status
      | w :: rest => do
        match splitName w with
        | (name, some text) =>
          if name.isEmpty then go status lines rest
          else
            changeSession fun s =>
              { s with aliases := (name, text) :: s.aliases.filter (·.1 != name) }
            go status lines rest
        | (name, none) =>
          match (← session).aliases.lookup name with
          | some text => go status (line name text :: lines) rest
          | none =>
            tell 2 ("alias: " ++ name ++ " not found\n")
            go 1 lines rest
    go 0 [] b.arguments

def runUnalias (b : Builtin) : Act Unit :=
  withOptions b "a" fun options words => do
    let s ← session
    if !options.isEmpty then
      changeSession fun s => { s with aliases := [] }
      setStatus 0
    else
      let missing := words.filter fun w => (s.aliases.lookup w).isNone
      for w in missing do
        tell 2 ("unalias: " ++ w ++ " not found\n")
      changeSession fun s => { s with aliases := s.aliases.filter fun (n, _) => !words.contains n }
      setStatus (if missing.isEmpty then 0 else 1)

def runHash (b : Builtin) : Act Unit :=
  withOptions b "r" fun _ words => do
    setStatus 0
    for w in words do
      let kind ← kindOf w
      if kind == .unknown then
        complainOf b (w ++ ": not found")
        setStatus 1

/-! ## Masks and limits -/

def runUmask (b : Builtin) : Act Unit :=
  withOptions b "S" fun options words => do
    let mask := (← self).mask
    match words with
    | [] =>
      if options.isEmpty then
        let digits := String.ofList (Nat.toDigits 8 mask)
        answer b ("".pushn '0' (4 - digits.length) ++ digits ++ "\n")
      else
        let part (shift : Nat) : String :=
          let bits := 7 - Nat.land (Nat.shiftRight mask shift) 7
          (if 4 ≤ bits then "r" else "") ++ (if 2 ≤ bits % 4 then "w" else "") ++
            (if bits % 2 == 1 then "x" else "")
        answer b ("u=" ++ part 6 ++ ",g=" ++ part 3 ++ ",o=" ++ part 0 ++ "\n")
    | w :: _ =>
      if w.toList.all Tool.isOctalDigit && !w.isEmpty then
        changeSelf fun p => { p with mask := (spanDigits 8 w.toList).2.1 % 512 }
        setStatus 0
      else if w.toList.head?.any Char.isDigit then failOf b ("Illegal number: " ++ w)
      else
        match Files.modeFrom? w 0 false (Nat.xor 0o777 mask) with
        | some mode => do
          changeSelf fun p => { p with mask := Nat.xor 0o777 (Nat.land mode 0o777) }
          setStatus 0
        | none => failOf b ("Illegal mode: " ++ w)

def runUlimit (b : Builtin) : Act Unit :=
  withOptions b "HSatfdsmcnlpvwr" fun options words => do
    if !words.isEmpty then setStatus 0
    else if options.any (·.1 == 'n') then answer b "1024\n"
    else if options.any (·.1 == 'c') then answer b "0\n"
    else if options.any (·.1 == 's') then answer b "8192\n"
    else answer b "unlimited\n"

/-! ## Texts and conditions -/

def runTest (b : Builtin) : Act Unit := do
  let p ← self
  let scene : Tool.Scene := ⟨← disk, p.place⟩
  let words := if b.name == "[" then b.arguments.dropLast else b.arguments
  if b.name == "[" && b.arguments.getLast? != some "]" then failOf b "missing ]"
  else
    match Tool.conditionHolds scene words with
    | .ok holds => setStatus (if holds then 0 else 1)
    | .error text => failOf b text

def runPrintf (b : Builtin) : Act Unit :=
  withOptions b "" fun _ words => do
    match words with
    | [] => failOf b "usage: printf format [arg ...]"
    | format :: arguments =>
      let (text, complaints, fault?) := Tool.formatted format arguments
      for c in complaints do
        complainOf b c
      match fault? with
      | some fault => do
        failOf b fault
        if !text.isEmpty then push (.emit [(1, text)] (.builtin b.name))
      | none => answer b text (if complaints.isEmpty then 0 else 1)

def runRead (b : Builtin) : Act Unit :=
  withOptions b "p:r" fun options words => do
    if words.isEmpty then failOf b "arg count"
    else push (.readLine { names := words, raw := options.any (·.1 == 'r') })

/-! ## Going elsewhere -/

/-- The path of a file of commands. -/
def runDot (b : Builtin) : Act Unit :=
  withOptions b "" fun _ words => do
    match words with
    | [] => setStatus 0
    | name :: _ => do
      let p ← self
      let d ← disk
      let path? := if name.toList.contains '/' then some name
        else Tool.findProgram? d p.place ((p.session.value? "PATH").getD "") name
      match path? with
      | none => failOf b (name ++ ": not found")
      | some path =>
        match ← openFile .read path with
        | .error e => failOf b (openingFault false path e)
        | .ok id => do
          let kept ← freeDescriptor
          setDescriptor kept (some id)
          let r ← receive kept scriptLimit
          close kept
          setStatus 0
          match r with
          | .text text => push (.source (← sourceOf text) (.file path) false)
          | .fault .isADirectory => failOf b (path ++ ": " ++ IoFault.isADirectory.reason)
          | _ => pure ()

def runEval (b : Builtin) : Act Unit := do
  let text := " ".intercalate b.arguments
  setStatus 0
  push (.source (← sourceOf text) .evaluated b.tested)

def runExec (b : Builtin) : Act Unit :=
  withOptions b "" fun _ words => do
    match words with
    | [] => setStatus 0
    | name :: arguments => do
      let s ← session
      execute ((s.value? "PATH").getD "") name arguments s.environment ("exec: " ++ name)

def runExit (b : Builtin) : Act Unit := do
  let status := ((← self).stack.findSome? fun
    | .exiting n => some n
    | _ => none).getD (← session).status
  match b.arguments with
  | [] => exitShell status
  | w :: _ => withNumber b w exitShell

def runReturn (b : Builtin) : Act Unit := do
  match b.arguments with
  | [] => returnWith (← session).status
  | w :: _ => withNumber b w returnWith

/-- Leaves loops or goes on with them. -/
def runLoopCommand (b : Builtin) (act : Nat → Act Unit) : Act Unit := do
  match b.arguments with
  | [] => act 1
  | w :: _ => withNumber b w fun n =>
      if n == 0 then failOf b ("Illegal number: " ++ w) else act n

/-- Runs a command of the shell. -/
def runBuiltin (b : Builtin) : Act Unit := do
  match b.name with
  | ":" | "true" => setStatus 0
  | "false" => setStatus 1
  | "." => runDot b
  | "break" => runLoopCommand b breakLoop
  | "continue" => runLoopCommand b continueLoop
  | "eval" => runEval b
  | "exec" => runExec b
  | "exit" => runExit b
  | "export" => runExport b
  | "readonly" => runReadonly b
  | "local" => runLocal b
  | "return" => runReturn b
  | "set" => runSet b
  | "shift" => runShift b
  | "times" => answer b "0m0.000000s 0m0.000000s\n0m0.000000s 0m0.000000s\n"
  | "trap" => runTrap b
  | "unset" => runUnset b
  | "alias" => runAlias b
  | "unalias" => runUnalias b
  | "cd" | "chdir" => runCd b
  | "echo" => answer b (Tool.echoed b.arguments)
  | "getopts" => runGetopts b
  | "hash" => runHash b
  | "kill" => runKill b
  | "printf" => runPrintf b
  | "pwd" => runPwd b
  | "read" => runRead b
  | "test" | "[" => runTest b
  | "type" => runType b
  | "ulimit" => runUlimit b
  | "umask" => runUmask b
  | "wait" => runWait b
  | "jobs" => setStatus 0
  | name => failOf b (if name == "fg" || name == "bg" then "No current job" else "not found")

end Act

end ProxySync.Shell
