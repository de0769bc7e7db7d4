import ProxySync.Files.Disk
import ProxySync.Shell.Signal

/-!
# Tools

A tool is a program of the system that works on files and texts. It sees its
words, its environment, the disk and as much of its input as has come; it
answers with a changed disk, texts for its output and a status, or asks for
more input, for time, or for another program.
-/

namespace ProxySync.Tool

open Files

/-! ## Calls and outcomes -/

structure Call where
  name : String
  arguments : List String
  environment : List (String × String)
  disk : Disk
  place : Place
  mask : Nat := 0o022
  /-- The input that has come so far. -/
  input : String := ""
  inputEnded : Bool := true
  /-- The file that the input comes from, and the one the output goes to. -/
  inputFile : Option Nat := none
  outputFile : Option Nat := none
  /-- Microseconds since the start. -/
  clock : Nat := 0

/-- What happens to a program that runs too long. -/
structure TimeLimit where
  micros : Nat
  signal : Nat
  /-- The time after the signal in which the program must end. -/
  killAfter : Option Nat := none
  /-- Only the program itself gets the signal, not all that it started. -/
  alone : Bool := false
  /-- The status is that of the program, whatever happened. -/
  keepsStatus : Bool := false

inductive Outcome where
  /-- The tool is done. Of its input, `unused` octets may be given back. -/
  | ended (disk : Disk) (chunks : List (Nat × String)) (status : Nat) (unused : Nat)
  | needsInput
  /-- Waits, or does so for ever. -/
  | sleeps (micros : Option Nat)
  /-- Writes a text again and again. -/
  | repeats (text : String)
  /-- Becomes another program in a folder. -/
  | becomes (disk : Disk) (arguments : List String) (environment : List (String × String))
      (place : Place)
  /-- Runs a program, and goes on as its ending and the disk that it left say. -/
  | asks (disk : Disk) (chunks : List (Nat × String)) (command : List String)
      (next : Shell.Ending → Disk → Outcome)
  /-- Runs a program for some time. -/
  | limits (arguments : List String) (limit : TimeLimit)

/-- A tool at work. -/
structure Job where
  call : Call
  disk : Disk
  /-- What has been written, the last part first. -/
  chunks : List (Nat × String) := []
  status : Nat := 0
  unused : Nat := 0

abbrev Doing := StateT Job (Except Outcome)

def Job.outcome (j : Job) : Outcome := .ended j.disk j.chunks.reverse j.status j.unused

namespace Doing

def run (tool : Doing Unit) (c : Call) : Outcome :=
  match StateT.run tool { call := c, disk := c.disk } with
  | .ok ((), j) => j.outcome
  | .error o => o

def call : Doing Call := do return (← get).call

/-- Ends the tool with a status. -/
def quit {α : Type} (status : Nat) : Doing α := do
  let j ← get
  throw { j with status := status }.outcome

def write (s : String) : Doing Unit :=
  modify fun j => if s.isEmpty then j else { j with chunks := (1, s) :: j.chunks }

def writeLine (s : String) : Doing Unit := write (s ++ "\n")

/-- Says what went wrong, after the tool's name. -/
def complain (s : String) : Doing Unit := do
  let c ← call
  modify fun j => { j with chunks := (2, c.name ++ ": " ++ s ++ "\n") :: j.chunks }

/-- The status is at least this one. -/
def fail (status : Nat := 1) : Doing Unit :=
  modify fun j => { j with status := max j.status status }

def refuse (s : String) (status : Nat := 1) : Doing Unit := do
  complain s
  fail status

/-- Ends the tool over words that it does not understand. -/
def misuse {α : Type} (s : String) (status : Nat := 1) : Doing α := do
  let c ← call
  complain s
  modify fun j => { j with
    chunks := (2, "Try '" ++ c.name ++ " --help' for more information.\n") :: j.chunks }
  quit status

/-- The whole input. -/
def input : Doing String := do
  let c ← call
  if c.inputEnded then pure c.input else throw .needsInput

/-- Performs an operation on the disk. -/
def onDisk (act : Disk → Except IoFault Disk) : Doing (Except IoFault Unit) := do
  let j ← get
  match act j.disk with
  | .ok d => do
    set { j with disk := d }
    pure (.ok ())
  | .error e => pure (.error e)

def look {α : Type} (f : Disk → Place → α) : Doing α := do
  let j ← get
  pure (f j.disk j.call.place)

end Doing

/-! ## Files of tools -/

/-- What stands in front of the name in the file of a tool. -/
def toolMark : String := "\x7fELF"

def toolContent (name : String) : Content := .ofOctets (toolMark ++ name)

/-- The tool that a file of this content is. -/
def toolName? (content : String) : Option String :=
  if content.startsWith toolMark then some (String.ofList (content.toList.drop toolMark.length))
  else none

/-! ## Texts -/

/-- A path as the disk knows it. -/
def pathOf (s : String) : String := Text.ofOctets s

/-- The text of a file. -/
def fileText (d : Disk) (place : Place) (path : String) : Except IoFault String :=
  (d.readContent (pathOf path) place).map (·.octets)

/-- The text of an operand, where a dash stands for the input. -/
def operandText (path : String) : Doing (Except IoFault String) := do
  if path == "-" || path == "/dev/stdin" then return .ok (← Doing.input)
  else Doing.look fun d p => fileText d p path

/-- The lines of a text without their ends; a text that ends in a line break
has no line behind it. -/
def linesOf (s : String) : List String :=
  let lines := s.toList.splitOn '\n'
  let lines := if lines.getLast? == some [] then lines.dropLast else lines
  lines.map String.ofList

def endsInBreak (s : String) : Bool := s.toList.getLast? == some '\n'

/-- The number of a file. -/
def fileNumber? (d : Disk) (place : Place) (path : String) : Option Nat :=
  match d.lookup (pathOf path) true place with
  | .ok (_, .file n) => some n
  | _ => none

/-! ## Quoting -/

def isPlainChar (c : Char) : Bool :=
  c.isAlphanum || "%+,-./:=@_^]\x7b\x7d".toList.contains c || c.toNat ≥ 128

/-- A text between quotes, as the shell would read it. -/
def quotedText (s : String) : String :=
  if !s.toList.contains '\'' then "'" ++ s ++ "'"
  else if !s.toList.any (fun c => "\"$\\!\x60".toList.contains c) then "\"" ++ s ++ "\""
  else "'" ++ String.join (s.toList.map fun c => if c == '\'' then "'\\''" else c.toString) ++ "'"

/-- A text as it is, or between quotes where the shell would read it
otherwise. -/
def shownText (s : String) : String :=
  if s.isEmpty || !s.toList.all isPlainChar then quotedText s else s

/-! ## Options -/

/-- Whether an option takes an argument. -/
inductive Taking where
  | nothing
  | argument
  /-- An argument that stands behind it in the same word. -/
  | attached
deriving DecidableEq

/-- The options of a tool: their letters with colons as usual, and longer
names with the letters that they stand for. -/
structure Options where
  letters : String
  names : List (String × Char) := []
  /-- Options may stand behind operands. -/
  anywhere : Bool := true

def Options.taking? (o : Options) (c : Char) : Option Taking :=
  let rest := o.letters.toList.dropWhile (· != c)
  if c == ':' then none
  else
    match rest with
    | _ :: ':' :: ':' :: _ => some .attached
    | _ :: ':' :: _ => some .argument
    | _ :: _ => some .nothing
    | [] => none

/-- Options with their arguments, and operands. -/
structure Parsed where
  options : List (Char × String)
  operands : List String

namespace Parsed

def has (p : Parsed) (c : Char) : Bool := p.options.any (·.1 == c)

/-- The argument of the last use of an option. -/
def last? (p : Parsed) (c : Char) : Option String :=
  (p.options.reverse.find? (·.1 == c)).map (·.2)

/-- The last of some options that exclude each other. -/
def lastOf (p : Parsed) (cs : List Char) : Option Char :=
  (p.options.reverse.find? fun (c, _) => cs.contains c).map (·.1)

def all (p : Parsed) (c : Char) : List String :=
  p.options.filterMap fun (d, a) => if c == d then some a else none

end Parsed

/-- The letter of a longer name, which may be cut short. -/
def Options.letterOf? (o : Options) (name : String) : Except String Char :=
  match o.names.lookup name with
  | some c => .ok c
  | none =>
    let found := o.names.filter fun (n, _) => n.startsWith name
    match (found.map (·.2)).eraseDups with
    | [c] => .ok c
    | [] => .error ("unrecognized option '--" ++ name ++ "'")
    | _ =>
      let names := found.map fun (n, _) => " '--" ++ n ++ "'"
      .error ("option '--" ++ name ++ "' is ambiguous; possibilities:" ++ String.join names)

/-- The options of one word of letters. What they take may be the next word. -/
def Options.readLetters (o : Options) : List Char → List String →
    Except String (List (Char × String) × List String)
  | [], words => .ok ([], words)
  | c :: rest, words =>
    match o.taking? c with
    | none => .error ("invalid option -- '" ++ c.toString ++ "'")
    | some .nothing => do
      let (more, words) ← o.readLetters rest words
      pure ((c, "") :: more, words)
    | some .attached => .ok ([(c, String.ofList rest)], words)
    | some .argument =>
      match rest, words with
      | [], [] => .error ("option requires an argument -- '" ++ c.toString ++ "'")
      | [], w :: words => .ok ([(c, w)], words)
      | rest, words => .ok ([(c, String.ofList rest)], words)

/-- Reads the options among words. -/
def Options.read (o : Options) : (steps : Nat) → List String → Except String Parsed
  | 0, words => .ok ⟨[], words⟩
  | steps + 1, words =>
    match words with
    | [] => .ok ⟨[], []⟩
    | "--" :: rest => .ok ⟨[], rest⟩
    | w :: rest =>
      match w.toList with
      | '-' :: '-' :: name => do
        let value := name.dropWhile (· != '=')
        let name := String.ofList (name.take (name.length - value.length))
        let c ← o.letterOf? name
        let full := ((o.names.find? fun (n, _) => n == name).getD
          ((o.names.find? fun (n, _) => n.startsWith name).getD (name, c))).1
        match o.taking? c, value, rest with
        | some .argument, [], a :: rest => do
          let p ← o.read steps rest
          pure { p with options := (c, a) :: p.options }
        | some .argument, [], [] => .error ("option '--" ++ full ++ "' requires an argument")
        | some .nothing, _ :: _, _ =>
          .error ("option '--" ++ full ++ "' doesn't allow an argument")
        | _, value, rest => do
          let p ← o.read steps rest
          pure { p with options := (c, String.ofList value.tail) :: p.options }
      | '-' :: c :: letters => do
        let (found, rest) ← o.readLetters (c :: letters) rest
        let p ← o.read steps rest
        pure { p with options := found ++ p.options }
      | _ =>
        if o.anywhere then do
          let p ← o.read steps rest
          pure { p with operands := w :: p.operands }
        else .ok ⟨[], words⟩

/-- The options and operands of the call, or what is to be done about words
that make no sense. -/
def Options.parsedOr (o : Options) (onFault : String → Doing Parsed) : Doing Parsed := do
  let c ← Doing.call
  let words := c.arguments
  if words.head? == some "--help" || words.head? == some "--version" then Doing.quit 0
  else
    match o.read (words.length + 1) words with
    | .ok p => pure p
    | .error s => onFault s

def Options.parsed (o : Options) (status : Nat := 1) : Doing Parsed :=
  o.parsedOr fun s => Doing.misuse s status

/-- A decimal number without a sign. -/
def count? (s : String) : Option Nat :=
  if s.isEmpty || !s.toList.all Char.isDigit then none
  else some (s.toList.foldl (fun n c => 10 * n + (c.toNat - '0'.toNat)) 0)

end ProxySync.Tool
