import ProxySync.Settings.Basic
import ProxySync.Text.Numeral

/-!
# The command line

A command line is read from left to right. An option is followed by its
value, after an equals sign or as the next argument; each option may occur
once. The first request for help or for the version ends the reading, and so
does the first fault.
-/

namespace ProxySync

/-- What the program is told at its start. -/
structure CommandLine where
  settingsFile : Option String := none
  choices : Choices := {}
  /-- Seed the store from the configuration file before serving. -/
  importsExisting : Bool := false
deriving DecidableEq, Repr

inductive Invocation where
  | serve (line : CommandLine)
  | help
  | version
deriving DecidableEq, Repr

/-! ## Options -/

/-- The options that take a value. -/
inductive ValueOption where
  | settingsFile
  | port
  | configPath
  | templatePath
  | reloadCommand
  | storePath
  | reloadTimeout
  | logFormat
deriving DecidableEq, Repr

namespace ValueOption

def all : List ValueOption :=
  [settingsFile, port, configPath, templatePath, reloadCommand, storePath, reloadTimeout, logFormat]

def name : ValueOption → String
  | settingsFile => "config"
  | port => Settings.portKey
  | configPath => Settings.configPathKey
  | templatePath => Settings.templatePathKey
  | reloadCommand => Settings.reloadCommandKey
  | storePath => Settings.storePathKey
  | reloadTimeout => Settings.reloadTimeoutKey
  | logFormat => Settings.logFormatKey

def ofName? (s : String) : Option ValueOption := all.find? (·.name == s)

end ValueOption

def importName : String := "import-existing"
def helpName : String := "help"
def versionName : String := "version"

/-! ## Faults -/

inductive UsageFault where
  | unexpected (argument : String)
  | missingValue (option : ValueOption)
  | badValue (option : ValueOption) (value : String)
  | needlessValue (name value : String)
  | repeated (name : String)
deriving DecidableEq, Repr

/-! ## Values -/

def filled? (s : String) : Option String := if s.isEmpty then none else some s

/-- A port with an optional sign; zero may have a minus. -/
def portValue? (s : String) : Option UInt16 :=
  match s.toList with
  | '-' :: digits =>
    if digits.head? = some '+' then none
    else ((Text.readNumeral 0 digits).toOption).map Nat.toUInt16
  | text => ((Text.readNumeral (UInt16.size - 1) text).toOption).map Nat.toUInt16

def secondsValue? (s : String) : Option UInt64 :=
  ((Text.readNumeral (UInt64.size - 1) s.toList).toOption).map Nat.toUInt64

namespace CommandLine

variable (c : CommandLine)

/-- The option has occurred. -/
def isSet : ValueOption → Bool
  | .settingsFile => c.settingsFile.isSome
  | .port => c.choices.port.isSome
  | .configPath => c.choices.configPath.isSome
  | .templatePath => c.choices.templatePath.isSome
  | .reloadCommand => c.choices.reloadCommand.isSome
  | .storePath => c.choices.storePath.isSome
  | .reloadTimeout => c.choices.reloadTimeoutSecs.isSome
  | .logFormat => c.choices.logFormat.isSome

/-- The command line with one more option, if the value is one for it. -/
def set? (option : ValueOption) (value : String) : Option CommandLine :=
  let choose (choices : Choices) : CommandLine := { c with choices := choices }
  match option with
  | .settingsFile => (filled? value).map fun v => { c with settingsFile := some v }
  | .port => (portValue? value).map fun v => choose { c.choices with port := some v }
  | .configPath => (filled? value).map fun v => choose { c.choices with configPath := some v }
  | .templatePath => (filled? value).map fun v => choose { c.choices with templatePath := some v }
  | .reloadCommand => some (choose { c.choices with reloadCommand := some value })
  | .storePath => (filled? value).map fun v => choose { c.choices with storePath := some v }
  | .reloadTimeout =>
    (secondsValue? value).map fun v => choose { c.choices with reloadTimeoutSecs := some v }
  | .logFormat =>
    (LogFormat.ofName? value).map fun v => choose { c.choices with logFormat := some v }

/-- Takes a value for an option that has not occurred yet. -/
def give (option : ValueOption) (value : String) : Except UsageFault CommandLine :=
  match c.set? option value with
  | none => .error (.badValue option value)
  | some c' => if c.isSet option then .error (.repeated option.name) else .ok c'

/-! ## Arguments -/

/-- What an argument looks like by itself. -/
inductive Argument where
  /-- Two dashes: no options after it. -/
  | separator
  | long (name : String) (value : Option String)
  /-- A dash and a letter with what follows it. -/
  | short (letter : Char) (rest : List Char)
  | word (text : String)
deriving DecidableEq, Repr

namespace Argument

/-- A name with the value after the first equals sign. -/
def ofLong (s : List Char) : Argument :=
  let name := s.takeWhile (· != '=')
  let value := match s.drop name.length with
    | _ :: value => some (String.ofList value)
    | [] => none
  .long (String.ofList name) value

def ofString (s : String) : Argument :=
  match s.toList with
  | ['-', '-'] => .separator
  | '-' :: '-' :: rest => ofLong rest
  | '-' :: letter :: rest => .short letter rest
  | _ => .word s

/-- The value attached to a letter, with or without an equals sign. -/
def attached? : List Char → Option String
  | [] => none
  | '=' :: value => some (String.ofList value)
  | value => some (String.ofList value)

/-- What an argument asks for. -/
inductive Meaning where
  | option (o : ValueOption) (value : Option String)
  | importExisting
  | leave (i : Invocation)
  | separator
  | fault (f : UsageFault)

/-- The meaning of an option without a value. -/
def bare (name : String) (value : Option String) (m : Meaning) : Meaning :=
  match value with
  | some v => .fault (.needlessValue name v)
  | none => m

def meaning (argument : String) : Meaning :=
  match ofString argument with
  | .separator => .separator
  | .word text => .fault (.unexpected text)
  | .short 'f' rest => .option .settingsFile (attached? rest)
  | .short 'h' _ => .leave .help
  | .short 'V' _ => .leave .version
  | .short .. => .fault (.unexpected argument)
  | .long name value =>
    if name == importName then bare name value .importExisting
    else if name == helpName then bare name value (.leave .help)
    else if name == versionName then bare name value (.leave .version)
    else
      match ValueOption.ofName? name with
      | some o => .option o value
      | none => .fault (.unexpected argument)

end Argument

/-! ## Reading -/

/-- Reads the arguments that follow what has been read into `c`. -/
def read (c : CommandLine) : List String → Except UsageFault Invocation
  | [] => .ok (.serve c)
  | a :: rest =>
    match Argument.meaning a with
    | .fault f => .error f
    | .leave i => .ok i
    | .separator =>
      match rest with
      | [] => .ok (.serve c)
      | stray :: _ => .error (.unexpected stray)
    | .importExisting =>
      if c.importsExisting then .error (.repeated importName)
      else read { c with importsExisting := true } rest
    | .option o (some value) =>
      match c.give o value with
      | .ok c => read c rest
      | .error f => .error f
    | .option o none =>
      match rest with
      | [] => .error (.missingValue o)
      | value :: rest =>
        match Argument.ofString value with
        | .word value =>
          match c.give o value with
          | .ok c => read c rest
          | .error f => .error f
        | _ => .error (.missingValue o)

/-- Reads a whole command line. -/
def ofArguments (arguments : List String) : Except UsageFault Invocation :=
  read {} arguments

end CommandLine

end ProxySync
