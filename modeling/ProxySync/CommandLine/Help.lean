import ProxySync.CommandLine.Basic

/-!
# What the command line answers

The help text, the version, and what is said of a command line that cannot
be read.
-/

namespace ProxySync

def programName : String := "conduit"

def versionNumber : String := "0.1.0"

def versionText : String := programName ++ " " ++ versionNumber ++ "\n"

def usageLine : String := "Usage: " ++ programName ++ " [OPTIONS]\n"

/-! ## Help -/

namespace ValueOption

/-- The word that stands for the value of an option. -/
def placeholder (o : ValueOption) : String :=
  String.ofList (o.name.toList.map fun c => if c = '-' then '_' else c.toUpper)

def about : ValueOption → String
  | settingsFile => "Settings file (YAML or JSON)"
  | port => "Port the admin API listens on"
  | configPath => "Path of the haproxy config file to manage"
  | templatePath => "Template the haproxy config is generated from"
  | reloadCommand => "Command that reloads haproxy"
  | storePath => "Directory of the entity store"
  | reloadTimeout => "Seconds to wait for the reload command"
  | logFormat => "[possible values: json, pretty]"

/-- The option with the place of its value. -/
def usage (o : ValueOption) : String := "--" ++ o.name ++ " <" ++ o.placeholder ++ ">"

end ValueOption

/-- An option with a letter, if it has one, and what it is about, on two lines. -/
def helpEntry (letter : Option Char) (usage about : String) : String :=
  let lead := match letter with
    | some c => "-" ++ c.toString ++ ", "
    | none => "    "
  "  " ++ lead ++ usage ++ "\n          " ++ about ++ "\n"

def valueEntry (o : ValueOption) : String :=
  helpEntry (if o = .settingsFile then some 'f' else none) o.usage o.about

def helpText : String :=
  "Keeps an HAProxy configuration file in sync with a durable store of frontends and backends" ++
    "\n\n" ++ usageLine ++ "\nOptions:\n" ++
    String.join (ValueOption.all.map valueEntry) ++
    helpEntry none ("--" ++ importName)
      "Seed the store from the existing haproxy config before serving" ++
    helpEntry (some 'h') ("--" ++ helpName) "Print help" ++
    helpEntry (some 'V') ("--" ++ versionName) "Print version"

/-! ## Faults -/

namespace UsageFault

def message : UsageFault → String
  | .unexpected argument => "unexpected argument '" ++ argument ++ "' found"
  | .missingValue o => "a value is required for '" ++ o.usage ++ "' but none was supplied"
  | .badValue o value => "invalid value '" ++ value ++ "' for '" ++ o.usage ++ "'"
  | .needlessValue name value =>
    "unexpected value '" ++ value ++ "' for '--" ++ name ++ "' found; no more were expected"
  | .repeated name => "the argument '--" ++ name ++ "' cannot be used multiple times"

/-- All that is said of a fault. -/
def report (f : UsageFault) : String :=
  "error: " ++ f.message ++ "\n\n" ++ usageLine ++ "\nFor more information, try '--help'.\n"

end UsageFault

end ProxySync
