/-!
# Settings

Settings come from three places: the command line, the settings file and
the defaults. Each of the first two is a set of choices that leaves some
settings open; an open setting keeps the value of the place behind it.
-/

namespace ProxySync

inductive LogFormat where
  | json
  | pretty
deriving DecidableEq, Repr

namespace LogFormat

def name : LogFormat → String
  | .json => "json"
  | .pretty => "pretty"

def ofName? : String → Option LogFormat
  | "json" => some .json
  | "pretty" => some .pretty
  | _ => none

end LogFormat

/-- The command that makes the proxy read its configuration again when no
other is set. -/
def defaultReloadCommand : String := "service haproxy reload"

structure Settings where
  port : UInt16 := 8080
  configPath : String := "/etc/haproxy/haproxy.cfg"
  /-- The file of the template; without one the built-in template serves. -/
  templatePath : Option String := none
  reloadCommand : String := defaultReloadCommand
  /-- The folder of the entity store. -/
  storePath : String := "/var/db/conduit"
  reloadTimeoutSecs : UInt64 := 30
  logFormat : LogFormat := .json
deriving DecidableEq, Repr

/-- The settings that one place gives. -/
structure Choices where
  port : Option UInt16 := none
  configPath : Option String := none
  templatePath : Option String := none
  reloadCommand : Option String := none
  storePath : Option String := none
  reloadTimeoutSecs : Option UInt64 := none
  logFormat : Option LogFormat := none
deriving DecidableEq, Repr

/-- The settings with the choices `c` in front of them. -/
def Settings.apply (s : Settings) (c : Choices) : Settings where
  port := c.port.getD s.port
  configPath := c.configPath.getD s.configPath
  templatePath := c.templatePath.or s.templatePath
  reloadCommand := c.reloadCommand.getD s.reloadCommand
  storePath := c.storePath.getD s.storePath
  reloadTimeoutSecs := c.reloadTimeoutSecs.getD s.reloadTimeoutSecs
  logFormat := c.logFormat.getD s.logFormat

namespace Settings

/-- The names of the settings in a settings file and on the command line. -/
def portKey : String := "port"
def configPathKey : String := "haconfig"
def templatePathKey : String := "hatemplate"
def reloadCommandKey : String := "hareload"
def storePathKey : String := "db-path"
def reloadTimeoutKey : String := "reload-timeout-secs"
def logFormatKey : String := "log-format"

end Settings

end ProxySync
