import ProxySync.Entity.Basic

/-!
# Sections of the configuration file

An entity becomes a block of lines: a header with its name, one line for
each directive that is set, and an empty line that ends the section.
-/

namespace ProxySync.ConfigFile

open ProxySync.Text

/-- Lines, each with its line feed. -/
def unlines (lines : List (List Char)) : List Char := lines.flatMap (· ++ ['\n'])

def headerLine (k : Kind) (name : String) : List Char :=
  "  ".toList ++ k.noun.toList ++ ' ' :: name.toList

/-- The line of a directive; none when its value is empty. -/
def directiveLine (word value : String) : List (List Char) :=
  if value.isEmpty then [] else ["    ".toList ++ word.toList ++ ' ' :: value.toList]

/-- The lines of a rule without the blank ones, which would end the section. -/
def ruleLines (rule : String) : List (List Char) :=
  ((lines rule.toList).map trim).filter (!·.isEmpty) |>.map ("    ".toList ++ ·)

/-- What follows the address on every server line: the health check. -/
def serverCheck : String := "check inter 2000"

def serverLine (m : Member) : List Char :=
  "    server ".toList ++ m.name.toList ++ ' ' :: m.host.toList ++ ':' :: digits m.port.toNat ++
    ' ' :: serverCheck.toList

def listenerBlock (l : Listener) : List (List Char) :=
  [headerLine .frontend l.name] ++ directiveLine "bind" l.bind ++ directiveLine "mode" l.mode ++
    directiveLine "default_backend" l.defaultBackend ++ directiveLine "option" l.option ++
    l.rules.flatMap ruleLines ++ [[]]

def poolBlock (p : Pool) : List (List Char) :=
  [headerLine .backend p.name] ++ directiveLine "mode" p.mode ++
    directiveLine "balance" p.balance ++ p.members.map serverLine ++ [[]]

end ProxySync.ConfigFile
