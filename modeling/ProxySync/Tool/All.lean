import ProxySync.Tool.Columns
import ProxySync.Tool.Compare
import ProxySync.Tool.Find
import ProxySync.Tool.Grep
import ProxySync.Tool.Making
import ProxySync.Tool.Running
import ProxySync.Tool.Sed.Run
import ProxySync.Tool.Site
import ProxySync.Tool.Sorting

/-!
# The tools of the system
-/

namespace ProxySync.Tool

/-- All tools with their names. -/
def tools : List (String × Doing Unit) :=
  [("[", testTool true), ("arch", telling "x86_64"), ("basename", basename), ("cat", cat),
    ("chgrp", chgrp), ("chmod", chmod), ("chown", chown), ("cmp", cmp), ("comm", comm), ("cp", cp),
    ("cut", cut), ("date", date), ("diff", diff), ("dirname", dirname), ("du", du),
    ("echo", echoTool), ("egrep", grep 'E'), ("env", env), ("expr", expr),
    ("false", Doing.fail 1), ("fgrep", grep 'F'), ("find", find), ("flock", flock),
    ("fold", foldTool), ("grep", grep 'G'), ("head", head), ("hostname", hostname), ("id", idTool),
    ("install", install), ("ionice", plainRunner "c:n:p:t" [("class", 'c'), ("classdata", 'n')]),
    ("ln", ln), ("logger", logger), ("logname", telling "root"), ("ls", ls), ("mkdir", mkdir),
    ("mktemp", mktemp), ("mv", mv), ("nice", nice), ("nl", nl), ("nohup", nohup), ("nproc", nproc),
    ("paste", paste), ("printenv", printenv), ("printf", printfTool), ("pwd", pwdTool),
    ("readlink", readlink), ("realpath", realpath), ("rev", rev), ("rm", rm), ("rmdir", rmdir),
    ("sed", sed), ("seq", seq), ("setsid", plainRunner "cfw" [("wait", 'w'), ("fork", 'f')]),
    ("sleep", sleepTool), ("sort", sort), ("stat", stat),
    ("stdbuf", plainRunner "i:o:e:" [("input", 'i'), ("output", 'o'), ("error", 'e')]),
    ("sync", pure ()), ("tac", tac), ("tail", tail), ("tee", tee), ("test", testTool false),
    ("timeout", timeout), ("touch", touch), ("tr", tr), ("true", pure ()), ("truncate", truncate),
    ("tty", tty), ("uname", uname), ("uniq", uniq), ("unlink", unlinkTool), ("wc", wc),
    ("which", which), ("whoami", telling "root"), ("xargs", xargs), ("yes", yes)]

/-- Runs a tool by its name. -/
def runTool (name : String) (c : Call) : Outcome :=
  match tools.lookup name with
  | some tool => tool.run c
  | none => (Doing.refuse "not implemented" 126).run c

end ProxySync.Tool
