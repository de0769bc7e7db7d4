import ProxySync.CommandLine.Help
import ProxySync.Metrics.Sample
import ProxySync.Program.Basic

/-!
# The console

Runs the program on a copy of the files that its command line and settings
name. Requests are read from standard input, one on a line: the method, the
target and, after another space, a JSON body. Each answer is a line with the
status and the body. A configuration file that a request has changed is
written back; the store lasts as long as the program runs.
-/

namespace ProxySync.Console

open Files Http

/-! ## Lines -/

/-- The text up to the first blank, and what follows it. -/
def cutAtBlank (s : List Char) : List Char × List Char :=
  let first := s.takeWhile (· != ' ')
  (first, (s.drop first.length).drop 1)

/-- The request on a line. -/
def request? (line : String) : Option Request :=
  let (method, rest) := cutAtBlank (Text.trim line.toList)
  let (target, body) := cutAtBlank rest
  let mediaType := if body.isEmpty then none else some "application/json"
  Request.make? (String.ofList method) (String.ofList target) mediaType
    (Text.utf8Bytes (String.ofList body))

def sampleLine (sample : String × Nat) : String := sample.1 ++ " " ++ toString sample.2

def bodyText : Body → String
  | .empty => ""
  | .json v => v.text
  | .text s => s
  | .metrics events => "\n".intercalate (aboutLines events ++ (samples events).map sampleLine)

def answerLine : Option Response → String
  | some r => toString r.status ++ " " ++ bodyText r.body
  | none => "refused"

/-! ## Files -/

/-- The files besides the settings file that a run looks at. -/
def filesOf (d : Disk) (line : CommandLine) : List String :=
  let base := match line.settingsFile with
    | some path => (Settings.load d path).toOption.getD {}
    | none => {}
  let s := base.apply line.choices
  s.templatePath.toList ++ [s.configPath]

/-- The disk with the file at a path, if it can be read. -/
def readOnto (d : Disk) (path : String) : IO Disk := do
  try
    let bytes ← IO.FS.readBinFile path
    return d.plant path (.ofBytes bytes.toList)
  catch _ => return d

def readFiles (line : CommandLine) : IO Disk := do
  let d ← line.settingsFile.toList.foldlM readOnto {}
  (filesOf d line).foldlM readOnto d

/-- The path and the text of the configuration file. -/
def configFile? (p : Program) : Option (String × String) :=
  match p.phase with
  | .serving s _ => ((p.disk.readText s.configPath).toOption).map (s.configPath, ·)
  | .ended .. => none

/-- Writes the configuration file if it is not what it was. -/
def writeBack (before after : Program) : IO Unit := do
  match configFile? after with
  | some file => if configFile? before != some file then IO.FS.writeFile file.1 file.2
  | none => return

/-! ## Serving -/

/-- Answers a line, on the port that the program serves. -/
def answer (p : Program) (line : String) : Option Response × Program :=
  match p.phase, request? line with
  | .serving s _, some r =>
    let (response, _, p) := p.request s.port r
    (response, p)
  | _, _ => (none, p)

/-- Answers the lines of the input until the program or the input ends. -/
partial def serveLines (input output : IO.FS.Stream) (p : Program) : IO Program := do
  let line ← input.getLine
  if line.isEmpty || !p.isServing then return (p.signal .terminate).2
  let (response, next) := answer p line
  output.putStrLn (answerLine response)
  output.flush
  writeBack p next
  serveLines input output next

/-- Runs the program on a command line, with its exit code. -/
def run (arguments : List String) : IO UInt32 := do
  match CommandLine.ofArguments arguments with
  | .error fault =>
    IO.eprint fault.report
    return 2
  | .ok .help =>
    IO.print helpText
    return 0
  | .ok .version =>
    IO.print versionText
    return 0
  | .ok (.serve line) =>
    let started := Program.start {} line (← readFiles line)
    let p ← serveLines (← IO.getStdin) (← IO.getStdout) started
    IO.eprint p.report
    return p.exitCode.toUInt32

end ProxySync.Console

def main (arguments : List String) : IO UInt32 := ProxySync.Console.run arguments
