import ProxySync.Shell.Step

/-!
# Running shell scripts

Processes take turns. A turn is a number of steps, or fewer if the process
has to wait. When all of them wait, time passes until the first may go on by
itself. Working takes a little time too, so a script without an end comes to
the end of its time.
-/

namespace ProxySync.Shell

open Files

/-! ## Turns -/

/-- How many steps a process does before it is the turn of the next. -/
def turnLength : Nat := 64

/-- Microseconds that a step takes. -/
def stepTime : Nat := 4

/-- How many steps all processes together do at most. -/
def stepLimit : Nat := 400000

namespace Machine

/-- Lets one process do steps; the steps that are left. -/
def work (number : Nat) : (steps : Nat) → Machine → Machine × Nat
  | 0, m => (m, 0)
  | steps + 1, m =>
    match m.process? number with
    | none => (m, steps + 1)
    | some p =>
      if p.ending.isSome || p.stopped then (m, steps + 1)
      else
        let (moved, t) := Act.step.run ⟨p, m⟩
        if moved then
          let m := t.machine.setProcess t.self
          work number steps { m with clock := m.clock + stepTime }
        else (m, steps + 1)

/-- Forgets the openings and pipes that nobody has any more. -/
def clean (m : Machine) : Machine :=
  if m.openings.length < 40 then m
  else
    let m := m.tidy
    let isOpen (n : Nat) : Bool := m.openings.any fun (_, o) => o.channel == .pipe n
    { m with pipes := m.pipes.filter fun (n, _) => isOpen n }

/-- Gives every process a turn; the number of steps done. -/
def round (m : Machine) : Machine × Nat :=
  m.processes.foldl (fun (m, done) p =>
    let (m, left) := work p.number turnLength m
    (m.clean, done + (turnLength - left))) (m, 0)

/-- The first time at which a waiting process may go on. -/
def nextDue? (m : Machine) : Option Nat :=
  (m.processes.filterMap Process.due?).min?

/-- How a process has ended, if it has. -/
def endingOf? (m : Machine) (number : Nat) : Option Ending := (m.process? number).bind (·.ending)

/-- Lets processes work until the first one has ended or the time is over. -/
def run (number limit : Nat) : (fuel : Nat) → (steps : Nat) → Machine → Ending × Machine
  | 0, _, m => (.expired, m)
  | fuel + 1, steps, m =>
    match m.endingOf? number with
    | some e => (e, m)
    | none =>
      let (m, done) := m.round
      match m.endingOf? number with
      | some e => (e, m)
      | none =>
        if limit ≤ m.clock || steps ≤ done then (.expired, m)
        else if done == 0 then
          match m.nextDue? with
          | some due =>
            if limit ≤ due then (.expired, { m with clock := limit })
            else run number limit fuel (steps - 1) { m with clock := max m.clock due }
          | none => (.expired, { m with clock := limit })
        else run number limit fuel (steps - done) m

/-- Lets processes do what they can do without waiting. -/
def settle : (fuel : Nat) → Machine → Machine
  | 0, m => m
  | fuel + 1, m =>
    let (m, done) := m.round
    if done == 0 then m else settle fuel m

end Machine

/-! ## Whole runs -/

/-- The variables that the shell is started with. -/
def startEnvironment : List (String × String) :=
  [("PATH", "/usr/local/sbin:/usr/local/bin:/usr/sbin:/usr/bin:/sbin:/bin"), ("HOME", "/root")]

/-- A machine with one process, which reads nothing and whose output nobody
looks at. -/
def Machine.start (d : Disk) : Machine :=
  let input : Opening := { channel := .device .null, reads := true }
  let output : Opening := { channel := .unseen, writes := true }
  { disk := d
    openings := [(0, input), (1, output), (2, output)]
    nextOpening := 3
    nextProcess := 4202
    processes := [{
      number := 4201
      parent := 4200
      files := [(0, 0), (1, 1), (2, 2)]
      session := .start "/bin/sh" [] startEnvironment
      stack := [] }] }

/-- Runs a command line for less than `millis` of time. Without any time it
does not even start. -/
def runScript (d : Disk) (text : String) (millis : Nat) : Ending × Disk :=
  if millis == 0 then (.expired, d)
  else
    let m := Machine.start d
    let m := { m with processes := m.processes.map fun p =>
      let starting := Act.startShell ["/bin/sh", "-c", Text.toOctets text] startEnvironment
      (starting.run ⟨p, m⟩).2.self }
    let (e, m) := m.run 4201 (1000 * millis) stepLimit stepLimit
    (e, (m.settle 1000).disk)

end ProxySync.Shell
