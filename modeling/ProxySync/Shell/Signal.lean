import ProxySync.Text.Numeral

/-!
# Signals

The signals with their names, what they do to a process that has said nothing
about them, and what is said of a process that they ended.
-/

namespace ProxySync.Shell

/-- The names of the signals from 1 on. Some numbers have none. -/
def signalNames : List String :=
  ["HUP", "INT", "QUIT", "ILL", "TRAP", "ABRT", "BUS", "FPE", "KILL", "USR1", "SEGV", "USR2",
    "PIPE", "ALRM", "TERM", "16", "CHLD", "CONT", "STOP", "TSTP", "TTIN", "TTOU", "URG", "XCPU",
    "XFSZ", "VTALRM", "PROF", "WINCH", "IO", "PWR", "SYS", "32", "33", "RTMIN", "RTMIN+1",
    "RTMIN+2", "RTMIN+3", "RTMIN+4", "RTMIN+5", "RTMIN+6", "RTMIN+7", "RTMIN+8", "RTMIN+9",
    "RTMIN+10", "RTMIN+11", "RTMIN+12", "RTMIN+13", "RTMIN+14", "RTMIN+15", "RTMAX-14",
    "RTMAX-13", "RTMAX-12", "RTMAX-11", "RTMAX-10", "RTMAX-9", "RTMAX-8", "RTMAX-7", "RTMAX-6",
    "RTMAX-5", "RTMAX-4", "RTMAX-3", "RTMAX-2", "RTMAX-1", "RTMAX"]

/-- Numbers below this one belong to signals; 0 stands for none. -/
def signalCount : Nat := 65

def signalName (n : Nat) : String := if n == 0 then "0" else (signalNames[n - 1]?).getD (toString n)

/-- What is said of a process that a signal ended. -/
def signalTexts : List String :=
  ["Hangup", "Interrupt", "Quit", "Illegal instruction", "Trace/breakpoint trap", "Aborted",
    "Bus error", "Floating point exception", "Killed", "User defined signal 1",
    "Segmentation fault", "User defined signal 2", "Broken pipe", "Alarm clock", "Terminated",
    "Stack fault", "Child exited", "Continued", "Stopped (signal)", "Stopped",
    "Stopped (tty input)", "Stopped (tty output)", "Urgent I/O condition",
    "CPU time limit exceeded", "File size limit exceeded", "Virtual timer expired",
    "Profiling timer expired", "Window changed", "I/O possible", "Power failure",
    "Bad system call"]

def signalText (n : Nat) : String :=
  match signalTexts[n - 1]? with
  | some text => if n == 0 then "Unknown signal 0" else text
  | none =>
    if 34 ≤ n && n < signalCount then "Real-time signal " ++ toString (n - 34)
    else "Unknown signal " ++ toString n

/-- The number of a signal that is named or numbered. A name may be written
in small letters. -/
def signalNumber? (s : String) : Option Nat :=
  match s.toList.all Char.isDigit, Text.readNumeral 1000 s.toList with
  | true, .ok n => if n < signalCount then some n else none
  | _, _ => (signalNames.findIdx? (· == s.map Char.toUpper)).map (· + 1)

namespace Signal

def interrupt : Nat := 2
def quit : Nat := 3
def kill : Nat := 9
def brokenPipe : Nat := 13
def terminate : Nat := 15
def continued : Nat := 18
def stop : Nat := 19

end Signal

/-- What a signal does to a process that neither ignores nor catches it. -/
inductive SignalEffect where
  | nothing
  | stops
  | ends
deriving DecidableEq, Repr

def signalEffect (n : Nat) : SignalEffect :=
  if [17, 18, 23, 28].contains n then .nothing
  else if [19, 20, 21, 22].contains n then .stops
  else .ends

/-! ## Endings -/

/-- How a process ended. -/
inductive Ending where
  | exited (status : Nat)
  | killed (signal : Nat)
  /-- Its time was over. -/
  | expired
deriving DecidableEq, Repr

/-- The status that a shell sees. -/
def Ending.status : Ending → Nat
  | exited n => n
  | killed n => 128 + n
  | expired => 128

/-- What the system says of an ending that is no success. -/
def Ending.message : Ending → String
  | exited n => "exit status: " ++ toString n
  | killed n =>
    let name := if n == 16 then "STKFLT" else signalName n
    "signal: " ++ toString n ++ (if n < 32 then " (SIG" ++ name ++ ")" else "")
  | expired => "expired"

end ProxySync.Shell
