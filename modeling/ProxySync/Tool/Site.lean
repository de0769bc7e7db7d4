import ProxySync.Calendar.Date
import ProxySync.Tool.Words

/-!
# What tools tell about the system

Who the user is, what the machine is called and what time it is: `id`,
`whoami`, `uname`, `hostname`, `nproc` and `date`.
-/

namespace ProxySync.Tool

open Files

/-! ## The user and the machine -/

/-- The tool `id`, for the only user there is. -/
def idTool : Doing Unit := do
  let p ← ({
    letters := "agGnruzZ"
    names := [("group", 'g'), ("groups", 'G'), ("name", 'n'), ("real", 'r'), ("user", 'u'),
      ("zero", 'z')] } : Options).parsed
  match p.operands.find? (· != "root") with
  | some name =>
    if name != "0" then
      Doing.complain (quotedText name ++ ": no such user")
      Doing.quit 1
  | none => pure ()
  match p.lastOf ['u', 'g', 'G'] with
  | some _ => Doing.writeLine (if p.has 'n' then "root" else "0")
  | none =>
    if p.has 'n' || p.has 'r' then
      Doing.complain "printing only names or real IDs requires -u, -g, or -G"
      Doing.quit 1
    else Doing.writeLine "uid=0(root) gid=0(root) groups=0(root)"

/-- A tool without operands that writes a line. -/
def telling (line : String) : Doing Unit := do
  let p ← ({ letters := "" } : Options).parsed
  match p.operands with
  | [] => Doing.writeLine line
  | extra :: _ => Doing.misuse ("extra operand " ++ quotedText extra)

/-- The parts of the system's name, with the letters that ask for them. -/
def systemNames : List (Char × String) :=
  [('s', "Linux"), ('n', "localhost"), ('r', "6.1.0"), ('v', "#1 SMP"), ('m', "x86_64"),
    ('o', "GNU/Linux")]

/-- The tool `uname`. -/
def uname : Doing Unit := do
  let p ← ({
    letters := "asnrvmpio"
    names := [("all", 'a'), ("kernel-name", 's'), ("nodename", 'n'), ("kernel-release", 'r'),
      ("kernel-version", 'v'), ("machine", 'm'), ("processor", 'p'), ("hardware-platform", 'i'),
      ("operating-system", 'o')] } : Options).parsed
  match p.operands with
  | extra :: _ => Doing.misuse ("extra operand " ++ quotedText extra)
  | [] =>
    let asked := systemNames.filter fun (c, _) => p.has 'a' || p.has c
    let unknown := if p.has 'p' || p.has 'i' then ["unknown"] else []
    let texts := asked.map (·.2) ++ unknown
    Doing.writeLine (" ".intercalate (if texts.isEmpty then ["Linux"] else texts))

/-- The tool `hostname`. -/
def hostname : Doing Unit := do
  let p ← ({ letters := "aAdfFiIsy", names := [("fqdn", 'f'), ("short", 's')] } : Options).parsed
  if p.operands.isEmpty then Doing.writeLine "localhost"
  else
    Doing.complain "you must be root to change the host name"
    Doing.quit 1

/-- The tool `nproc`. -/
def nproc : Doing Unit := do
  let _ ← ({ letters := "\x01\x02:", names := [("all", '\x01'), ("ignore", '\x02')] } : Options).parsed
  Doing.writeLine "1"

/-- The tool `tty`. -/
def tty : Doing Unit := do
  let p ← ({ letters := "s", names := [("silent", 's'), ("quiet", 's')] } : Options).parsed 2
  if !p.has 's' then Doing.writeLine "not a tty"
  Doing.fail 1

/-- The tool `logger`, which finds nobody to write to. -/
def logger : Doing Unit := do
  Doing.refuse "socket /dev/log: No such file or directory"

/-! ## The time -/

/-- The second at which everything starts, counted from the beginning of
1970. -/
def startSecond : Nat := 1767225600

/-- A time as days and clock show it, in universal time. -/
structure ClockTime where
  seconds : Int
  year : Int
  month : Nat
  day : Nat
  hour : Nat
  minute : Nat
  second : Nat

/-- The year, month and day that many days after the beginning of 1970. -/
def civilFromDays (days : Int) : Int × Nat × Nat :=
  let z := days + 719468
  let era := z.fdiv 146097
  let doe := (z - era * 146097).toNat
  let yoe := (doe - doe / 1460 + doe / 36524 - doe / 146096) / 365
  let doy := doe - (365 * yoe + yoe / 4 - yoe / 100)
  let mp := (5 * doy + 2) / 153
  let day := doy - (153 * mp + 2) / 5 + 1
  let month := if mp < 10 then mp + 3 else mp - 9
  let year : Int := yoe + era * 400 + (if month ≤ 2 then 1 else 0)
  (year, month, day)

/-- How many days after the beginning of 1970 a day is. -/
def daysFromCivil (year : Int) (month day : Nat) : Int :=
  let y := if month ≤ 2 then year - 1 else year
  let era := y.fdiv 400
  let yoe := (y - era * 400).toNat
  let mp := if 2 < month then month - 3 else month + 9
  let doy := (153 * mp + 2) / 5 + day - 1
  let doe := yoe * 365 + yoe / 4 - yoe / 100 + doy
  era * 146097 + doe - 719468

def ClockTime.ofSeconds (seconds : Int) : ClockTime :=
  let days := seconds.fdiv 86400
  let rest := (seconds.fmod 86400).toNat
  let (year, month, day) := civilFromDays days
  ⟨seconds, year, month, day, rest / 3600, rest / 60 % 60, rest % 60⟩

def weekdayNames : List String :=
  ["Sunday", "Monday", "Tuesday", "Wednesday", "Thursday", "Friday", "Saturday"]

def fullMonthNames : List String :=
  ["January", "February", "March", "April", "May", "June", "July", "August", "September",
    "October", "November", "December"]

namespace ClockTime

def weekday (t : ClockTime) : Nat := ((t.seconds.fdiv 86400 + 4).fmod 7).toNat

def dayOfYear (t : ClockTime) : Nat :=
  (daysFromCivil t.year t.month t.day - daysFromCivil t.year 1 1).toNat + 1

/-- The week by the rule that a week belongs to the year that has its
Thursday; with that year. -/
def isoWeek (t : ClockTime) : Int × Nat :=
  let days := t.seconds.fdiv 86400
  let thursday := days + 3 - ((days + 3).fmod 7)
  let (year, _, _) := civilFromDays thursday
  (year, (thursday - daysFromCivil year 1 1).toNat / 7 + 1)

end ClockTime

def padNumber (width n : Nat) : String := zeroPadded width (toString n)

/-- What a letter stands for in the format of a time. -/
def dateField (t : ClockTime) (nanos : Nat) : Char → Option String
  | '%' => some "%"
  | 'n' => some "\n"
  | 't' => some "\t"
  | 'Y' => some (toString t.year)
  | 'C' => some (padNumber 2 (t.year.toNat / 100))
  | 'y' => some (padNumber 2 (t.year.toNat % 100))
  | 'm' => some (padNumber 2 t.month)
  | 'd' => some (padNumber 2 t.day)
  | 'e' => some (padLeft 2 (toString t.day))
  | 'H' => some (padNumber 2 t.hour)
  | 'k' => some (padLeft 2 (toString t.hour))
  | 'I' => some (padNumber 2 ((t.hour + 11) % 12 + 1))
  | 'l' => some (padLeft 2 (toString ((t.hour + 11) % 12 + 1)))
  | 'M' => some (padNumber 2 t.minute)
  | 'S' => some (padNumber 2 t.second)
  | 'N' => some (padNumber 9 nanos)
  | 'p' => some (if t.hour < 12 then "AM" else "PM")
  | 'P' => some (if t.hour < 12 then "am" else "pm")
  | 's' => some (toString t.seconds)
  | 'j' => some (padNumber 3 t.dayOfYear)
  | 'u' => some (toString (if t.weekday == 0 then 7 else t.weekday))
  | 'w' => some (toString t.weekday)
  | 'U' => some (padNumber 2 ((t.dayOfYear + 6 - t.weekday) / 7))
  | 'W' => some (padNumber 2 ((t.dayOfYear + 6 - (t.weekday + 6) % 7) / 7))
  | 'V' => some (padNumber 2 t.isoWeek.2)
  | 'G' => some (toString t.isoWeek.1)
  | 'g' => some (padNumber 2 (t.isoWeek.1.toNat % 100))
  | 'a' => some (String.ofList ((weekdayNames.getD t.weekday "").toList.take 3))
  | 'A' => some (weekdayNames.getD t.weekday "")
  | 'b' | 'h' => some (String.ofList ((fullMonthNames.getD (t.month - 1) "").toList.take 3))
  | 'B' => some (fullMonthNames.getD (t.month - 1) "")
  | 'z' => some "+0000"
  | 'Z' => some "UTC"
  | _ => none

/-- What a letter stands for that is short for others. -/
def dateShorthand : Char → Option String
  | 'F' => some "%Y-%m-%d"
  | 'T' => some "%H:%M:%S"
  | 'R' => some "%H:%M"
  | 'D' | 'x' => some "%m/%d/%y"
  | 'X' => some "%H:%M:%S"
  | 'r' => some "%I:%M:%S %p"
  | 'c' => some "%a %b %e %H:%M:%S %Y"
  | _ => none

/-- A time in a format. -/
def dateText (t : ClockTime) (nanos : Nat) : (fuel : Nat) → List Char → List Char
  | 0, _ => []
  | fuel + 1, s =>
    match s with
    | [] => []
    | '%' :: rest =>
      let flags := rest.takeWhile fun c => c == '-' || c == '_' || c == '0' || c == '^' || c.isDigit
      match rest.drop flags.length with
      | c :: more =>
        match dateShorthand c, dateField t nanos c with
        | some format, _ => dateText t nanos fuel (format.toList ++ more)
        | none, some field =>
          let field := if flags.head? == some '-' then
              let short := field.toList.dropWhile fun c => c == '0' || c == ' '
              if short.isEmpty then "0" else String.ofList short
            else if flags.head? == some '_' then
              let short := field.toList.dropWhile (· == '0')
              padLeft field.length (if short.isEmpty then "0" else String.ofList short)
            else if flags.head? == some '^' then field.map Char.toUpper
            else if c == 'N' && !flags.isEmpty then
              String.ofList (field.toList.take ((count? (String.ofList flags)).getD 9))
            else field
          field.toList ++ dateText t nanos fuel more
        | none, none => '%' :: flags ++ c :: dateText t nanos fuel more
      | [] => '%' :: flags
    | c :: rest => c :: dateText t nanos fuel rest

/-- The time that a text names: seconds behind an at sign, or a day with a
time. -/
def dateFrom? (now : Int) (text : String) : Option Int :=
  let s := String.ofList ((text.toList.dropWhile isSpaceChar).reverse.dropWhile isSpaceChar).reverse
  let numbers (separator : Char) (s : List Char) : Option (List Nat) :=
    (s.splitOn separator).mapM fun part => count? (String.ofList part)
  let dayOf (s : List Char) : Option Int :=
    match numbers '-' s with
    | some [y, m, d] =>
      if Calendar.isDay y m d then some (daysFromCivil y m d) else none
    | _ => none
  let timeOf (s : List Char) : Option Nat :=
    let s := if s.getLast? == some 'Z' then s.dropLast else s
    match numbers ':' s with
    | some [h, m] => if h < 24 && m < 60 then some (h * 3600 + m * 60) else none
    | some [h, m, sec] => if h < 24 && m < 60 && sec < 61 then some (h * 3600 + m * 60 + sec) else none
    | _ => none
  match s.toList with
  | '@' :: '-' :: rest => (count? (String.ofList rest)).map fun n => -(n : Int)
  | '@' :: rest => (count? (String.ofList rest)).map fun n => (n : Int)
  | cs =>
    if s.isEmpty then some (now.fdiv 86400 * 86400)
    else if s == "now" || s == "today" then some now
    else if s == "yesterday" then some (now - 86400)
    else if s == "tomorrow" then some (now + 86400)
    else
      let day := cs.takeWhile fun c => c != ' ' && c != 'T'
      let time := cs.drop (day.length + 1)
      match dayOf day with
      | some d => if time.isEmpty then some (d * 86400) else (timeOf time).map fun t => d * 86400 + t
      | none => none

def dateOptions : Options where
  letters := "d:f:I::r:Rs:u\x01:"
  names := [("date", 'd'), ("file", 'f'), ("iso-8601", 'I'), ("reference", 'r'),
    ("rfc-email", 'R'), ("rfc-2822", 'R'), ("set", 's'), ("utc", 'u'), ("universal", 'u'),
    ("rfc-3339", '\x01')]

/-- The tool `date`. -/
def date : Doing Unit := do
  let p ← dateOptions.parsed
  let c ← Doing.call
  let now : Int := startSecond + c.clock / 1000000
  let nanos := c.clock % 1000000 * 1000
  let (seconds, nanos) ← match p.last? 'd' with
    | none => pure (now, nanos)
    | some text =>
      match dateFrom? now text with
      | some t => pure (t, 0)
      | none => do
        Doing.complain ("invalid date " ++ quotedText text)
        Doing.quit 1
  let standard :=
    if p.has 'R' then "%a, %d %b %Y %H:%M:%S %z"
    else match p.last? 'I', p.last? '\x01' with
      | some "seconds", _ => "%Y-%m-%dT%H:%M:%S+00:00"
      | some _, _ => "%Y-%m-%d"
      | none, some "date" => "%Y-%m-%d"
      | none, some _ => "%Y-%m-%d %H:%M:%S+00:00"
      | none, none => "%a %b %e %H:%M:%S %Z %Y"
  let format ← match p.operands with
    | [] => pure standard
    | [w] =>
      match w.toList with
      | '+' :: format => pure (String.ofList format)
      | _ => do
        Doing.complain ("invalid date " ++ quotedText w)
        Doing.quit 1
    | _ :: extra :: _ => Doing.misuse ("extra operand " ++ quotedText extra)
  let t := ClockTime.ofSeconds seconds
  Doing.writeLine (String.ofList (dateText t nanos (12 * format.length + 64) format.toList))

end ProxySync.Tool
