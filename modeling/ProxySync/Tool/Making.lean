import ProxySync.Tool.Tree
import ProxySync.Tool.Words

/-!
# Files that tools make

The tools that write files or change what is known of them: `tee`, `mktemp`,
`truncate`, `chown` and `chgrp`.
-/

namespace ProxySync.Tool

open Files

/-! ## tee -/

/-- The mode of a new file. -/
def newFileMode (mask : Nat) : Nat := Nat.land 0o666 (Nat.xor 0o777 mask)

/-- The tool `tee`. -/
def tee : Doing Unit := do
  let p ← ({
    letters := "aip\x01::"
    names := [("append", 'a'), ("ignore-interrupts", 'i'), ("output-error", '\x01')] } : Options).parsed
  let c ← Doing.call
  let text ← Doing.input
  Doing.write text
  for path in p.operands do
    let put (d : Disk) : Except IoFault Disk := do
      let old := if p.has 'a' then
        match fileText d c.place path with
        | .ok s => s
        | .error _ => ""
      else ""
      d.write (pathOf path) (.ofOctets (old ++ text)) (newFileMode c.mask) c.place
    match ← Doing.onDisk put with
    | .ok () => pure ()
    | .error e => Doing.refuse (path ++ ": " ++ e.reason)

/-! ## mktemp -/

/-- Some letters and digits that depend on a number. -/
def nameLetters (count seed : Nat) : String :=
  let alphabet := "abcdefghijklmnopqrstuvwxyzABCDEFGHIJKLMNOPQRSTUVWXYZ0123456789".toList
  String.ofList ((List.range count).map fun i =>
    (alphabet[(seed * 7919 + i * 104729 + seed / (i + 1)) % 62]?).getD 'a')

/-- The tool `mktemp`. -/
def mktemp : Doing Unit := do
  let p ← ({
    letters := "dp:qtuV\x01:\x02::"
    names := [("directory", 'd'), ("dry-run", 'u'), ("quiet", 'q'), ("suffix", '\x01'),
      ("tmpdir", '\x02')] } : Options).parsed
  let c ← Doing.call
  match p.operands with
  | _ :: _ :: _ => Doing.misuse "too many templates"
  | _ => pure ()
  let template := p.operands.headD "tmp.XXXXXXXXXX"
  let standard := (c.environment.lookup "TMPDIR").getD "/tmp"
  let standard := if standard.isEmpty then "/tmp" else standard
  let named? := (p.last? 'p').orElse fun () => p.last? '\x02'
  let folder? :=
    if p.has 't' then some ((c.environment.lookup "TMPDIR").getD (named?.getD "/tmp"))
    else match named? with
      | some f => some (if f.isEmpty then standard else f)
      | none => if p.operands.isEmpty then some standard else none
  let fail {α : Type} (s : String) : Doing α := do
    if !p.has 'q' then Doing.complain s
    Doing.quit 1
  let chars := template.toList
  let suffixGiven := (p.last? '\x01').getD ""
  if p.has '\x01' && chars.getLast? != some 'X' then
    fail ("with --suffix, template " ++ quotedText template ++ " must end in X")
  let tail := (chars.reverse.takeWhile (· != 'X')).reverse
  let front := chars.take (chars.length - tail.length)
  let marks := (front.reverse.takeWhile (· == 'X')).length
  if marks < 3 then fail ("too few X's in template " ++ quotedText template)
  let suffix := if p.has '\x01' then suffixGiven else String.ofList tail
  if suffix.toList.contains '/' then
    fail ("invalid suffix " ++ quotedText suffix ++ ", contains directory separator")
  let stem := String.ofList (front.take (front.length - marks))
  let path (seed : Nat) : String :=
    let name := stem ++ nameLetters marks seed ++ suffix
    match folder? with
    | some f => child f name
    | none => name
  let d := (← get).disk
  let seed := ((List.range 64).find? fun i =>
    !(d.lookup (pathOf (path (d.nextNumber + d.nodes.length + i))) false c.place).isOk).getD 0
  let path := path (d.nextNumber + d.nodes.length + seed)
  if p.has 'u' then Doing.writeLine path
  else
    let made ← Doing.onDisk fun d =>
      if p.has 'd' then d.makeFolder (pathOf path) 0o700 c.place
      else d.write (pathOf path) (.text "") 0o600 c.place
    match made with
    | .ok () => Doing.writeLine path
    | .error e =>
      let shown := match folder? with
        | some f => child f template
        | none => template
      let kind := if p.has 'd' then "directory" else "file"
      fail ("failed to create " ++ kind ++ " via template " ++ quotedText shown ++ ": " ++ e.reason)

/-! ## truncate -/

/-- How a size follows from the size that a file has. -/
def newSize (mark : Option Char) (n old : Nat) : Nat :=
  match mark with
  | some '+' => old + n
  | some '-' => old - n
  | some '<' => min old n
  | some '>' => max old n
  | some '/' => if n == 0 then old else old / n * n
  | some '%' => if n == 0 then old else (old + n - 1) / n * n
  | _ => n

/-- How large files may become. -/
def sizeLimit : Nat := 67108864

/-- The tool `truncate`. -/
def truncate : Doing Unit := do
  let p ← ({
    letters := "cor:s:"
    names := [("no-create", 'c'), ("io-blocks", 'o'), ("reference", 'r'), ("size", 's')] } : Options).parsed
  let c ← Doing.call
  if !p.has 's' && !p.has 'r' then
    Doing.misuse "you must specify either '--size' or '--reference'"
  if p.operands.isEmpty then Doing.misuse "missing file operand"
  let reference ← match p.last? 'r' with
    | none => pure 0
    | some path => do
      match ← operandText path with
      | .ok s => pure s.length
      | .error e => do
        Doing.complain ("cannot stat " ++ quotedText path ++ ": " ++ e.reason)
        Doing.quit 1
  let (mark, n) ← match p.last? 's' with
    | none => pure (none, reference)
    | some text => do
      let s := text.toList.dropWhile isSpaceChar
      let mark := s.head?.filter fun c => "+-<>/%".toList.contains c
      let rest := if mark.isSome then s.tail else s
      match sizeOf? (String.ofList rest) with
      | some n => pure (mark, n)
      | none => do
        Doing.complain ("Invalid number: " ++ quotedText text)
        Doing.quit 1
  for path in p.operands do
    let there ← Doing.look fun d place => (d.lookup (pathOf path) true place).isOk
    if there || !p.has 'c' then
      let put (d : Disk) : Except IoFault Disk := do
        let old := match fileText d c.place path with
          | .ok s => s.toList
          | .error _ => []
        let size := newSize mark n (if mark.isSome && p.has 'r' then reference else old.length)
        if sizeLimit < size then .error .noSpace
        else
          let text := old.take size ++ List.replicate (size - old.length) '\x00'
          d.write (pathOf path) (.ofOctets (String.ofList text)) (newFileMode c.mask) c.place
      match ← Doing.onDisk put with
      | .ok () => pure ()
      | .error .noSpace =>
        Doing.refuse ("failed to truncate " ++ quotedText path ++ " at " ++ toString n ++
          " bytes: File too large")
      | .error e => Doing.refuse ("cannot open " ++ quotedText path ++ " for writing: " ++ e.reason)

/-! ## chown, chgrp -/

/-- The users and groups that every system has. -/
def systemUsers : List String :=
  ["root", "daemon", "bin", "sys", "sync", "games", "man", "lp", "mail", "news", "uucp", "proxy",
    "www-data", "backup", "list", "irc", "_apt", "nobody"]

def systemGroups : List String :=
  ["root", "daemon", "bin", "sys", "adm", "tty", "disk", "lp", "mail", "news", "uucp", "man",
    "proxy", "kmem", "dialout", "fax", "voice", "cdrom", "floppy", "tape", "sudo", "audio", "dip",
    "www-data", "backup", "operator", "list", "irc", "src", "shadow", "utmp", "video", "sasl",
    "plugdev", "staff", "games", "users", "nogroup"]

def isKnown (names : List String) (name : String) : Bool :=
  names.contains name || (count? name).isSome

/-- Who an owner with a group is, if both are known. -/
def ownerFault? (text : String) : Option String :=
  let separator := if text.toList.contains ':' then ':' else '.'
  let user := String.ofList (text.toList.takeWhile (· != separator))
  let group := String.ofList ((text.toList.dropWhile (· != separator)).drop 1)
  if !user.isEmpty && !isKnown systemUsers user then some ("invalid user: " ++ quotedText text)
  else if !group.isEmpty && !isKnown systemGroups group then
    some ("invalid group: " ++ quotedText text)
  else none

/-- Gives files to an owner or a group. Nobody looks at whom they belong to,
so only the words and the files are checked. -/
def giveFiles (fault? : String → Option String) : Doing Unit := do
  let p ← ({
    letters := "cfhvRHLP\x01:\x02:\x03\x04"
    names := [("changes", 'c'), ("silent", 'f'), ("quiet", 'f'), ("verbose", 'v'),
      ("no-dereference", 'h'), ("recursive", 'R'), ("from", '\x01'), ("reference", '\x02'),
      ("preserve-root", '\x03'), ("dereference", '\x04')] } : Options).parsed
  let fail (s : String) : Doing Unit := do
    Doing.complain s
    Doing.quit 1
  let files ← match p.has '\x02', p.operands with
    | true, [] => Doing.misuse "missing operand"
    | true, files => pure files
    | false, [] => Doing.misuse "missing operand"
    | false, [one] => Doing.misuse ("missing operand after " ++ quotedText one)
    | false, owner :: files => do
      match fault? owner with
      | some s => fail s
      | none => pure ()
      pure files
  for path in files do
    match ← Doing.look fun d place => d.lookup (pathOf path) (!p.has 'h') place with
    | .ok _ => pure ()
    | .error e =>
      if p.has 'f' then Doing.fail 1
      else Doing.refuse ("cannot access " ++ quotedText path ++ ": " ++ e.reason)

/-- The tool `chown`. -/
def chown : Doing Unit := giveFiles ownerFault?

/-- The tool `chgrp`. -/
def chgrp : Doing Unit :=
  giveFiles fun group =>
    if group.isEmpty || isKnown systemGroups group then none
    else some ("invalid group: " ++ quotedText group)

end ProxySync.Tool
