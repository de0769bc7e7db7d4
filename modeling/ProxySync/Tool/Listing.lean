import ProxySync.Tool.Copy
import ProxySync.Tool.Program
import ProxySync.Tool.Words
import ProxySync.Text.Pattern

/-!
# What tools tell about files

The names in folders, what kind of file something is, and where a path leads:
`ls`, `stat`, `du`, `readlink`, `realpath`, `which` and `pwd`. Everything
belongs to one user, and the times of files are not kept.
-/

namespace ProxySync.Tool

open Files

/-! ## Nodes -/

def modeOf (d : Disk) : Node → Nat
  | .file n => ((d.file? n).map (·.mode)).getD 0o644
  | .folder mode => mode
  | .link _ => 0o777
  | .device _ => 0o666

/-- The size in octets. Folders are told to be of one block. -/
def sizeOfNode (d : Disk) : Node → Nat
  | .file n => ((d.file? n).map fun f => f.content.octets.length).getD 0
  | .folder _ => 4096
  | .link target => target.utf8ByteSize
  | .device _ => 0

def blockSize : Nat := 4096

/-- How many blocks of 1024 octets a node takes. -/
def blocksOf (d : Disk) (n : Node) : Nat :=
  match n with
  | .link _ | .device _ => 0
  | n => ((sizeOfNode d n + blockSize - 1) / blockSize) * (blockSize / 1024)

def typeLetter : Node → String
  | .file _ => "-"
  | .folder _ => "d"
  | .link _ => "l"
  | .device _ => "c"

/-- How many names a node has. -/
def linkCount (d : Disk) (place : Place) : Node → Nat
  | .file n => (d.nodes.filter fun (_, m) => m == .file n).length
  | .folder _ => 2 + (d.nodes.filter fun (q, m) => isBelow q m).length
  | _ => 1
where
  isBelow (q : Place) : Node → Bool
    | .folder _ => !q.isEmpty && q.dropLast == place
    | _ => false

/-- The absolute path of a place. -/
def pathText (p : Place) : String := Text.toOctets ("/" ++ "/".intercalate p)

/-! ## ls -/

structure ListManner where
  all : Bool
  almostAll : Bool
  long : Bool
  numeric : Bool
  hidesOwner : Bool
  hidesGroup : Bool
  reversed : Bool
  bySize : Bool
  blocks : Bool
  human : Bool
  numbers : Bool
  quoted : Bool
  /-- What stands behind names: nothing, a slash behind folders, or a mark for
  every kind. -/
  marks : Option Char
  recursive : Bool
  commas : Bool
  across : Bool
  ignored : List String
  hidden : List String

/-- A name with what it stands for. -/
structure Entry where
  name : String
  place : Place
  node : Node

/-- A size with a unit, rounded up. -/
def humanSize (n : Nat) : String :=
  let rec go : List String → Nat → String
    | [], scale => toString (n / scale)
    | unit :: units, scale =>
      if n < scale * 1024 || units.isEmpty then
        if unit.isEmpty then toString n
        else
          let tenths := (n * 10 + scale - 1) / scale
          if tenths < 100 then toString (tenths / 10) ++ "." ++ toString (tenths % 10) ++ unit
          else toString ((n + scale - 1) / scale) ++ unit
      else go units (scale * 1024)
  go ["", "K", "M", "G", "T"] 1

def markOf (d : Disk) (kind : Option Char) (n : Node) : String :=
  match kind, n with
  | none, _ => ""
  | _, .folder _ => "/"
  | some 'p', _ => ""
  | _, .link _ => "@"
  | _, .file _ => if modeOf d n &&& 0o111 != 0 then "*" else ""
  | _, .device _ => ""

def shownName (d : Disk) (m : ListManner) (e : Entry) : String :=
  (if m.quoted then "\"" ++ e.name ++ "\"" else e.name) ++ markOf d m.marks e.node

/-- The lines of a long list. -/
def longLines (d : Disk) (m : ListManner) (es : List Entry) : List String :=
  let fields (e : Entry) : List String :=
    let size := sizeOfNode d e.node
    let owner := if m.numeric then "0" else "root"
    (if m.numbers then ["1"] else []) ++ (if m.blocks then [toString (blocksOf d e.node)] else []) ++
      [typeLetter e.node ++ modeLetters (modeOf d e.node), toString (linkCount d e.place e.node)] ++
      (if m.hidesOwner then [] else [owner]) ++ (if m.hidesGroup then [] else [owner]) ++
      [if m.human then humanSize size else toString size]
  let rows := es.map fields
  let width (i : Nat) : Nat := (rows.map fun r => (r.getD i "").length).foldl max 0
  (es.zip rows).map fun (e, row) =>
    let shown := row.zipIdx.map fun (f, i) =>
      if f == "root" then padRight (width i) f else padLeft (width i) f
    let target := match e.node with
      | .link to_ => " -> " ++ Text.toOctets to_
      | _ => ""
    let name := match e.node with
      | .link _ => if m.quoted then "\"" ++ e.name ++ "\"" else e.name
      | _ => shownName d m e
    " ".intercalate shown ++ " Jan  1 00:00 " ++ name ++ target

def listText (d : Disk) (m : ListManner) (es : List Entry) : String :=
  let es := if m.bySize then es.mergeSort fun a b => sizeOfNode d b.node ≤ sizeOfNode d a.node else es
  let es := if m.reversed then es.reverse else es
  if m.long then String.join ((longLines d m es).map (· ++ "\n"))
  else
    let size (e : Entry) : String :=
      if m.human then humanSize (1024 * blocksOf d e.node) else toString (blocksOf d e.node)
    let width := (es.map fun e => (size e).length).foldl max 0
    let texts := es.map fun e =>
      (if m.numbers then "1 " else "") ++ (if m.blocks then padLeft width (size e) ++ " " else "") ++
        shownName d m e
    if es.isEmpty then ""
    else if m.commas then ", ".intercalate texts ++ "\n"
    else if m.across then "  ".intercalate texts ++ "\n"
    else String.join (texts.map (· ++ "\n"))

/-- The entries of a folder that are shown. -/
def entriesOf (d : Disk) (m : ListManner) (place : Place) : List Entry :=
  let fits (name pattern : String) : Bool :=
    Text.matchesGlob (Text.globOf (pattern.toList.map fun c => (c, false))) name.toList
  let isShown (name : String) : Bool :=
    (m.all || m.almostAll || (!name.startsWith "." && !m.hidden.any (fits name))) &&
      !m.ignored.any (fits name)
  let own := ((sortedNames d place).filter isShown).filterMap fun name =>
    let q := place ++ [Text.ofOctets name]
    (d.node? q).map fun n => (⟨name, q, n⟩ : Entry)
  if m.all then
    let dots := [("." , place), ("..", place.dropLast)].filterMap fun (name, q) =>
      (d.node? q).map fun n => (⟨name, q, n⟩ : Entry)
    dots ++ own
  else own

def folderText (d : Disk) (m : ListManner) (place : Place) : String :=
  let es := entriesOf d m place
  let total := (es.map fun e => blocksOf d e.node).foldl (· + ·) 0
  (if m.long || m.blocks then
      "total " ++ (if m.human then humanSize (1024 * total) else toString total) ++ "\n" else "") ++
    listText d m es

def listOptions : Options where
  letters := "aAbBcCdDfFgGhHI:iklLmnNopqQrRsStuUvw:T:xX1Z\x01::\x02:\x03:\x04\x05:\x06:"
  names := [("all", 'a'), ("almost-all", 'A'), ("directory", 'd'), ("classify", 'F'),
    ("no-group", 'G'), ("human-readable", 'h'), ("ignore", 'I'), ("inode", 'i'),
    ("dereference", 'L'), ("numeric-uid-gid", 'n'), ("quote-name", 'Q'), ("reverse", 'r'),
    ("recursive", 'R'), ("size", 's'), ("color", '\x01'), ("hide", '\x02'), ("sort", '\x03'),
    ("group-directories-first", '\x04'), ("format", '\x05'), ("time-style", '\x06')]

/-- The folders at and below a place that are listed. -/
def foldersBelow (d : Disk) (m : ListManner) : (fuel : Nat) → String → Place → List (String × Place)
  | 0, _, _ => []
  | fuel + 1, path, place =>
    (path, place) :: (if m.recursive then
      (entriesOf d { m with all := false, almostAll := m.all || m.almostAll } place).flatMap fun e =>
        match e.node with
        | .folder _ => foldersBelow d m fuel (child path e.name) e.place
        | _ => []
    else [])

/-- What stands at a path; a link that leads nowhere stands for itself. -/
def lookupEither (d : Disk) (follow : Bool) (place : Place) (path : String) :
    Except IoFault (Place × Node) :=
  match d.lookup (pathOf path) follow place, d.lookup (pathOf path) false place with
  | .ok r, _ => .ok r
  | .error _, .ok r => .ok r
  | .error e, .error _ => .error e

/-- The tool `ls`. -/
def ls : Doing Unit := do
  let p ← listOptions.parsed 2
  let shape := p.lastOf ['l', 'n', 'o', 'g', '1', 'm', 'x', 'C']
  let long := ['l', 'n', 'o', 'g'].any p.has && !(shape == some 'm' || shape == some 'x' || shape == some 'C')
  let m : ListManner := {
    all := p.lastOf ['a', 'A', 'f'] == some 'a' || p.has 'f'
    almostAll := p.lastOf ['a', 'A'] == some 'A'
    long := long
    numeric := p.has 'n'
    hidesOwner := p.has 'g'
    hidesGroup := p.has 'o' || p.has 'G'
    reversed := p.has 'r'
    bySize := p.has 'S' || p.last? '\x03' == some "size"
    blocks := p.has 's'
    human := p.has 'h'
    numbers := p.has 'i'
    quoted := p.has 'Q'
    marks := p.lastOf ['F', 'p']
    recursive := p.has 'R'
    commas := shape == some 'm'
    across := shape == some 'x' || shape == some 'C'
    ignored := p.all 'I'
    hidden := p.all '\x02' }
  let follows := !(long || p.has 'd' || p.has 'F') || p.has 'L' || p.has 'H'
  let operands := (if p.operands.isEmpty then ["."] else p.operands).mergeSort fun a b => a ≤ b
  let mut files : List Entry := []
  let mut folders : List (String × Place) := []
  for path in operands do
    match ← Doing.look fun d place => lookupEither d follows place path with
    | .error e => Doing.refuse ("cannot access " ++ quotedText path ++ ": " ++ e.reason) 2
    | .ok (place, node) =>
      if isFolderNode node && !p.has 'd' then folders := folders ++ [(path, place)]
      else files := files ++ [⟨path, place, node⟩]
  let d := (← get).disk
  Doing.write (listText d m files)
  let headed := m.recursive || 1 < p.operands.length
  let listed := folders.flatMap fun (path, place) => foldersBelow d m depthLimit path place
  for ((path, place), i) in listed.zipIdx do
    if headed then
      Doing.write ((if i == 0 && files.isEmpty then "" else "\n") ++ path ++ ":\n")
    Doing.write (folderText d m place)
where
  isFolderNode : Node → Bool
    | .folder _ => true
    | _ => false

/-! ## stat -/

/-- What a file is called. -/
def kindText (d : Disk) (n : Node) : String :=
  match n with
  | .file _ => if sizeOfNode d n == 0 then "regular empty file" else "regular file"
  | .folder _ => "directory"
  | .link _ => "symbolic link"
  | .device _ => "character special file"

def kindBits : Node → Nat
  | .file _ => 0o100000
  | .folder _ => 0o040000
  | .link _ => 0o120000
  | .device _ => 0o020000

/-- What a letter in a format stands for. -/
def statField (d : Disk) (path : String) (place : Place) (n : Node) : Char → String
  | 'a' => String.ofList (Nat.toDigits 8 (modeOf d n))
  | 'A' => typeLetter n ++ modeLetters (modeOf d n)
  | 'b' => toString (2 * blocksOf d n)
  | 'B' => "512"
  | 'f' => String.ofList (Nat.toDigits 16 (kindBits n + modeOf d n))
  | 'F' => kindText d n
  | 'g' | 'u' => "0"
  | 'G' | 'U' => "root"
  | 'h' => toString (linkCount d place n)
  | 'n' => path
  | 'N' =>
    match n with
    | .link target => "'" ++ path ++ "' -> '" ++ Text.toOctets target ++ "'"
    | _ => "'" ++ path ++ "'"
  | 'o' => "4096"
  | 's' => toString (sizeOfNode d n)
  | 'i' => match n with
    | .file k => toString (1000 + k)
    | _ => "1"
  | 'X' | 'Y' | 'Z' | 'W' => "0"
  | '%' => "%"
  | _ => "?"

/-- Fills in a format; with `escapes`, backslashes are read too. -/
def fillStat (field : Char → String) (escapes : Bool) : (fuel : Nat) → List Char → List Char
  | 0, _ => []
  | fuel + 1, s =>
    match s with
    | [] => []
    | '%' :: rest =>
      let layout := rest.takeWhile fun c => c.isDigit || c == '-' || c == '.' || c == '#'
      match rest.drop layout.length with
      | c :: rest =>
        let width := (count? (String.ofList (layout.filter Char.isDigit))).getD 0
        let text := if layout.head? == some '-' then padRight width (field c) else padLeft width (field c)
        text.toList ++ fillStat field escapes fuel rest
      | [] => '%' :: layout
    | '\\' :: rest =>
      if escapes then
        let (c, rest) := readEscape rest
        c :: fillStat field escapes fuel rest
      else '\\' :: fillStat field escapes fuel rest
    | c :: rest => c :: fillStat field escapes fuel rest

def statOptions : Options where
  letters := "c:Lft\x01:"
  names := [("format", 'c'), ("dereference", 'L'), ("file-system", 'f'), ("terse", 't'),
    ("printf", '\x01')]

/-- The tool `stat`. -/
def stat : Doing Unit := do
  let p ← statOptions.parsed
  if p.operands.isEmpty then Doing.misuse "missing operand"
  else
    for path in p.operands do
      match ← Doing.look fun d place => d.lookup (pathOf path) (p.has 'L' || p.has 'f') place with
      | .error e =>
        Doing.refuse ((if p.has 'f' then "cannot read file system information for "
          else "cannot statx ") ++ quotedText path ++ ": " ++ e.reason)
      | .ok (place, node) =>
        let d := (← get).disk
        let field := statField d path place node
        let fill (escapes : Bool) (format : String) : String :=
          String.ofList (fillStat field escapes (format.length + 1) format.toList)
        match p.last? '\x01', p.last? 'c' with
        | some format, _ => Doing.write (fill true format)
        | none, some format => Doing.writeLine (fill false format)
        | none, none =>
          Doing.write (fill false ("  File: %N\n  Size: %-10s\tBlocks: %-10b IO Block: %-6o %F\n" ++
            "Device: 0,0\tInode: %-10i  Links: %h\nAccess: (0%a/%A)  Uid: (    0/    root)   " ++
            "Gid: (    0/    root)\n"))

/-! ## du -/

def usageOptions : Options where
  letters := "0abchHkLlmPsSxd:\x01:"
  names := [("all", 'a'), ("bytes", 'b'), ("apparent-size", 'A'), ("total", 'c'),
    ("human-readable", 'h'), ("summarize", 's'), ("max-depth", 'd')]

/-- The tool `du`. -/
def du : Doing Unit := do
  let p ← usageOptions.parsed
  let mut total := 0
  let shown (octets : Bool) (n : Nat) : String :=
    if p.has 'h' then humanSize (if octets then n else n * 1024)
    else if p.has 'm' then toString ((n + 1023) / 1024)
    else toString n
  for path in (if p.operands.isEmpty then ["."] else p.operands) do
    match ← Doing.look fun d place => visits d place path false with
    | .error e => Doing.refuse ("cannot access " ++ quotedText path ++ ": " ++ e.reason)
    | .ok vs =>
      let d := (← get).disk
      let size (n : Node) : Nat := if p.has 'b' then sizeOfNode d n else blocksOf d n
      let sumBelow (place : Place) : Nat :=
        ((vs.filter fun v => place.isPrefixOf v.place).map fun v => size v.node).foldl (· + ·) 0
      let limit := if p.has 's' then some 0 else (p.last? 'd').bind count?
      let isShown (v : Visit) : Bool :=
        v.depth == 0 || (limit.all (v.depth ≤ ·) && (p.has 'a' || (match v.node with
          | .folder _ => true
          | _ => false)))
      for v in vs.reverse do
        if isShown v then
          Doing.writeLine (shown (p.has 'b') (sumBelow v.place) ++ "\t" ++ v.path)
      total := total + ((vs.map fun v => size v.node).foldl (· + ·) 0)
  if p.has 'c' then Doing.writeLine (shown (p.has 'b') total ++ "\ttotal")

/-! ## Where paths lead -/

/-- How much of a path must be there. -/
inductive Presence where
  | all
  | allButLast
  | nothing
deriving DecidableEq

/-- The place that a path leads to; what is missing is taken as it is written. -/
def canonical (d : Disk) (place : Place) (presence : Presence) (path : String) :
    Except IoFault Place :=
  let path := if endsInSlash path && presence != .all then
    String.ofList (withoutSlashes path.toList) else path
  let path := if path.isEmpty then "/" else path
  match presence, d.locate (pathOf path) true place with
  | .all, .ok spot => if spot.node.isSome then .ok spot.place else .error .notFound
  | _, .ok spot => .ok spot.place
  | .nothing, .error _ =>
    let start := if isAbsolute path then [] else place
    .ok ((steps (pathOf path)).foldl (fun at_ step =>
      if step == "." then at_
      else if step == ".." then at_.dropLast
      else
        match d.locate step true at_ with
        | .ok spot => spot.place
        | .error _ => at_ ++ [step]) start)
  | _, .error e => .error e

/-- The tool `readlink`. -/
def readlink : Doing Unit := do
  let p ← ({
    letters := "efmnqsvz"
    names := [("canonicalize", 'f'), ("canonicalize-existing", 'e'), ("canonicalize-missing", 'm'),
      ("no-newline", 'n'), ("quiet", 'q'), ("silent", 's'), ("verbose", 'v'),
      ("zero", 'z')] } : Options).parsed
  if p.operands.isEmpty then Doing.misuse "missing operand"
  let ending := if p.has 'n' && p.operands.length == 1 then "" else p.mark.toString
  for path in p.operands do
    let failed (e : IoFault) : Doing Unit := do
      if p.has 'v' then Doing.complain (path ++ ": " ++ e.reason)
      Doing.fail 1
    if path.isEmpty then failed .notFound
    else
      match p.lastOf ['e', 'f', 'm'] with
      | some letter =>
        let presence := if letter == 'e' then Presence.all
          else if letter == 'f' then .allButLast else .nothing
        match ← Doing.look fun d place => canonical d place presence path with
        | .ok place => Doing.write (pathText place ++ ending)
        | .error e => failed e
      | none =>
        match ← Doing.look fun d place => d.lookup (pathOf path) false place with
        | .ok (_, .link target) => Doing.write (Text.toOctets target ++ ending)
        | .ok _ => failed .invalidArgument
        | .error e => failed e

/-- The path from one place to another. -/
def pathBetween (source target : Place) : String :=
  let common := ((source.zip target).takeWhile fun (a, b) => a == b).length
  let parts := List.replicate (source.length - common) ".." ++ target.drop common
  if parts.isEmpty then "." else Text.toOctets ("/".intercalate parts)

/-- The tool `realpath`. -/
def realpath : Doing Unit := do
  let p ← ({
    letters := "emLPqsz\x01:\x02:"
    names := [("canonicalize-existing", 'e'), ("canonicalize-missing", 'm'), ("logical", 'L'),
      ("physical", 'P'), ("quiet", 'q'), ("strip", 's'), ("no-symlinks", 's'), ("zero", 'z'),
      ("relative-to", '\x01'), ("relative-base", '\x02')] } : Options).parsed
  if p.operands.isEmpty then Doing.misuse "missing operand"
  let presence := match p.lastOf ['e', 'm'] with
    | some 'e' => Presence.all
    | some _ => .nothing
    | none => .allButLast
  let resolve (path : String) : Doing (Except IoFault Place) :=
    Doing.look fun d place =>
      if path.isEmpty then .error .notFound
      else if p.has 's' then
        .ok ((steps (pathOf path)).foldl (fun at_ step =>
          if step == "." then at_ else if step == ".." then at_.dropLast else at_ ++ [step])
          (if isAbsolute path then [] else place))
      else canonical d place presence path
  for path in p.operands do
    match ← resolve path with
    | .error e =>
      if !p.has 'q' then Doing.complain (path ++ ": " ++ e.reason)
      Doing.fail 1
    | .ok place =>
      let text ← match p.last? '\x01' with
        | none => pure (pathText place)
        | some base => do
          match ← resolve base with
          | .ok source => pure (pathBetween source place)
          | .error _ => pure (pathText place)
      Doing.write (text ++ p.mark.toString)

/-- The tool `which`. -/
def which : Doing Unit := do
  let p ← ({ letters := "as", anywhere := false } : Options).parsed 2
  let c ← Doing.call
  let d := (← get).disk
  if p.operands.isEmpty then Doing.fail 1
  for name in p.operands do
    let paths := (candidatePaths (searchPathOf c.environment) name).filter fun path =>
      (executable d c.place path).isOk
    let paths := if p.has 'a' then paths else paths.take 1
    if paths.isEmpty then Doing.fail 1
    for path in paths do
      if !p.has 's' then Doing.writeLine path

/-- The tool `pwd`. -/
def pwdTool : Doing Unit := do
  let p ← ({ letters := "LP", names := [("logical", 'L'), ("physical", 'P')] } : Options).parsed
  let c ← Doing.call
  let logical? := c.environment.lookup "PWD"
  match p.lastOf ['L', 'P'], logical? with
  | some 'L', some path =>
    match ← Doing.look fun d _ => d.lookup (pathOf path) true [] with
    | .ok (place, _) => Doing.writeLine (if place == c.place then path else pathText c.place)
    | .error _ => Doing.writeLine (pathText c.place)
  | _, _ => Doing.writeLine (pathText c.place)

end ProxySync.Tool
