import ProxySync.Files.Mode
import ProxySync.Tool.Tree

/-!
# Copying, moving and removing files

The tools that change the tree of files: `cp`, `mv`, `rm`, `rmdir`, `mkdir`,
`touch`, `ln`, `chmod` and `install`.
-/

namespace ProxySync.Tool

open Files

/-! ## Where things go -/

/-- The operands of a tool that puts files somewhere. -/
structure Targets where
  sources : List String
  target : String
  /-- The target is a folder that the files are put into. -/
  isFolder : Bool

/-- The name that a file has inside a folder it is put into. -/
def ownName (path : String) : String := (steps path).getLast?.getD path

def Targets.of (p : Parsed) (missing : String := "missing file operand") : Doing Targets := do
  let isFolder (path : String) : Doing Bool :=
    Doing.look fun d place => d.isFolder (pathOf path) place
  match p.last? 't', p.operands with
  | some folder, sources =>
    if sources.isEmpty then Doing.misuse missing
    else
      match ← Doing.look fun d place => d.lookup (pathOf folder) true place with
      | .ok (_, .folder _) => pure ⟨sources, folder, true⟩
      | .ok _ => do
        Doing.complain ("target directory " ++ quotedText folder ++ ": Not a directory")
        Doing.quit 1
      | .error e => do
        Doing.complain ("target directory " ++ quotedText folder ++ ": " ++ e.reason)
        Doing.quit 1
  | none, [] => Doing.misuse missing
  | none, [one] => Doing.misuse ("missing destination file operand after " ++ quotedText one)
  | none, operands =>
    let target := operands.getLast?.getD ""
    let sources := operands.dropLast
    if p.has 'T' then
      match sources with
      | [_] => pure ⟨sources, target, false⟩
      | _ => Doing.misuse ("extra operand " ++ quotedText ((operands[2]?).getD ""))
    else if ← isFolder target then pure ⟨sources, target, true⟩
    else if sources.length == 1 then pure ⟨sources, target, false⟩
    else
      let reason ← Doing.look fun d place => match d.lookup (pathOf target) true place with
        | .ok _ => IoFault.notADirectory.reason
        | .error e => e.reason
      Doing.complain ("target " ++ quotedText target ++ ": " ++ reason)
      Doing.quit 1

/-- The path that a source goes to. -/
def Targets.pathFor (t : Targets) (source : String) : String :=
  if t.isFolder then child t.target (ownName source) else t.target

/-- The nodes are one file. -/
def isSame (p q : Place) (a b : Node) : Bool :=
  p == q || (match a, b with
    | .file m, .file n => m == n
    | _, _ => false)

/-! ## Copying -/

structure CopyManner where
  recursive : Bool
  /-- Links inside folders stay links. -/
  keepLinks : Bool
  followFirst : Bool
  keepModes : Bool
  force : Bool
  skip : Bool
  tells : Bool
  moves : Bool := false

/-- Copies one file, whose node is known. -/
def copyFile (m : CopyManner) (source target : String) (p : Place) (node : Node) :
    Doing Unit := do
  let c ← Doing.call
  let j ← get
  let d := j.disk
  let content : Content × Nat := match node with
    | .file n => ((d.file? n).map fun f => (f.content, f.mode)).getD (.text "", 0o644)
    | _ => (.text "", 0o666)
  let mode := if m.keepModes then content.2 else Nat.land content.2 (Nat.xor 0o777 c.mask)
  let put : Doing Unit := do
    match ← Doing.onDisk fun d => d.write (pathOf target) content.1 mode c.place with
    | .ok () => do
      if m.keepModes then
        let _ ← Doing.onDisk fun d => d.setMode (pathOf target) mode c.place
      if m.tells then Doing.writeLine (quotedText source ++ " -> " ++ quotedText target)
    | .error e =>
      Doing.refuse ("cannot create regular file " ++ quotedText target ++ ": " ++
        (if e == .isADirectory then "Not a directory" else e.reason))
  match d.lookup (pathOf target) true c.place with
  | .ok (q, old) =>
    if isSame p q node old then
      Doing.refuse (quotedText source ++ " and " ++ quotedText target ++ " are the same file")
    else if m.skip then pure ()
    else
      match old with
      | .folder _ => Doing.refuse ("cannot overwrite directory " ++ quotedText target ++
          " with non-directory")
      | _ => put
  | .error .notFound =>
    match d.lookup (pathOf target) false c.place with
    | .ok (_, .link _) => Doing.refuse ("not writing through dangling symlink " ++ quotedText target)
    | _ => put
  | .error e => Doing.refuse ("cannot stat " ++ quotedText target ++ ": " ++ e.reason)

/-- Copies a link as a link. -/
def copyLink (m : CopyManner) (source target to_ : String) : Doing Unit := do
  let c ← Doing.call
  let d := (← get).disk
  let clear ← match d.lookup (pathOf target) false c.place with
    | .ok (_, .folder _) => do
      Doing.refuse ("cannot overwrite directory " ++ quotedText target ++ " with non-directory")
      pure false
    | .ok _ =>
      if m.skip then pure false
      else do
        let _ ← Doing.onDisk fun d => d.unlink (pathOf target) c.place
        pure true
    | .error _ => pure true
  if clear then
    match ← Doing.onDisk fun d => d.makeLink (pathOf target) to_ c.place with
    | .ok () =>
      if m.tells then Doing.writeLine (quotedText source ++ " -> " ++ quotedText target)
    | .error e =>
      Doing.refuse ("cannot create symbolic link " ++ quotedText target ++ ": " ++ e.reason)

/-- Copies what stands at a path, folders with all that is in them. -/
def copyAny (m : CopyManner) : (fuel : Nat) → (first : Bool) → (source target : String) →
    Doing Unit
  | 0, _, _, _ => pure ()
  | fuel + 1, first, source, target => do
    let c ← Doing.call
    let d := (← get).disk
    let follow := if first then m.followFirst else !m.keepLinks
    match d.lookup (pathOf source) follow c.place with
    | .error e => Doing.refuse ("cannot stat " ++ quotedText source ++ ": " ++ e.reason)
    | .ok (_, .link to_) => copyLink m source target to_
    | .ok (p, .folder mode) =>
      if !m.recursive then
        Doing.refuse ("-r not specified; omitting directory " ++ quotedText source)
      else
        let place? := match d.locate (pathOf target) true c.place with
          | .ok spot => some spot.place
          | .error _ => none
        let isInside := place?.any fun q => p.isPrefixOf q
        let old := d.lookup (pathOf target) true c.place
        if place? == some p && !first then pure ()
        else if isInside then
          Doing.refuse ("cannot copy a directory, " ++ quotedText source ++ ", into itself, " ++
            quotedText target)
        else
          let names := sortedNames d p
          let ready ← match old with
            | .ok (_, .folder _) => pure true
            | .ok _ => do
              Doing.refuse ("cannot overwrite non-directory " ++ quotedText target ++
                " with directory " ++ quotedText source)
              pure false
            | .error _ => do
              let mode := if m.keepModes then mode else Nat.land mode (Nat.xor 0o777 c.mask)
              match ← Doing.onDisk fun d => d.makeFolder (pathOf target) mode c.place with
              | .ok () => do
                if m.tells then Doing.writeLine (quotedText source ++ " -> " ++ quotedText target)
                pure true
              | .error e => do
                Doing.refuse ("cannot create directory " ++ quotedText target ++ ": " ++ e.reason)
                pure false
          if ready then
            for name in names do
              copyAny m fuel false (child source name) (child target name)
    | .ok (p, node) => copyFile m source target p node

def copyOptions : Options where
  letters := "abdfHilLnpPrRst:TuvxZ\x01::\x02::\x03::\x04S:\x05\x06"
  names := [("archive", 'a'), ("force", 'f'), ("interactive", 'i'), ("link", 'l'),
    ("dereference", 'L'), ("no-clobber", 'n'), ("no-dereference", 'P'), ("preserve", '\x01'),
    ("recursive", 'r'), ("symbolic-link", 's'), ("target-directory", 't'),
    ("no-target-directory", 'T'), ("update", '\x02'), ("verbose", 'v'), ("reflink", '\x03'),
    ("parents", '\x04'), ("suffix", 'S'), ("remove-destination", '\x05'),
    ("strip-trailing-slashes", '\x06')]

/-- The tool `cp`. -/
def cp : Doing Unit := do
  let p ← copyOptions.parsed
  let t ← Targets.of p
  let archive := p.has 'a'
  let recursive := p.has 'r' || p.has 'R' || archive
  let linkMode := p.lastOf ['H', 'L', 'P', 'd', 'a']
  let keepsLinks := match linkMode with
    | some 'L' => false
    | some _ => true
    | none => recursive
  let m : CopyManner := {
    recursive := recursive
    keepLinks := keepsLinks
    followFirst := linkMode == some 'H' || !keepsLinks
    keepModes := archive || p.has 'p' || p.has '\x01'
    force := p.has 'f'
    skip := p.lastOf ['n', 'i', 'f'] == some 'n' || p.lastOf ['n', 'i', 'f'] == some 'i'
    tells := p.has 'v' }
  let c ← Doing.call
  for source in t.sources do
    let target := t.pathFor source
    let target := if recursive && t.isFolder && (ownName source == "." || ownName source == "..")
      then t.target else target
    if p.has 's' || p.has 'l' then
      let act (d : Disk) : Except IoFault Disk :=
        if p.has 's' then d.makeLink (pathOf target) (pathOf source) c.place
        else d.makeAlias (pathOf target) (pathOf source) c.place
      match ← Doing.onDisk act with
      | .ok () => pure ()
      | .error e =>
        Doing.refuse ("cannot create " ++ (if p.has 's' then "symbolic link " else "hard link ") ++
          quotedText target ++ " to " ++ quotedText source ++ ": " ++ e.reason)
    else copyAny m depthLimit true source target

/-! ## Moving -/

def moveOptions : Options where
  letters := "bfint:TuvS:Z\x01::\x02"
  names := [("force", 'f'), ("interactive", 'i'), ("no-clobber", 'n'), ("target-directory", 't'),
    ("no-target-directory", 'T'), ("update", 'u'), ("verbose", 'v'), ("suffix", 'S'),
    ("backup", '\x01'), ("strip-trailing-slashes", '\x02')]

/-- The tool `mv`. -/
def mv : Doing Unit := do
  let p ← moveOptions.parsed
  let t ← Targets.of p
  let c ← Doing.call
  let skip := p.lastOf ['n', 'i', 'f'] == some 'n' || p.lastOf ['n', 'i', 'f'] == some 'i'
  for source in t.sources do
    let target := t.pathFor source
    let d := (← get).disk
    match d.lookup (pathOf source) false c.place, d.lookup (pathOf target) false c.place with
    | .error e, _ => Doing.refuse ("cannot stat " ++ quotedText source ++ ": " ++ e.reason)
    | .ok (place, node), old =>
      let isBelow := match d.locate (pathOf target) false c.place with
        | .ok spot => Disk.isFolderNode node && place.isPrefixOf spot.place
        | .error _ => false
      let move : Doing Unit := do
        match ← Doing.onDisk fun d => d.rename (pathOf source) (pathOf target) c.place with
        | .ok () =>
          if p.has 'v' then
            Doing.writeLine ("renamed " ++ quotedText source ++ " -> " ++ quotedText target)
        | .error .notEmpty =>
          Doing.refuse ("cannot overwrite " ++ quotedText target ++ ": Directory not empty")
        | .error e =>
          Doing.refuse ("cannot move " ++ quotedText source ++ " to " ++ quotedText target ++
            ": " ++ e.reason)
      match old with
      | .ok (q, there) =>
        if skip then pure ()
        else if place == q && Disk.isFolderNode node then
          Doing.refuse ("cannot move " ++ quotedText source ++ " to a subdirectory of itself, " ++
            quotedText (child target (ownName source)))
        else if isSame place q node there then
          if place == q then
            Doing.refuse (quotedText source ++ " and " ++ quotedText target ++ " are the same file")
          else
            let _ ← Doing.onDisk fun d => d.unlink (pathOf source) c.place
        else if Disk.isFolderNode node && !Disk.isFolderNode there then
          Doing.refuse ("cannot overwrite non-directory " ++ quotedText target ++
            " with directory " ++ quotedText source)
        else if !Disk.isFolderNode node && Disk.isFolderNode there then
          Doing.refuse ("cannot overwrite directory " ++ quotedText target ++
            " with non-directory")
        else if isBelow then
          Doing.refuse ("cannot move " ++ quotedText source ++ " to a subdirectory of itself, " ++
            quotedText target)
        else move
      | .error .notFound =>
        if isBelow then
          Doing.refuse ("cannot move " ++ quotedText source ++ " to a subdirectory of itself, " ++
            quotedText target)
        else move
      | .error e => Doing.refuse ("cannot stat " ++ quotedText target ++ ": " ++ e.reason)

/-! ## Removing -/

def removeOptions : Options where
  letters := "dfirRvI\x01::\x02::\x03"
  names := [("force", 'f'), ("recursive", 'r'), ("dir", 'd'), ("verbose", 'v'),
    ("interactive", '\x01'), ("preserve-root", '\x02'), ("no-preserve-root", '\x03')]

/-- Removes a folder with all that is in it. -/
def removeTree (d : Disk) (p : Place) : Disk :=
  { d with nodes := d.nodes.filter fun (q, _) => !p.isPrefixOf q }

/-- The tool `rm`. -/
def rm : Doing Unit := do
  let p ← removeOptions.parsed
  let force := p.lastOf ['f', 'i'] == some 'f'
  let asks := p.lastOf ['f', 'i'] == some 'i'
  let recursive := p.has 'r' || p.has 'R'
  let c ← Doing.call
  if p.operands.isEmpty then
    if force then Doing.quit 0 else Doing.misuse "missing operand"
  for path in p.operands do
    let d := (← get).disk
    let last := (steps path).getLast?
    let cannot (reason : String) : Doing Unit :=
      Doing.refuse ("cannot remove " ++ quotedText path ++ ": " ++ reason)
    match d.lookup (pathOf path) false c.place with
    | .error e =>
      if force && (e == .notFound || e == .notADirectory || path.isEmpty) then pure ()
      else cannot e.reason
    | .ok (place, .folder _) =>
      if !recursive && !p.has 'd' then cannot "Is a directory"
      else if last == some "." || last == some ".." then
        Doing.refuse ("refusing to remove '.' or '..' directory: skipping " ++ quotedText path)
      else if place.isEmpty then do
        Doing.complain "it is dangerous to operate recursively on '/'"
        Doing.complain "use --no-preserve-root to override this failsafe"
        Doing.fail
      else if asks then
        modify fun j => { j with chunks := (2, c.name ++ ": remove directory " ++ quotedText path ++
          "? ") :: j.chunks }
      else if recursive then
        let gone := visitsBelow d depthLimit 0 path place (.folder 0)
        modify fun j => { j with disk := removeTree j.disk place }
        if p.has 'v' then
          for v in gone.reverse do
            Doing.writeLine ((if Disk.isFolderNode v.node then "removed directory " else "removed ") ++
              quotedText v.path)
      else
        match ← Doing.onDisk fun d => d.removeFolder (pathOf path) c.place with
        | .ok () => if p.has 'v' then Doing.writeLine ("removed directory " ++ quotedText path)
        | .error e => cannot e.reason
    | .ok (place, _) =>
      if asks then
        let isEmpty : Bool := match d.node? place with
          | some (.file n) => ((d.file? n).map (·.content.octets.isEmpty)).getD true
          | _ => false
        let kind := if isEmpty then "regular empty file " else "regular file "
        modify fun j => { j with chunks := (2, c.name ++ ": remove " ++ kind ++ quotedText path ++
          "? ") :: j.chunks }
      else
        match ← Doing.onDisk fun d => d.unlink (pathOf path) c.place with
        | .ok () => if p.has 'v' then Doing.writeLine ("removed " ++ quotedText path)
        | .error e => cannot e.reason

/-- The tool `unlink`. -/
def unlinkTool : Doing Unit := do
  let c ← Doing.call
  match c.arguments with
  | [] => Doing.misuse "missing operand"
  | [path] =>
    match ← Doing.onDisk fun d => d.unlink (pathOf path) c.place with
    | .ok () => pure ()
    | .error e => Doing.refuse ("cannot unlink " ++ quotedText path ++ ": " ++ e.reason)
  | _ :: extra :: _ => Doing.misuse ("extra operand " ++ quotedText extra)

def removeFolderOptions : Options where
  letters := "pv\x01"
  names := [("parents", 'p'), ("verbose", 'v'), ("ignore-fail-on-non-empty", '\x01')]

/-- The tool `rmdir`. -/
def rmdir : Doing Unit := do
  let p ← removeFolderOptions.parsed
  if p.operands.isEmpty then Doing.misuse "missing operand"
  let c ← Doing.call
  let removeOne (path : String) : Doing Bool := do
    match ← Doing.onDisk fun d => d.removeFolder (pathOf path) c.place with
    | .ok () => do
      if p.has 'v' then Doing.writeLine ("rmdir: removing directory, " ++ quotedText path)
      pure true
    | .error e => do
      if !(p.has '\x01' && e == .notEmpty) then
        Doing.refuse ("failed to remove " ++ quotedText path ++ ": " ++ e.reason)
      pure false
  let rec up (fuel : Nat) (path : String) : Doing Unit := do
    match fuel with
    | 0 => pure ()
    | fuel + 1 =>
      if ← removeOne path then
        match parent? path with
        | some above => if p.has 'p' && !above.isEmpty && above != "/" then up fuel above
        | none => pure ()
  for path in p.operands do
    up depthLimit path

/-! ## Modes -/

def modeOptions : Options where
  letters := "RcfvrwxXstugoa,+=0\x01:\x02\x03"
  names := [("recursive", 'R'), ("changes", 'c'), ("silent", 'f'), ("quiet", 'f'),
    ("verbose", 'v'), ("reference", '\x01'), ("preserve-root", '\x02'), ("no-preserve-root", '\x03')]

/-- The tool `chmod`. A mode that begins with a dash is no option. -/
def chmod : Doing Unit := do
  let c ← Doing.call
  let isMode (w : String) : Bool :=
    match w.toList with
    | '-' :: l :: _ => "rwxXstugoa,+=-01234567".toList.contains l && l != '-'
    | _ => false
  let dashed := c.arguments.filter isMode
  let words := c.arguments.filter (!isMode ·)
  match modeOptions.read (words.length + 1) words with
  | .error s => Doing.misuse s
  | .ok p =>
    let (mode?, paths) : Option String × List String :=
      if dashed.isEmpty then (p.operands.head?, p.operands.tail)
      else (some (",".intercalate dashed), p.operands)
    match mode?, paths with
    | none, _ => Doing.misuse "missing operand"
    | some mode, [] => Doing.misuse ("missing operand after " ++ quotedText mode)
    | some text, paths =>
      if (modeFrom? text c.mask false 0).isNone then
        Doing.misuse ("invalid mode: " ++ quotedText text)
      for path in paths do
        let d := (← get).disk
        match d.lookup (pathOf path) true c.place with
        | .error e =>
          if !p.has 'f' then Doing.complain ("cannot access " ++ quotedText path ++ ": " ++ e.reason)
          Doing.fail
        | .ok (place, node) =>
          let found := if p.has 'R' then visitsBelow d depthLimit 0 path place node
            else [⟨path, place, node, 0⟩]
          for v in found do
            let now := match v.node with
              | .file n => ((d.file? n).map (·.mode)).getD 0
              | .folder mode => mode
              | _ => 0o666
            let isFolder := Disk.isFolderNode v.node
            let isLink := match v.node with
              | .link _ => true
              | _ => false
            match modeFrom? text c.mask isFolder now with
            | some mode =>
              if !isLink then
                let _ ← Doing.onDisk fun d => d.setMode (pathOf v.path) mode c.place
                if p.has 'v' || (p.has 'c' && mode != now) then
                  let shown (m : Nat) : String := octalMode m ++ " (" ++ modeLetters m ++ ")"
                  Doing.writeLine (if mode == now then
                      "mode of " ++ quotedText v.path ++ " retained as " ++ shown mode
                    else "mode of " ++ quotedText v.path ++ " changed from " ++ shown now ++ " to " ++
                      shown mode)
            | none => pure ()

/-! ## Making -/

def makeFolderOptions : Options where
  letters := "pvm:Z"
  names := [("parents", 'p'), ("verbose", 'v'), ("mode", 'm')]

/-- The tool `mkdir`. -/
def mkdir : Doing Unit := do
  let p ← makeFolderOptions.parsed
  if p.operands.isEmpty then Doing.misuse "missing operand"
  let c ← Doing.call
  let usual := Nat.land 0o777 (Nat.xor 0o777 c.mask)
  let mode ← match p.last? 'm' with
    | none => pure usual
    | some text =>
      match modeFrom? text c.mask true 0o777 with
      | some m => pure m
      | none => do
        Doing.complain ("invalid mode " ++ quotedText text)
        Doing.quit 1
  let tell (path : String) : Doing Unit := do
    if p.has 'v' then Doing.writeLine (c.name ++ ": created directory " ++ quotedText path)
  let make (path : String) (mode : Nat) : Doing (Except IoFault Unit) :=
    Doing.onDisk fun d => d.makeFolder (pathOf path) mode c.place
  for path in p.operands do
    let cannot (shown : String) (e : IoFault) : Doing Unit :=
      Doing.refuse ("cannot create directory " ++ quotedText shown ++ ": " ++ e.reason)
    if p.has 'p' then
      let parts := steps path
      let leads := (List.range parts.length).map fun i => joined (isAbsolute path) (parts.take (i + 1))
      let rec go : List String → Doing Unit
        | [] => pure ()
        | lead :: rest => do
          let isThere ← Doing.look fun d place => d.isFolder (pathOf lead) place
          if isThere then go rest
          else
            match ← make lead (if rest.isEmpty then mode else usual) with
            | .ok () => do
              tell lead
              go rest
            | .error .alreadyExists => cannot lead (if rest.isEmpty then .alreadyExists
                else .notADirectory)
            | .error e => cannot lead e
      if path.isEmpty then cannot path .notFound else go leads
    else
      match ← make path mode with
      | .ok () => tell path
      | .error .isADirectory => cannot path .alreadyExists
      | .error e => cannot path e

def touchOptions : Options where
  letters := "acd:fhmr:t:\x01:"
  names := [("no-create", 'c'), ("date", 'd'), ("reference", 'r'), ("time", '\x01'),
    ("no-dereference", 'h')]

/-- The tool `touch`. -/
def touch : Doing Unit := do
  let p ← touchOptions.parsed
  if p.operands.isEmpty then Doing.misuse "missing file operand"
  let c ← Doing.call
  let mode := Nat.land 0o666 (Nat.xor 0o777 c.mask)
  match p.last? 'r' with
  | some path =>
    match ← Doing.look fun d place => d.lookup (pathOf path) true place with
    | .ok _ => pure ()
    | .error e => do
      Doing.complain ("failed to get attributes of " ++ quotedText path ++ ": " ++ e.reason)
      Doing.quit 1
  | none => pure ()
  for path in p.operands do
    if path != "-" then
      let cannot (e : IoFault) : Doing Unit :=
        Doing.refuse ((if p.has 'c' then "setting times of " else "cannot touch ") ++
          quotedText path ++ ": " ++ e.reason)
      match ← Doing.look fun d place => d.lookup (pathOf path) true place with
      | .ok _ => pure ()
      | .error .notFound =>
        if !p.has 'c' then
          match ← Doing.onDisk fun d => d.write (pathOf path) (.text "") mode c.place with
          | .ok () => pure ()
          | .error .isADirectory => cannot .notFound
          | .error e => cannot e
      | .error e => cannot e

def linkOptions : Options where
  letters := "bdfFiLnPrst:TvS:"
  names := [("force", 'f'), ("interactive", 'i'), ("no-dereference", 'n'), ("relative", 'r'),
    ("symbolic", 's'), ("target-directory", 't'), ("no-target-directory", 'T'), ("verbose", 'v'),
    ("logical", 'L'), ("physical", 'P')]

/-- The path of `target` as seen from the folder of `path`. -/
def relativePath (d : Disk) (base : Place) (path target : String) : String :=
  let full (s : String) : Place := match d.locate (pathOf s) true base with
    | .ok spot => spot.place
    | .error _ => steps s
  let source := (full path).dropLast
  let goal := full target
  let common := ((source.zip goal).takeWhile fun (a, b) => a == b).length
  let up := List.replicate (source.length - common) ".."
  let parts := up ++ goal.drop common
  if parts.isEmpty then "." else "/".intercalate parts

/-- The tool `ln`. -/
def ln : Doing Unit := do
  let p ← linkOptions.parsed
  let c ← Doing.call
  let symbolic := p.has 's'
  let kind := if symbolic then "symbolic link " else "hard link "
  let t ← match p.operands, p.last? 't' with
    | [one], none => pure (⟨[one], ".", true⟩ : Targets)
    | operands, none => do
      let target := operands.getLast?.getD ""
      let isLink ← Doing.look fun d place => match d.lookup (pathOf target) false place with
        | .ok (_, .link _) => true
        | _ => false
      if p.has 'n' && isLink && operands.length == 2 then pure ⟨operands.dropLast, target, false⟩
      else Targets.of p
    | _, _ => Targets.of p
  for source in t.sources do
    let path := t.pathFor source
    let d := (← get).disk
    let node := d.lookup (pathOf source) false c.place
    let failWith (e : IoFault) : Doing Unit :=
      Doing.refuse ("failed to create " ++ kind ++ quotedText path ++
        (if symbolic || e == .alreadyExists then "" else " => " ++ quotedText source) ++ ": " ++
        e.reason)
    match node, symbolic with
    | .error e, false => Doing.refuse ("failed to access " ++ quotedText source ++ ": " ++ e.reason)
    | .ok (_, .folder _), false =>
      Doing.refuse (shownText source ++ ": hard link not allowed for directory")
    | _, _ =>
      let old := d.lookup (pathOf path) false c.place
      let isSame_ := match node, old with
        | .ok (a, m), .ok (b, n) => !symbolic && isSame a b m n
        | _, _ => false
      if p.has 'f' && isSame_ then
        Doing.refuse (quotedText source ++ " and " ++ quotedText path ++ " are the same file")
      else
        match old, p.has 'f' with
        | .ok (_, .folder _), true => Doing.refuse (shownText path ++ ": cannot overwrite directory")
        | _, force => do
          if force && old.isOk then
            let _ ← Doing.onDisk fun d => d.unlink (pathOf path) c.place
          let to_ := if p.has 'r' then relativePath d c.place path source else pathOf source
          let act (d : Disk) : Except IoFault Disk :=
            if symbolic then d.makeLink (pathOf path) to_ c.place
            else d.makeAlias (pathOf path) (pathOf source) c.place
          match ← Doing.onDisk act with
          | .ok () =>
            if p.has 'v' then
              Doing.writeLine (quotedText path ++ (if symbolic then " -> " else " => ") ++
                quotedText (if p.has 'r' then Text.toOctets to_ else source))
          | .error e => failWith e

def installOptions : Options where
  letters := "bcCdDg:m:o:pst:Tv"
  names := [("directory", 'd'), ("mode", 'm'), ("owner", 'o'), ("group", 'g'),
    ("target-directory", 't'), ("no-target-directory", 'T'), ("verbose", 'v'), ("strip", 's'),
    ("preserve-timestamps", 'p'), ("compare", 'C')]

/-- The tool `install`. -/
def install : Doing Unit := do
  let p ← installOptions.parsed
  let c ← Doing.call
  let mode ← match p.last? 'm' with
    | none => pure 0o755
    | some text =>
      match modeFrom? text 0 false 0 with
      | some m => pure m
      | none => do
        Doing.complain ("invalid mode " ++ quotedText text)
        Doing.quit 1
  let makeAbove (path : String) : Doing Unit := do
    let parts := steps path
    for i in List.range parts.length do
      let lead := joined (isAbsolute path) (parts.take (i + 1))
      let _ ← Doing.onDisk fun d => d.makeFolder (pathOf lead) 0o755 c.place
  if p.has 'd' then
    if p.operands.isEmpty then Doing.misuse "missing file operand"
    for path in p.operands do
      makeAbove path
      match ← Doing.onDisk fun d => if d.isFolder (pathOf path) c.place then d.setMode (pathOf path) mode c.place
          else .error .alreadyExists with
      | .ok () => pure ()
      | .error e => Doing.refuse ("cannot create directory " ++ quotedText path ++ ": " ++ e.reason)
  else
    if p.has 'D' then
      match p.last? 't', p.operands with
      | some folder, _ => makeAbove folder
      | none, [_, target] => makeAbove ((parent? target).getD "")
      | _, _ => pure ()
    let t ← Targets.of p
    for source in t.sources do
      let target := t.pathFor source
      let d := (← get).disk
      match d.lookup (pathOf source) true c.place with
      | .error e => Doing.refuse ("cannot stat " ++ quotedText source ++ ": " ++ e.reason)
      | .ok (_, .folder _) => Doing.refuse ("omitting directory " ++ quotedText source)
      | .ok (place, node) =>
        match d.lookup (pathOf target) true c.place with
        | .ok (q, old) =>
          if isSame place q node old then
            Doing.refuse (quotedText source ++ " and " ++ quotedText target ++ " are the same file")
          else
            let _ ← Doing.onDisk fun d => d.unlink (pathOf target) c.place
        | .error _ => pure ()
        let content : Content := match node with
          | .file n => ((d.file? n).map (·.content)).getD (.text "")
          | _ => .text ""
        let isStill ← Doing.look fun d place => (d.lookup (pathOf target) true place).isOk
        if !isStill then
          match ← Doing.onDisk fun d => d.write (pathOf target) content mode c.place with
          | .ok () =>
            if p.has 'v' then Doing.writeLine (quotedText source ++ " -> " ++ quotedText target)
          | .error e =>
            Doing.refuse ("cannot create regular file " ++ quotedText target ++ ": " ++ e.reason)

end ProxySync.Tool
