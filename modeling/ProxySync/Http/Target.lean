/-!
# Request targets

A target is a path with an optional query, or a whole address in front of
them. Only characters that may stand in such a text are accepted; what
follows a number sign is dropped.
-/

namespace ProxySync.Http

/-! ## Characters -/

/-- A character of a path. -/
def isPathChar (c : Char) : Bool :=
  let n := c.toNat
  n == 0x21 || n == 0x22 || (0x24 ≤ n && n ≤ 0x3B) || n == 0x3D || (0x40 ≤ n && n ≤ 0x5F) ||
    (0x61 ≤ n && n ≤ 0x7E) || 0x80 ≤ n

/-- A character of a query. -/
def isQueryChar (c : Char) : Bool :=
  let n := c.toNat
  n == 0x21 || (0x24 ≤ n && n ≤ 0x3B) || n == 0x3D || (0x3F ≤ n && n ≤ 0x7E) || 0x80 ≤ n

/-- A character of the host part of an address. -/
def isHostChar (c : Char) : Bool :=
  c.isAlphanum || "!#$&'()*+,-./:;=?@[]_~".toList.contains c

def isSchemeChar (c : Char) : Bool := c.isAlphanum || "+-.".toList.contains c

/-! ## Paths -/

/-- The path in front of a query, if all characters are acceptable. -/
def readPath (s : List Char) : Option String :=
  let isEnd (c : Char) : Bool := c == '?' || c == '#'
  let path := s.takeWhile (!isEnd ·)
  let query := match s.drop path.length with
    | '?' :: rest => rest.takeWhile (· != '#')
    | _ => []
  if path.all isPathChar && query.all isQueryChar then some (String.ofList path) else none

/-! ## Addresses -/

/-- What stands after a scheme and its slashes, if there is a scheme. -/
def afterScheme? (s : List Char) : Option (List Char) :=
  let scheme := s.takeWhile isSchemeChar
  match s.drop scheme.length with
  | ':' :: '/' :: '/' :: rest => if scheme.length ≤ 64 then some rest else none
  | _ => none

/-- What a host part has shown so far. -/
structure HostScan where
  colons : Nat := 0
  opened : Bool := false
  closed : Bool := false
  percent : Bool := false
  last : Option Char := none

def HostScan.step (h : HostScan) (c : Char) : Option HostScan :=
  let h := { h with last := some c }
  if c == ':' then if 8 ≤ h.colons then none else some { h with colons := h.colons + 1 }
  else if c == '[' then if h.percent || h.opened then none else some { h with opened := true }
  else if c == ']' then
    if !h.opened || h.closed then none
    else some { h with closed := true, colons := 0, percent := false }
  else if c == '@' then some { h with colons := 0, percent := false }
  else if c == '%' then some { h with percent := true }
  else if isHostChar c then some h
  else none

/-- A host part: brackets in pairs, at most one port, percent signs only in
front of an at sign, and something after that. -/
def isHost (s : List Char) : Bool :=
  match s.foldlM HostScan.step {} with
  | some h => h.opened == h.closed && decide (h.colons ≤ 1) && !h.percent && h.last != some '@'
  | none => false

/-- The length of the host part at the start of a text. -/
def hostLength (s : List Char) : Nat :=
  (s.takeWhile fun c => c != '/' && c != '?' && c != '#').length

/-! ## Targets -/

/-- The longest target, in bytes. -/
def targetLimit : Nat := 65534

/-- The path that a target asks for. A host alone has the empty path. -/
def targetPath? (target : String) : Option String :=
  let s := target.toList
  if targetLimit < target.utf8ByteSize then none
  else
    match s with
    | [] => none
    | ['*'] => some "*"
    | '/' :: _ => readPath s
    | _ =>
      match afterScheme? s with
      | none => if hostLength s == s.length && isHost s then some "" else none
      | some rest =>
        let host := rest.take (hostLength rest)
        if host.isEmpty || !isHost host then none
        else (readPath (rest.drop host.length)).map fun p => if p.isEmpty then "/" else p

end ProxySync.Http
