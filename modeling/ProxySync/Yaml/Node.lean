import ProxySync.Yaml.Token

/-!
# The document of a YAML text

`document?` reads the one document of a text as a tree of scalars,
sequences and mappings in which tags are resolved. An alias stands for a
number. A name takes the number of names known when it is given, so a name
given again may take a number that the next new name takes over; a number
stands for the last node it was given to in the whole document.
-/

namespace ProxySync.Yaml

inductive Node where
  | scalar (tag : Option String) (s : Scalar)
  | sequence (tag : Option String) (items : List Node)
  | mapping (tag : Option String) (entries : List (Node × Node))
  | alias (number : Nat)

def Node.empty : Node := .scalar none ⟨"", .plain⟩

/-! ## The reader's state -/

structure Source where
  tokens : List Token
  tagLeads : List (String × String)
  /-- The numbers of the names, the last given first. -/
  numbers : List (String × Nat) := []
  /-- The nodes of the numbers, the last given first. A collection that is
  still being read has none yet. -/
  numbered : List (Nat × Option Node) := []

namespace Source

def next? (s : Source) : Option Token := s.tokens.head?

def drop (s : Source) : Source := { s with tokens := s.tokens.tail }

def nextIn (s : Source) (ts : List Token) : Bool := s.next?.all ts.contains

/-- How many names are known. -/
def nameCount (s : Source) : Nat := (s.numbers.map (·.1)).eraseDups.length

/-- Gives a name to a node, or to the collection that begins here. -/
def bind (s : Source) (name : Option String) (n : Option Node) : Source :=
  match name with
  | some name =>
    let number := s.nameCount
    { s with numbers := (name, number) :: s.numbers, numbered := (number, n) :: s.numbered }
  | none => s

/-- Gives a finished collection to the number that it took when it began,
unless another node has taken that number inside it. -/
def finish (s : Source) (number : Nat) (n : Node) : Source :=
  match s.numbered.lookup number with
  | some none => { s with numbered := (number, some n) :: s.numbered }
  | _ => s

end Source

/-! ## Properties of a node -/

def defaultTagLeads : List (String × String) := [("!", "!"), ("!!", "tag:yaml.org,2002:")]

/-- The full tag, if its handle is known. -/
def resolveTag (s : Source) (handle suffix : String) : Option String :=
  if handle.isEmpty then some suffix
  else ((s.tagLeads ++ defaultTagLeads).lookup handle).map (· ++ suffix)

structure Properties where
  anchor : Option String
  tag : Option (String × String)

/-- An anchor and a tag in either order, each at most once. -/
def readProperties (s : Source) : Properties × Source :=
  match s.tokens with
  | .anchor a :: .tag h x :: rest => (⟨some a, some (h, x)⟩, { s with tokens := rest })
  | .tag h x :: .anchor a :: rest => (⟨some a, some (h, x)⟩, { s with tokens := rest })
  | .anchor a :: rest => (⟨some a, none⟩, { s with tokens := rest })
  | .tag h x :: rest => (⟨none, some (h, x)⟩, { s with tokens := rest })
  | _ => (⟨none, none⟩, s)

/-! ## Nodes -/

/-- Where a node stands: inside a flow collection, as an entry of a block,
or beside a key, where a sequence need not be indented. -/
inductive Place where
  | flow
  | entry
  | besideKey
deriving DecidableEq

mutual

def readNode : (fuel : Nat) → Place → Source → Option (Node × Source)
  | 0, _, _ => none
  | fuel + 1, place, s =>
    match s.next? with
    | some (.alias name) => (s.numbers.lookup name).map fun number => (.alias number, s.drop)
    | _ => do
      let (p, s) := readProperties s
      let tag ← p.tag.elim (some none) fun (h, x) => (resolveTag s h x).map some
      let number := s.nameCount
      let opened := s.drop.bind p.anchor none
      let closed (n : Node) (s : Source) : Option (Node × Source) :=
        some (n, if p.anchor.isSome then s.finish number n else s)
      match s.next? with
      | some (.scalar x) => some (.scalar tag x, s.drop.bind p.anchor (some (.scalar tag x)))
      | some .openSequence =>
        let (items, s) ← readFlowItems fuel true opened
        closed (.sequence tag items) s
      | some .openMapping =>
        let (entries, s) ← readFlowEntries fuel true opened
        closed (.mapping tag entries) s
      | some .openBlockSequence =>
        if place = .flow then none
        else do
          let (items, s) ← readBlockItems fuel opened
          closed (.sequence tag items) s
      | some .openBlockMapping =>
        if place = .flow then none
        else do
          let (entries, s) ← readBlockEntries fuel opened
          closed (.mapping tag entries) s
      | some .blockEntry =>
        if place = .besideKey then do
          let (items, s) ← readLooseItems fuel (s.bind p.anchor none)
          closed (.sequence tag items) s
        else bare p tag s
      | _ => bare p tag s

/-- A node of properties alone. -/
def bare (p : Properties) (tag : Option String) (s : Source) : Option (Node × Source) :=
  if p.anchor.isNone && p.tag.isNone then none
  else
    let n : Node := .scalar tag ⟨"", .plain⟩
    some (n, s.bind p.anchor (some n))

/-- A node, or an empty one in front of the tokens `ends`. -/
def readUnless : (fuel : Nat) → (ends : List Token) → Place → Source → Option (Node × Source)
  | 0, _, _, _ => none
  | fuel + 1, ends, place, s =>
    if s.nextIn ends then some (.empty, s) else readNode fuel place s

def readBlockItems : (fuel : Nat) → Source → Option (List Node × Source)
  | 0, _ => none
  | fuel + 1, s =>
    match s.next? with
    | some .blockEntry => do
      let (n, s) ← readUnless fuel [.blockEntry, .closeBlock] .entry s.drop
      let (ns, s) ← readBlockItems fuel s
      some (n :: ns, s)
    | some .closeBlock => some ([], s.drop)
    | _ => none

/-- The items of a sequence that is not indented. -/
def readLooseItems : (fuel : Nat) → Source → Option (List Node × Source)
  | 0, _ => none
  | fuel + 1, s =>
    match s.next? with
    | some .blockEntry => do
      let (n, s) ← readUnless fuel [.blockEntry, .key, .value, .closeBlock] .entry s.drop
      let (ns, s) ← readLooseItems fuel s
      some (n :: ns, s)
    | _ => some ([], s)

def readBlockEntries : (fuel : Nat) → Source → Option (List (Node × Node) × Source)
  | 0, _ => none
  | fuel + 1, s =>
    let ends : List Token := [.key, .value, .closeBlock]
    match s.next? with
    | some .key => do
      let (k, s) ← readUnless fuel ends .besideKey s.drop
      let (v, s) ← (
        if s.next? = some .value then readUnless fuel ends .besideKey s.drop
        else some (.empty, s))
      let (rest, s) ← readBlockEntries fuel s
      some ((k, v) :: rest, s)
    | some .closeBlock => some ([], s.drop)
    | _ => none

def readFlowItems : (fuel : Nat) → (first : Bool) → Source → Option (List Node × Source)
  | 0, _, _ => none
  | fuel + 1, first, s =>
    let ends : List Token := [.flowEntry, .closeSequence]
    if s.next? = some .closeSequence then some ([], s.drop)
    else if !first && s.next? != some .flowEntry then none
    else
      let s := if first then s else s.drop
      match s.next? with
      | some .closeSequence => some ([], s.drop)
      | some .key => do
        let s := s.drop
        let (k, s) ← (
          if s.nextIn (.value :: ends) then some (.empty, s.drop) else readNode fuel .flow s)
        let (v, s) ← (
          if s.next? = some .value then readUnless fuel ends .flow s.drop else some (.empty, s))
        let (rest, s) ← readFlowItems fuel false s
        some (.mapping none [(k, v)] :: rest, s)
      | _ => do
        let (n, s) ← readNode fuel .flow s
        let (rest, s) ← readFlowItems fuel false s
        some (n :: rest, s)

def readFlowEntries :
    (fuel : Nat) → (first : Bool) → Source → Option (List (Node × Node) × Source)
  | 0, _, _ => none
  | fuel + 1, first, s =>
    let ends : List Token := [.flowEntry, .closeMapping]
    if s.next? = some .closeMapping then some ([], s.drop)
    else if !first && s.next? != some .flowEntry then none
    else
      let s := if first then s else s.drop
      match s.next? with
      | some .closeMapping => some ([], s.drop)
      | some .key => do
        let (k, s) ← readUnless fuel (.value :: ends) .flow s.drop
        let (v, s) ← (
          if s.next? = some .value then readUnless fuel ends .flow s.drop else some (.empty, s))
        let (rest, s) ← readFlowEntries fuel false s
        some ((k, v) :: rest, s)
      | _ => do
        let (k, s) ← readNode fuel .flow s
        let (rest, s) ← readFlowEntries fuel false s
        some ((k, .empty) :: rest, s)

end

/-! ## Documents -/

/-- The directives in front of a document: at most one version, which is
1.1 or 1.2, and no handle twice. -/
def readDirectives :
    (versioned : Bool) → (leads : List (String × String)) → List Token →
    Option (List (String × String) × List Token)
  | versioned, leads, .version major minor :: rest =>
    if versioned || major != 1 || (minor != 1 && minor != 2) then none
    else readDirectives true leads rest
  | versioned, leads, .tagLead h x :: rest =>
    if (leads.lookup h).isSome then none else readDirectives versioned (leads ++ [(h, x)]) rest
  | _, leads, rest => some (leads, rest)

/-- A token that stands between documents. -/
def Token.isBoundary : Token → Bool
  | .documentStart | .documentEnd | .version .. | .tagLead .. => true
  | _ => false

structure Document where
  root : Node
  /-- The nodes that aliases stand for. -/
  numbered : List (Nat × Option Node)

/-- The node itself, or the one that an alias stands for. -/
def Document.target? (d : Document) : Node → Option Node
  | .alias number => (d.numbered.lookup number).join
  | n => some n

/-- The root node, with nothing but end marks after it. -/
def readRoot (leads : List (String × String)) (mayBeEmpty : Bool) (ts : List Token) :
    Option Document := do
  let s : Source := { tokens := ts, tagLeads := leads }
  let (n, s) ← (
    if mayBeEmpty && s.next?.all Token.isBoundary then some (.empty, s)
    else readNode (4 * ts.length + 8) .entry s)
  if s.tokens.all (· == .documentEnd) then some ⟨n, s.numbered⟩ else none

/-- Reads the one document of a text; none of an empty text. -/
def documentOf (ts : List Token) : Option (Option Document) :=
  match ts with
  | [] => some none
  | .version .. :: _ | .tagLead .. :: _ | .documentStart :: _ =>
    match readDirectives false [] ts with
    | some (leads, .documentStart :: ts) => (readRoot leads true ts).map some
    | _ => none
  | ts => (readRoot [] false ts).map some

/-- The document of a text: no value at all where the text breaks a rule,
and none inside where it holds no document. -/
def document? (text : List Char) : Option (Option Document) :=
  (tokens? text).bind documentOf

end ProxySync.Yaml
