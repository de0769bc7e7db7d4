import ProxySync.Json.Token

/-!
# Reading a JSON text into a draft

A machine with a stack of open brackets consumes the tokens one by one, so
no depth of nesting is too much for it. Where the tokens stop being JSON
the brackets still open are left unclosed around what was read.
-/

namespace ProxySync.Json

/-! ## The machine -/

/-- An open bracket whose next value is being read; contents newest first. -/
inductive Frame where
  | array (items : List Draft)
  | object (fields : List (Option String × Draft)) (key : Option String)

/-- What the next token may be. -/
inductive ReaderState where
  | value (stack : List Frame)
  | arrayStart (stack : List Frame)
  | arrayNext (items : List Draft) (stack : List Frame)
  | objectStart (stack : List Frame)
  | objectNext (fields : List (Option String × Draft)) (stack : List Frame)
  | key (fields : List (Option String × Draft)) (stack : List Frame)
  | colon (fields : List (Option String × Draft)) (key : Option String) (stack : List Frame)
  | done (value : Draft)

/-- Puts a complete value into the innermost open bracket. -/
def plug : List Frame → Draft → ReaderState
  | [], d => .done d
  | .array items :: stack, d => .arrayNext (d :: items) stack
  | .object fields key :: stack, d => .objectNext ((key, d) :: fields) stack

def startValue (stack : List Frame) : Token → Option ReaderState
  | .openArray => some (.arrayStart stack)
  | .openObject => some (.objectStart stack)
  | .null => some (plug stack .null)
  | .bool b => some (plug stack (.bool b))
  | .number n => some (plug stack (.number n))
  | .string s => some (plug stack (.string s))
  | _ => none

def ReaderState.step : ReaderState → Token → Option ReaderState
  | .value stack, t => startValue stack t
  | .arrayStart stack, .closeArray => some (plug stack (.array [] true))
  | .arrayStart stack, t => startValue (.array [] :: stack) t
  | .arrayNext items stack, .comma => some (.value (.array items :: stack))
  | .arrayNext items stack, .closeArray => some (plug stack (.array items.reverse true))
  | .objectStart stack, .closeObject => some (plug stack (.object [] true))
  | .objectStart stack, .string k => some (.colon [] k stack)
  | .objectNext fields stack, .comma => some (.key fields stack)
  | .objectNext fields stack, .closeObject => some (plug stack (.object fields.reverse true))
  | .key fields stack, .string k => some (.colon fields k stack)
  | .colon fields k stack, .colon => some (.value (.object fields k :: stack))
  | _, _ => none

/-! ## Stopping at a fault -/

/-- Leaves the open brackets unclosed around `d`. -/
def leaveOpen : List Frame → Draft → Draft
  | [], d => d
  | .array items :: stack, d => leaveOpen stack (.array (d :: items).reverse false)
  | .object fields key :: stack, d =>
    leaveOpen stack (.object ((key, d) :: fields).reverse false)

def ReaderState.cut : ReaderState → Draft
  | .value stack => leaveOpen stack .broken
  | .arrayStart stack => leaveOpen stack (.array [] false)
  | .arrayNext items stack => leaveOpen stack (.array items.reverse false)
  | .objectStart stack => leaveOpen stack (.object [] false)
  | .objectNext fields stack => leaveOpen stack (.object fields.reverse false)
  | .key fields stack => leaveOpen stack (.object fields.reverse false)
  | .colon fields k stack => leaveOpen stack (.object ((k, .broken) :: fields).reverse false)
  | .done d => d

/-! ## Whole texts -/

/-- A value read off the front of a text, and whether anything but spaces
follows it. -/
structure Reading where
  value : Draft
  atEnd : Bool

def readTokens : ReaderState → List Token → Reading
  | .done d, ts => ⟨d, ts.isEmpty⟩
  | s, [] => ⟨s.cut, true⟩
  | s, t :: ts =>
    match s.step t with
    | some s' => readTokens s' ts
    | none => ⟨s.cut, false⟩

def read (text : WireText) : Reading := readTokens (.value []) (tokens text)

/-- The value of a text that is JSON throughout, nested no deeper than
`depthLimit`. -/
def parse? (text : WireText) : Option Json :=
  let r := read text
  if r.atEnd then ofDraft? depthLimit r.value else none

end ProxySync.Json
