import ProxySync.Settings.Basic
import ProxySync.Text.Blank
import ProxySync.Yaml.Node

/-!
# The settings file

A settings file is a YAML mapping from the names of settings to scalars.
Names that are no settings are passed over, whatever they map to. A file
with one fault gives no choices at all.
-/

namespace ProxySync

open Yaml

/-! ## Numbers -/

/-- The value of a text of digits in base `base`. -/
def numeral? (base : Nat) (digits : List Char) : Option Nat := do
  if digits.isEmpty then none
  let values ← digits.mapM hexDigit?
  if values.all (· < base) then some (values.foldl (base * · + ·) 0) else none

/-- A number without a sign or after a plus sign: hexadecimal, octal or
binary after a mark, otherwise decimal without leading zeros. -/
def settingNumber? (s : String) : Option Nat :=
  let digits := match s.toList with
    | '+' :: rest => rest
    | text => text
  match digits with
  | '0' :: 'x' :: rest => numeral? 16 rest
  | '0' :: 'o' :: rest => numeral? 8 rest
  | '0' :: 'b' :: rest => numeral? 2 rest
  | '0' :: _ :: _ => none
  | _ => numeral? 10 digits

/-! ## Values -/

def isNullWord (s : String) : Bool := ["null", "Null", "NULL", "~"].contains s

/-- The tag of the null value. -/
def nullTag : String := "tag:yaml.org,2002:null"

def Yaml.Node.text? : Node → Option String
  | .scalar _ s => some s.text
  | _ => none

/-- The tag of whole numbers. -/
def integerTag : String := "tag:yaml.org,2002:int"

/-- A number of value at most `bound`, plain or in a literal block that is
tagged as one; anything else in quotes or blocks is a text. -/
def Yaml.Node.number? (bound : Nat) : Node → Option Nat
  | .scalar tag ⟨text, style⟩ =>
    if style == .plain || (style == .literal && tag == some integerTag) then
      (settingNumber? text).filter (· ≤ bound)
    else none
  | _ => none

/-- A text, or nothing for a plain null. -/
def Yaml.Node.optionalText? : Node → Option (Option String)
  | .scalar none ⟨text, .plain⟩ =>
    some (if text.isEmpty || isNullWord text then none else some text)
  | .scalar (some tag) ⟨text, .plain⟩ =>
    if tag == nullTag then (if isNullWord text then some none else none) else some (some text)
  | .scalar _ s => some (some s.text)
  | _ => none

/-- A log format by its name, or as a tag of its own on a null. -/
def Yaml.Node.logFormat? : Node → Option LogFormat
  | .scalar tag s =>
    match tag.map String.toList with
    | some ('!' :: name) =>
      if s.style == .plain && (s.text.isEmpty || isNullWord s.text) then
        LogFormat.ofName? (String.ofList name)
      else none
    | _ => LogFormat.ofName? s.text
  | _ => none

/-! ## Choices -/

/-- The entries under the texts of their keys; every key has to be one. -/
def namedEntries? (d : Document) (entries : List (Node × Node)) : Option (List (String × Node)) :=
  entries.mapM fun (k, v) => do some (← (← d.target? k).text?, v)

/-- The entries of a document as choices. A setting may be absent but not
occur twice. -/
def Choices.ofMapping? (d : Document) (entries : List (Node × Node)) : Option Choices := do
  let named ← namedEntries? d entries
  let setting? {α : Type} (named : List (String × Node)) (key : String)
      (read : Node → Option α) : Option (Option α) :=
    match named.filter (·.1 == key) with
    | [] => some none
    | [(_, n)] => ((d.target? n).bind read).map some
    | _ => none
  let port ← setting? named Settings.portKey (Node.number? (UInt16.size - 1))
  let configPath ← setting? named Settings.configPathKey Node.text?
  let templatePath ← setting? named Settings.templatePathKey Node.optionalText?
  let reloadCommand ← setting? named Settings.reloadCommandKey Node.text?
  let storePath ← setting? named Settings.storePathKey Node.text?
  let timeout ← setting? named Settings.reloadTimeoutKey (Node.number? (UInt64.size - 1))
  let logFormat ← setting? named Settings.logFormatKey Node.logFormat?
  some {
    port := port.map Nat.toUInt16
    configPath := configPath
    templatePath := templatePath.join
    reloadCommand := reloadCommand
    storePath := storePath
    reloadTimeoutSecs := timeout.map Nat.toUInt64
    logFormat := logFormat }

/-- The choices of a settings file, if it can be read. Blank text, a text of
comments and an empty document leave every setting open. -/
def Choices.ofText? (text : String) : Option Choices :=
  if Text.isBlankText text then some {}
  else
    match Yaml.document? text.toList with
    | none => none
    | some none => some {}
    | some (some d) =>
      match d.root with
      | .mapping _ entries => Choices.ofMapping? d entries
      | .scalar _ ⟨text, .plain⟩ => if text.isEmpty then some {} else none
      | _ => none

end ProxySync
