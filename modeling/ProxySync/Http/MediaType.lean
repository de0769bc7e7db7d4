/-!
# Media types

A media type is a type, a subtype and parameters. The subtype may end in a
plus sign and the name of the format underneath.
-/

namespace ProxySync.Http

/-- A character of names in headers. -/
def isTokenChar (c : Char) : Bool := c.isAlphanum || "!#$%&'*+-.^_\x60|~".toList.contains c

/-- A character inside quotes. -/
def isQuotedChar (c : Char) : Bool := 31 < c.toNat && c.toNat != 127

/-- The parameters after a semicolon are well formed. -/
def areParameters : (steps : Nat) → List Char → Bool
  | 0, _ => false
  | steps + 1, s =>
    match s with
    | [] => true
    | ' ' :: rest => areParameters steps rest
    | s =>
      let name := s.takeWhile fun c => isTokenChar c && c != '='
      match s.drop name.length with
      | '=' :: '"' :: rest =>
        let inside := rest.takeWhile fun c => c != '"' && isQuotedChar c
        match rest.drop inside.length with
        | '"' :: rest =>
          !name.isEmpty && !inside.isEmpty &&
            match rest.dropWhile (· == ' ') with
            | [] => true
            | ';' :: rest => areParameters steps rest
            | _ => false
        | _ => false
      | '=' :: rest =>
        let value := rest.takeWhile isTokenChar
        !name.isEmpty &&
          match rest.drop value.length with
          | [] => true
          | ';' :: rest => !value.isEmpty && areParameters steps rest
          | _ => false
      | _ => false

/-- Both sides of the last plus sign that does not stand first. -/
def subtypeParts (s : List Char) : List Char × Option (List Char) :=
  let ending := (s.reverse.takeWhile (· != '+')).reverse
  let front := s.take (s.length - ending.length - 1)
  if s.contains '+' && !front.isEmpty then (front, some ending) else (s, none)

/-- The type is that of JSON texts, in any case and with any parameters. -/
def isJsonType (s : String) : Bool :=
  let text := s.toList.map Char.toLower
  let kind := text.takeWhile isTokenChar
  match text.drop kind.length with
  | '/' :: rest =>
    let sub := rest.takeWhile isTokenChar
    let isWhole := match rest.drop sub.length with
      | [] => true
      | ';' :: rest => !sub.isEmpty && areParameters (rest.length + 1) rest
      | _ => false
    let (name, ending) := subtypeParts sub
    text.all (·.toNat < 128) && isWhole && kind == "application".toList &&
      (name == "json".toList || ending == some "json".toList)
  | _ => false

end ProxySync.Http
