import ProxySync.Text.Utf8

/-!
# Texts in octets

Commands see a text as a string of octets. Here such a text is a string
whose characters are the octets, all below 256, so that the same functions
work on it as on any string.
-/

namespace ProxySync.Text

def isAscii (c : Char) : Bool := c.toNat < 128

def charOfOctet (b : UInt8) : Char := Char.ofNat b.toNat

def octetOfChar (c : Char) : UInt8 := c.toNat.toUInt8

/-- The octets of a text. -/
def toOctets (s : String) : String :=
  if s.all isAscii then s else String.ofList ((utf8Bytes s).map charOfOctet)

def octetsOfBytes (b : List UInt8) : String := String.ofList (b.map charOfOctet)

def bytesOfOctets (s : String) : List UInt8 := s.toList.map octetOfChar

/-- The text of octets, if they are the encoding of one. -/
def ofOctets? (s : String) : Option String :=
  if s.all isAscii then some s else ofUtf8? (bytesOfOctets s)

/-- The text of octets, with a stand-in for every octet that belongs to no
character. -/
def ofOctets (s : String) : String :=
  if s.all isAscii then s
  else String.ofList ((readUtf8 (bytesOfOctets s)).map (·.getD '\ufffd'))

end ProxySync.Text
