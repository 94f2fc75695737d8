/-!
# Tags

What the tag of a scalar asks for. A tag is a list of octets, because hexadecimal notation can put
any octets into it, also such that form no characters. An octet of zero ends a piece of a tag. The
tags of the core schema ask for one kind of value; a tag that starts with an exclamation mark is a
choice by name if its octets form a text, and says nothing if they do not; all other tags ask for a
text.
-/

namespace ShaderPipeline.Yaml

/-- The octets of a tag or of a piece of one. -/
abbrev Octets := List UInt8

namespace Octets

/-- The octets of a text of ASCII characters. -/
def ofAscii (text : List Char) : Octets := text.map Char.toUInt8

/-- The octets before the first octet of zero. -/
def beforeZero (octets : Octets) : Octets := octets.takeWhile (· != 0)

/-- The text that octets form in UTF-8. -/
def text? (octets : Octets) : Option String := String.fromUTF8? ⟨octets.toArray⟩

end Octets

/-- What a tag asks for. -/
inductive Tag where
  | bool
  | int
  | float
  | null
  | choice (name : String)
  | illegible
  | text
deriving DecidableEq

namespace Tag

/-- The octets that the tags of the core schema start with. -/
def core : Octets := .ofAscii "tag:yaml.org,2002:".toList

/-- The tag of the core schema with a name. -/
def ofCoreName (name : Octets) : Tag :=
  if name = .ofAscii "bool".toList then .bool
  else if name = .ofAscii "int".toList then .int
  else if name = .ofAscii "float".toList then .float
  else if name = .ofAscii "null".toList then .null
  else .text

/-- What a list of octets asks for as a tag. -/
def ofOctets (octets : Octets) : Tag :=
  match octets with
  | 0x21 :: name =>
    match Octets.text? name with
    | some name => .choice name
    | none => .illegible
  | _ =>
    match core.isPrefixOf? octets with
    | some name => ofCoreName name
    | none => .text

end Tag

end ShaderPipeline.Yaml
