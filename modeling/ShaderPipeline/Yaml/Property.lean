import ShaderPipeline.Yaml.QuotedScalar
import ShaderPipeline.Yaml.Token

/-!
# Anchors, tags and directives

The small tokens around nodes. A tag is written in full between angle brackets, with a handle that
a directive can define, or after a single exclamation mark. Tags may contain octets in hexadecimal
notation. They come in groups, where the first octet fixes the length of its group and the others
are marked as its continuation; whether a group is a character is not asked here.
-/

namespace ShaderPipeline.Yaml

/-- Reads an anchor or alias name after its mark. -/
def anchorName (s : Source) : Option (String × Source) :=
  let s := s.drop 1
  let name := s.rest.takeWhile isNameChar
  let after := s.drop name.length
  let ends :=
    startsBlank after.rest || after.rest.head?.any fun c =>
      c == '?' || c == ':' || c == ',' || c == ']' || c == '}' || c == '%' || c == '@' ||
        c == '\x60'
  if name.isEmpty || !ends then none else some (String.ofList name, after)

/-- A character of a tag; flow indicators are among them only in a tag written in full. -/
def isTagChar (full : Bool) (c : Char) : Bool :=
  isNameChar c || c == ';' || c == '/' || c == '?' || c == ':' || c == '@' || c == '&' ||
    c == '=' || c == '+' || c == '$' || c == '.' || c == '!' || c == '~' || c == '*' ||
    c == '\'' || c == '(' || c == ')' || (full && (c == ',' || c == '[' || c == ']'))

/-- The octets that start a text in hexadecimal notation, as many as asked for. -/
def escapedOctets : Nat → List Char → Option Octets
  | 0, _ => some []
  | count + 1, '%' :: a :: b :: rest => do
    let high ← hexDigit? a
    let low ← hexDigit? b
    return (16 * high + low).toUInt8 :: (← escapedOctets count rest)
  | _ + 1, _ => none

/-- The number of octets in a group whose first octet is given. -/
def groupLength? (first : UInt8) : Option Nat :=
  if first < 0x80 then some 1
  else if 0xC0 ≤ first && first < 0xE0 then some 2
  else if 0xE0 ≤ first && first < 0xF0 then some 3
  else if 0xF0 ≤ first && first < 0xF8 then some 4
  else none

/-- The group of octets that starts a text in hexadecimal notation. -/
def escapedGroup? (text : List Char) : Option Octets := do
  let first ← (← escapedOctets 1 text).head?
  let count ← groupLength? first
  let octets ← escapedOctets count text
  if octets.tail.any fun octet => octet < 0x80 || 0xC0 ≤ octet then none else return octets

/-- Reads the octets of a tag. -/
def tagText (full : Bool) : Nat → Source → Option (Octets × Source)
  | 0, s => some ([], s)
  | fuel + 1, s =>
    match s.rest with
    | [] => some ([], s)
    | c :: _ =>
      if c == '%' then do
        let octets ← escapedGroup? s.rest
        let (more, after) ← tagText full fuel (s.drop (3 * octets.length))
        return (octets ++ more, after)
      else if isTagChar full c then do
        let (more, after) ← tagText full fuel (s.drop 1)
        return (c.toUInt8 :: more, after)
      else some ([], s)

/-- Reads the octets of a piece of a tag, of which there must be one. -/
def tagText1 (full : Bool) (s : Source) : Option (Octets × Source) := do
  let (octets, after) ← tagText full s.rest.length s
  if octets.isEmpty then none else return (octets.beforeZero, after)

/-- The handle at the start of a tag: an exclamation mark, and name characters with a second mark
if there is one. -/
def tagHandle (s : Source) : Option (List Char × Source) :=
  match s.rest with
  | '!' :: rest =>
    let name := rest.takeWhile isNameChar
    let after := s.drop (1 + name.length)
    match after.rest with
    | '!' :: _ => some ('!' :: name ++ ['!'], after.drop 1)
    | _ => some ('!' :: name, after)
  | _ => none

/-- Reads a tag as its handle and the rest of it. The tag of one exclamation mark has no handle. -/
def tag (flow : Bool) (s : Source) : Option (Token × Source) := do
  let (token, after) ←
    if s.rest[1]? == some '<' then do
      let (octets, after) ← tagText1 true (s.drop 2)
      if after.rest.head? == some '>' then pure (Token.tag "" octets, after.drop 1)
      else none
    else do
      let (handle, after) ← tagHandle s
      if 1 < handle.length && handle.getLast? == some '!' then do
        let (octets, after) ← tagText1 false after
        pure (Token.tag (String.ofList handle) octets, after)
      else do
        let (octets, after) ← tagText false after.rest.length after
        match Octets.beforeZero (.ofAscii (handle.drop 1) ++ octets) with
        | [] => pure (Token.tag "" (.ofAscii ['!']), after)
        | suffix => pure (Token.tag "!" suffix, after)
  if startsBlank after.rest || (flow && after.rest.head? == some ',') then return (token, after)
  else none

/-- Reads a number of a version, of at most nine digits. -/
def versionNumber (s : Source) : Option (Nat × Source) :=
  let digits := s.rest.takeWhile Char.isDigit
  if digits.isEmpty || 9 < digits.length then none
  else some (digits.foldl (fun n c => 10 * n + (c.toNat - 48)) 0, s.drop digits.length)

/-- Reads the version that a directive names. -/
def versionDirective (s : Source) : Option (Token × Source) := do
  let (major, after) ← versionNumber (s.dropWhile isBlank)
  if after.rest.head? == some '.' then
    let (minor, after) ← versionNumber (after.drop 1)
    return (.version major minor, after)
  else none

/-- Reads the handle and the text that a tag directive gives to it. -/
def tagDirective (s : Source) : Option (Token × Source) := do
  let (handle, after) ← tagHandle (s.dropWhile isBlank)
  if handle.getLast? != some '!' || !after.rest.head?.any isBlank then none
  else
    let (octets, after) ← tagText1 true (after.dropWhile isBlank)
    if startsBlank after.rest then return (.tagDirective (String.ofList handle) octets, after)
    else none

/-- Reads a directive after its percent sign, to the end of its line. -/
def directive (s : Source) : Option (Token × Source) := do
  let s := s.drop 1
  let name := s.rest.takeWhile isNameChar
  let after := s.drop name.length
  let (token, after) ←
    if !startsBlank after.rest then none
    else
      match String.ofList name with
      | "YAML" => versionDirective after
      | "TAG" => tagDirective after
      | _ => none
  let after := (after.dropWhile isBlank).dropComment
  if startsBreak after.rest then return (token, after.dropBreak) else none

end ShaderPipeline.Yaml
