/-!
# Configuration text

The characters of a YAML stream and a place in it. Lines and columns count from 0; a line ends at a
carriage return, a line feed, both together, a next-line character, or one of the two Unicode line
and paragraph separators. Control characters other than these and the tab are not allowed anywhere
in a stream.
-/

namespace ShaderPipeline.Yaml

/-- A space or a tab. -/
def isBlank (c : Char) : Bool := c == ' ' || c == '\t'

/-- A character that ends a line. -/
def isBreak (c : Char) : Bool :=
  c == '\n' || c == '\r' || c == '\u0085' || c == '\u2028' || c == '\u2029'

/-- A character of anchor names, tag handles and directive names. -/
def isNameChar (c : Char) : Bool := c.isAlphanum || c == '_' || c == '-'

/-- A character that a stream may contain. -/
def isAllowed (c : Char) : Bool :=
  let n := c.toNat
  n == 0x09 || n == 0x0A || n == 0x0D || (0x20 ≤ n && n ≤ 0x7E) || n == 0x85 ||
    (0xA0 ≤ n && n ≤ 0xFFFD) || 0x10000 ≤ n

/-- Whether a text starts with a blank or a line break, or is empty. -/
def startsBlank : List Char → Bool
  | [] => true
  | c :: _ => isBlank c || isBreak c

/-- Whether a text starts with a line break or is empty. -/
def startsBreak : List Char → Bool
  | [] => true
  | c :: _ => isBreak c

/-- What is left of a stream, and where that is: the number of octets before it, and its line and
column. -/
structure Source where
  rest : List Char
  offset : Nat
  line : Nat
  column : Nat

/-- The number of octets of a text in UTF-8. -/
def octetCount (text : List Char) : Nat := text.foldl (fun count c => count + c.utf8Size) 0

namespace Source

/-- The start of a stream. -/
def ofText (text : List Char) : Source := ⟨text, 0, 0, 0⟩

/-- The source after `count` characters of the same line. -/
def drop (s : Source) (count : Nat) : Source :=
  { s with
    rest := s.rest.drop count
    offset := s.offset + octetCount (s.rest.take count)
    column := s.column + count }

/-- The source after the characters that satisfy a predicate, none of which ends a line. -/
def dropWhile (s : Source) (p : Char → Bool) : Source :=
  s.drop (s.rest.takeWhile p).length

/-- The source after a comment, up to the end of its line. -/
def dropComment (s : Source) : Source :=
  match s.rest with
  | '#' :: _ => s.dropWhile fun c => !isBreak c
  | _ => s

/-- The source after a byte order mark that starts a line. The mark takes a column. -/
def dropOrderMark (s : Source) : Source :=
  if s.column = 0 && s.rest.head? == some '\uFEFF' then s.drop 1 else s

/-- The source after the line break that it starts with, if it does. -/
def dropBreak (s : Source) : Source :=
  match s.rest with
  | '\r' :: '\n' :: rest => ⟨rest, s.offset + 2, s.line + 1, 0⟩
  | c :: rest => if isBreak c then ⟨rest, s.offset + c.utf8Size, s.line + 1, 0⟩ else s
  | [] => s

/-- What the line break at the start of the source stands for in a scalar. -/
def breakText (s : Source) : List Char :=
  match s.rest with
  | c :: _ => if c == '\u2028' || c == '\u2029' then [c] else if isBreak c then ['\n'] else []
  | [] => []

/-- Whether a document mark of three equal characters stands at the start of a line here. -/
def atMark (s : Source) (c : Char) : Bool :=
  s.column == 0 && s.rest.take 3 == [c, c, c] && startsBlank (s.rest.drop 3)

/-- Whether the source is at the mark of a document's start or end. -/
def atDocumentMark (s : Source) : Bool := s.atMark '-' || s.atMark '.'

end Source

end ShaderPipeline.Yaml
