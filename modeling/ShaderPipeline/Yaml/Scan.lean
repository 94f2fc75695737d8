import ShaderPipeline.Yaml.BlockScalar
import ShaderPipeline.Yaml.PlainScalar
import ShaderPipeline.Yaml.Property

/-!
# Scanning a configuration

A stream as a list of tokens. Outside flow collections, indentation opens and closes mappings. A
scalar, an alias or a mapping in flow style may turn out to be a key when a colon follows it on the
same line within 1024 octets, so the scanner remembers the last place where such a key could start,
once for each open flow collection, and puts the tokens of the key in front of it then. A key must
follow such a place if it is at the indentation of an open mapping.
-/

namespace ShaderPipeline.Yaml

/-- A place where a key without a mark may have started: the number of tokens before it, the place
itself, and whether there has to be a key. -/
structure KeyPlace where
  token : Nat
  place : Source
  required : Bool

/-- What has been scanned, and what may come next. -/
structure Scanner where
  source : Source
  tokens : List Token := []
  key : Option KeyPlace := none
  outerKeys : List (Option KeyPlace) := []
  indent : Int := -1
  outerIndents : List Int := []
  keyAllowed : Bool := true

namespace Scanner

/-- Whether the scanner is inside a flow collection. -/
def inFlow (s : Scanner) : Bool := !s.outerKeys.isEmpty

/-- The scanner with one more token that ends before the given source. -/
def take (s : Scanner) (token : Token) (after : Source) : Scanner :=
  { s with tokens := s.tokens ++ [token], source := after }

/-- Passes over blanks, comments and line breaks before a token, and over byte order marks that
start a line. A tab may not stand where a key may start. -/
def skip : Nat → Scanner → Scanner
  | 0, s => s
  | fuel + 1, s =>
    let tabs := s.inFlow || !s.keyAllowed
    let blank (c : Char) : Bool := c == ' ' || (tabs && c == '\t')
    let source := (s.source.dropOrderMark.dropWhile blank).dropComment
    if source.rest.head?.any isBreak then
      skip fuel { s with source := source.dropBreak, keyAllowed := s.keyAllowed || !s.inFlow }
    else { s with source }

/-- Closes the block mappings that are indented more deeply than a column. -/
def closeTo (column : Int) (s : Scanner) : Scanner :=
  if s.inFlow then s
  else
    let open_ := (s.indent :: s.outerIndents).takeWhile fun indent => column < indent
    let left := (s.indent :: s.outerIndents).dropWhile fun indent => column < indent
    { s with
      tokens := s.tokens ++ open_.map fun _ => Token.blockEnd
      indent := left.headD (-1)
      outerIndents := left.tail }

/-- Opens a block mapping at a column if it is deeper than the open one, with the token at the
given number. -/
def openAt (column number : Nat) (s : Scanner) : Scanner :=
  if !s.inFlow && s.indent < column then
    { s with
      tokens := s.tokens.take number ++ Token.blockMappingStart :: s.tokens.drop number
      indent := column
      outerIndents := s.indent :: s.outerIndents }
  else s

/-- Forgets the place of a key; it is an error if there had to be one. -/
def dropKey (s : Scanner) : Option Scanner :=
  if s.key.any (·.required) then none else some { s with key := none }

/-- Remembers that a key may start here. -/
def saveKey (s : Scanner) : Option Scanner :=
  if s.keyAllowed then do
    let required := !s.inFlow && s.indent == s.source.column
    let s ← s.dropKey
    return { s with key := some ⟨s.tokens.length, s.source, required⟩ }
  else some s

/-- Whether a key that may have started at a place can end here. -/
def reaches (s : Scanner) (k : KeyPlace) : Bool :=
  k.place.line == s.source.line && s.source.offset ≤ k.place.offset + 1024

/-- The mark of a document's start or end, or of the stream's end. -/
def mark (s : Scanner) (token : Token) (length : Nat) : Option Scanner := do
  let s ← (s.closeTo (-1)).dropKey
  return { s.take token (s.source.drop length) with keyAllowed := false }

/-- The start of a flow mapping. -/
def openFlow (s : Scanner) : Option Scanner := do
  let s ← s.saveKey
  let s := s.take .flowMappingStart (s.source.drop 1)
  return { s with key := none, outerKeys := s.key :: s.outerKeys, keyAllowed := true }

/-- The end of a flow mapping. -/
def closeFlow (s : Scanner) : Option Scanner := do
  let s ← s.dropKey
  let s := s.take .flowMappingEnd (s.source.drop 1)
  return { s with
    key := s.outerKeys.headD none
    outerKeys := s.outerKeys.tail
    keyAllowed := false }

/-- The mark of a key. -/
def keyMark (s : Scanner) : Option Scanner := do
  if !s.inFlow && !s.keyAllowed then none
  else
    let s ← (s.openAt s.source.column s.tokens.length).dropKey
    return { s.take .key (s.source.drop 1) with keyAllowed := !s.inFlow }

/-- The mark of a value: after a key without a mark, whose tokens are put in front of it, or after
a key with a mark. -/
def valueMark (s : Scanner) : Option Scanner := do
  let started := s.key.filter s.reaches
  if started.isNone && s.key.any (·.required) then none
  else
    match started with
    | some k =>
      let s := { s with tokens := s.tokens.take k.token ++ Token.key :: s.tokens.drop k.token }
      let s := s.openAt k.place.column k.token
      return { s.take .value (s.source.drop 1) with key := none, keyAllowed := false }
    | none =>
      if !s.inFlow && !s.keyAllowed then none
      else
        let s := { s with key := none }.openAt s.source.column s.tokens.length
        return { s.take .value (s.source.drop 1) with keyAllowed := !s.inFlow }

/-- A token that may be or start a key, read by the given reader. -/
def keyToken (s : Scanner) (read : Source → Option (Token × Source)) : Option Scanner := do
  let s ← s.saveKey
  let (token, after) ← read s.source
  return { s.take token after with keyAllowed := false }

/-- A plain scalar. After one that ends with a line break a key may start. -/
def plain (s : Scanner) : Option Scanner := do
  let s ← s.saveKey
  let (text, broken, after) ← plainScalar s.inFlow (s.indent + 1) s.source
  return { s.take (.scalar true (String.ofList text)) after with keyAllowed := broken }

/-- A block scalar. -/
def block (s : Scanner) (literal : Bool) : Option Scanner := do
  let s ← s.dropKey
  let (text, after) ← blockScalar literal s.indent s.source
  return { s.take (.scalar false (String.ofList text)) after with keyAllowed := true }

/-- Whether a plain scalar can start with a text. -/
def startsPlain (s : Scanner) : Bool :=
  match s.source.rest with
  | [] => false
  | c :: rest =>
    let indicator :=
      c == '-' || c == '?' || c == ':' || c == ',' || c == '[' || c == ']' || c == '\x7b' ||
        c == '\x7d' || c == '#' || c == '&' || c == '*' || c == '!' || c == '|' || c == '>' ||
        c == '\'' || c == '"' || c == '%' || c == '@' || c == '\x60'
    (!indicator && !isBlank c) || (c == '-' && !rest.head?.any isBlank) ||
      (!s.inFlow && (c == '?' || c == ':') && !startsBlank rest)

/-- Scans the token that starts at the source. -/
def token (s : Scanner) (c : Char) (rest : List Char) : Option Scanner :=
  let separate := s.inFlow || startsBlank rest
  if s.source.column = 0 && c == '%' then do
    let s ← (s.closeTo (-1)).dropKey
    let (token, after) ← directive s.source
    return { s.take token after with keyAllowed := false }
  else if s.source.atMark '-' then s.mark .documentStart 3
  else if s.source.atMark '.' then s.mark .documentEnd 3
  else if c == '\x7b' then s.openFlow
  else if c == '\x7d' then s.closeFlow
  else if c == ',' then do
    let s ← s.dropKey
    return { s.take .flowEntry (s.source.drop 1) with keyAllowed := true }
  else if c == '-' && startsBlank rest then none
  else if c == '?' && separate then s.keyMark
  else if c == ':' && separate then s.valueMark
  else if c == '*' then s.keyToken fun source => do
    let (name, after) ← anchorName source
    return (.alias name, after)
  else if c == '&' then s.keyToken fun source => do
    let (name, after) ← anchorName source
    return (.anchor name, after)
  else if c == '!' then s.keyToken (tag s.inFlow)
  else if (c == '|' || c == '>') && !s.inFlow then s.block (c == '|')
  else if c == '\'' || c == '"' then s.keyToken fun source => do
    let (text, after) ← quotedScalar c source
    return (.scalar false (String.ofList text), after)
  else if s.startsPlain then s.plain
  else none

/-- The tokens of a stream from a place on. -/
def run : Nat → Scanner → Option (List Token)
  | 0, _ => none
  | fuel + 1, s =>
    let s := s.skip fuel
    let s := s.closeTo s.source.column
    match s.source.rest with
    | [] => (s.mark .streamEnd 0).map (·.tokens)
    | c :: rest => do run fuel (← s.token c rest)

end Scanner

/-- The tokens of a stream. -/
def scan (text : List Char) : Option (List Token) :=
  if text.all isAllowed then Scanner.run (text.length + 2) { source := .ofText text } else none

end ShaderPipeline.Yaml
