import ShaderPipeline.Yaml.Fold

/-!
# Quoted scalars

Scalars in single quotation marks, where two marks stand for one, and in double quotation marks,
where a backslash starts an escape. Line breaks are folded; a document mark inside quotation marks
is an error.
-/

namespace ShaderPipeline.Yaml

/-- The value of a hexadecimal digit. -/
def hexDigit? (c : Char) : Option Nat :=
  if c.isDigit then some (c.toNat - '0'.toNat)
  else if 'a' ≤ c && c ≤ 'f' then some (c.toNat - 'a'.toNat + 10)
  else if 'A' ≤ c && c ≤ 'F' then some (c.toNat - 'A'.toNat + 10)
  else none

/-- The character with a code point in hexadecimal digits. -/
def hexChar? (digits : List Char) : Option Char := do
  let values ← digits.mapM hexDigit?
  let code := values.foldl (fun n d => 16 * n + d) 0
  if code < 0xD800 || (0xE000 ≤ code && code < 0x110000) then some (Char.ofNat code) else none

/-- The character that a backslash and one more character stand for. -/
def escaped? : Char → Option Char
  | '0' => some '\x00'
  | 'a' => some '\x07'
  | 'b' => some '\x08'
  | 't' => some '\t'
  | '\t' => some '\t'
  | 'n' => some '\n'
  | 'v' => some '\x0b'
  | 'f' => some '\x0c'
  | 'r' => some '\r'
  | 'e' => some '\x1b'
  | ' ' => some ' '
  | '"' => some '"'
  | '/' => some '/'
  | '\\' => some '\\'
  | 'N' => some '\u0085'
  | '_' => some '\u00a0'
  | 'L' => some '\u2028'
  | 'P' => some '\u2029'
  | _ => none

/-- A piece of a quoted scalar: its text, the number of characters it takes, and whether it ends
before an escaped line break. -/
structure QuotedPiece where
  text : List Char
  length : Nat
  beforeBreak : Bool

namespace QuotedPiece

/-- A piece with nothing in it. -/
def empty : QuotedPiece := ⟨[], 0, false⟩

/-- The piece with a character in front that is written in `length` characters. -/
def cons (c : Char) (length : Nat) (piece : QuotedPiece) : QuotedPiece :=
  { piece with text := c :: piece.text, length := piece.length + length }

end QuotedPiece

/-- The piece of a single-quoted scalar up to a blank or the closing mark. -/
def singlePiece : List Char → QuotedPiece
  | '\'' :: '\'' :: rest => .cons '\'' 2 (singlePiece rest)
  | c :: rest =>
    if isBlank c || isBreak c || c == '\'' then .empty else .cons c 1 (singlePiece rest)
  | [] => .empty

/-- The piece of a double-quoted scalar up to a blank, the closing mark or an escaped line break. -/
def doublePiece : List Char → Option QuotedPiece
  | '\\' :: 'x' :: a :: b :: rest => do
    let c ← hexChar? [a, b]
    return .cons c 4 (← doublePiece rest)
  | '\\' :: 'u' :: a :: b :: c :: d :: rest => do
    let e ← hexChar? [a, b, c, d]
    return .cons e 6 (← doublePiece rest)
  | '\\' :: 'U' :: a :: b :: c :: d :: e :: f :: g :: h :: rest => do
    let i ← hexChar? [a, b, c, d, e, f, g, h]
    return .cons i 10 (← doublePiece rest)
  | '\\' :: c :: rest =>
    if isBreak c then some ⟨[], 0, true⟩
    else do
      let d ← escaped? c
      return .cons d 2 (← doublePiece rest)
  | c :: rest =>
    if isBlank c || isBreak c || c == '"' then some .empty
    else if c == '\\' then none
    else (doublePiece rest).map (.cons c 1)
  | [] => some .empty

/-- The text of a quoted scalar after its opening mark, and what follows the closing one. -/
def quotedFrom (mark : Char) : Nat → Source → Option (List Char × Source)
  | 0, _ => none
  | fuel + 1, s =>
    if s.atDocumentMark || s.rest.isEmpty then none
    else do
      let piece ← if mark == '"' then doublePiece s.rest else some (singlePiece s.rest)
      let after := s.drop piece.length
      let (gap, after) :=
        if piece.beforeBreak then (Gap.escapedBreak, (after.drop 1).dropBreak)
        else (Gap.none, after)
      if after.rest.head? == some mark then return (piece.text, after.drop 1)
      else
        let (gap, after) ← gap.read (-1) fuel after
        let (more, after) ← quotedFrom mark fuel after
        return (piece.text ++ gap.text ++ more, after)

/-- Reads a quoted scalar that starts with the given mark. -/
def quotedScalar (mark : Char) (s : Source) : Option (List Char × Source) :=
  quotedFrom mark (s.rest.length + 1) (s.drop 1)

end ShaderPipeline.Yaml
