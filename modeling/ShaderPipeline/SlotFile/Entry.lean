import ShaderPipeline.SlotFile.LogicalLine

/-!
# Entries

A logical line is a key and a value. The key ends at the first `=`, `:` or blank that no backslash
escapes; the separator is one `=` or `:` with any blanks around it, or just blanks. A backslash
stands for a line feed, a carriage return, a tab or a form feed together with `n`, `r`, `t` or `f`,
and for the next character together with any other; at the end of the line it stands for nothing.
Blanks at the end of the value are dropped, also escaped ones.
-/

namespace ShaderPipeline.SlotFile

open Text

/-- The character that a backslash and the given character stand for. -/
def unescaped : Char → Char
  | 't' => '\t'
  | 'n' => '\n'
  | 'r' => '\r'
  | 'f' => '\x0c'
  | other => other

/-- Whether a character ends a key. -/
def endsKey (c : Char) : Bool := c == '=' || c == ':' || isBlank c

/-- The key at the start of a line, and the rest from its separator on. -/
def splitKey : List Char → List Char × List Char
  | [] => ([], [])
  | ['\\'] => ([], [])
  | '\\' :: escaped :: rest =>
    let (key, tail) := splitKey rest
    (unescaped escaped :: key, tail)
  | c :: rest =>
    if endsKey c then ([], c :: rest)
    else
      let (key, tail) := splitKey rest
      (c :: key, tail)

/-- The text after a separator: blanks, at most one `=` or `:`, and blanks. -/
def afterSeparator (text : List Char) : List Char :=
  match trimStart text with
  | c :: rest => if c = '=' || c = ':' then trimStart rest else c :: rest
  | [] => []

/-- The text with all escapes replaced. -/
def unescape : List Char → List Char
  | [] => []
  | ['\\'] => []
  | '\\' :: escaped :: rest => unescaped escaped :: unescape rest
  | c :: rest => c :: unescape rest

/-- A key with its value, and the number of the line on which they start. -/
structure Entry where
  line : Nat
  key : List Char
  value : List Char
deriving DecidableEq

/-- The entry of a logical line. -/
def LogicalLine.entry (line : LogicalLine) : Entry :=
  let (key, rest) := splitKey line.text
  ⟨line.number, key, trimEnd (unescape (afterSeparator rest))⟩

/-- The entries of a file. -/
def entries (file : List Char) : List Entry :=
  (logicalLines file).map (·.entry)

end ShaderPipeline.SlotFile
