import ShaderPipeline.Text.Blank
import ShaderPipeline.Text.Lines

/-!
# Logical lines

A slot file is read in logical lines. Blank lines and lines whose first non-blank character is `#`
or `!` are skipped. Any other line starts a logical line, which goes on while its text ends in an
odd number of backslashes: the last backslash is dropped and the next physical line, without its
leading blanks, is appended. The end of the file ends a logical line in any case.
-/

namespace ShaderPipeline.SlotFile

open Text

/-- A logical line with the number, from 1, of the physical line on which it starts. -/
structure LogicalLine where
  number : Nat
  text : List Char
deriving DecidableEq

/-- The number of backslashes at the end of a text. -/
def trailingBackslashes (text : List Char) : Nat :=
  (text.reverse.takeWhile (· == '\\')).length

/-- Whether a text asks for the next line to be joined to it. -/
def isContinued (text : List Char) : Bool :=
  trailingBackslashes text % 2 == 1

/-- Whether a line that starts a logical line is passed over. -/
def isSkipped (line : List Char) : Bool :=
  match trimStart line with
  | [] => true
  | first :: _ => first == '#' || first == '!'

/-- Joins following lines to a text for as long as it is continued. Gives back the joined text and
the number of lines that were joined to it. -/
def joinLines (text : List Char) : List (List Char) → List Char × Nat
  | [] => (if isContinued text then text.dropLast else text, 0)
  | next :: rest =>
    if isContinued text then
      let (joined, count) := joinLines (text.dropLast ++ trimStart next) rest
      (joined, count + 1)
    else (text, 0)

/-- The logical lines of a list of physical lines, of which the first `joined` are already part of
an earlier logical line and the next one has the given number. -/
def logicalLinesFrom (number joined : Nat) : List (List Char) → List LogicalLine
  | [] => []
  | line :: rest =>
    match joined with
    | joined + 1 => logicalLinesFrom (number + 1) joined rest
    | 0 =>
      if isSkipped line then logicalLinesFrom (number + 1) 0 rest
      else
        let (text, count) := joinLines (trimStart line) rest
        ⟨number, text⟩ :: logicalLinesFrom (number + 1) count rest

/-- The logical lines of a file. -/
def logicalLines (file : List Char) : List LogicalLine :=
  logicalLinesFrom 1 0 (lines file)

end ShaderPipeline.SlotFile
