import ShaderPipeline.Yaml.Source

/-!
# Folding

Blanks and line breaks inside a scalar that goes over several lines. Blanks within a line are kept;
blanks around line breaks are dropped, one line break becomes a space, and of several breaks all
but the first are kept.
-/

namespace ShaderPipeline.Yaml

/-- Blanks and breaks between two pieces of a scalar. Once a line has ended, blanks do not count. -/
structure Gap where
  blanks : List Char
  first : List Char
  further : List Char
  broken : Bool

namespace Gap

/-- No blanks and no breaks. -/
def none : Gap := ⟨[], [], [], false⟩

/-- A gap whose first line break is escaped, and so stands for nothing. -/
def escapedBreak : Gap := ⟨[], [], [], true⟩

/-- What a gap stands for between two pieces. -/
def text (gap : Gap) : List Char :=
  if gap.broken then
    if gap.first == ['\n'] then (if gap.further.isEmpty then [' '] else gap.further)
    else gap.first ++ gap.further
  else gap.blanks

/-- Extends a gap as far as possible. A tab that starts a line to the left of `indent` is an
error. -/
def read (indent : Int) : Nat → Gap → Source → Option (Gap × Source)
  | 0, gap, s => some (gap, s)
  | fuel + 1, gap, s =>
    match s.rest with
    | [] => some (gap, s)
    | c :: _ =>
      if isBlank c then
        if gap.broken then
          if c == '\t' && (s.column : Int) < indent then Option.none
          else read indent fuel gap (s.drop 1)
        else read indent fuel { gap with blanks := gap.blanks ++ [c] } (s.drop 1)
      else if isBreak c then
        let next :=
          if gap.broken then { gap with further := gap.further ++ s.breakText }
          else { gap with blanks := [], first := s.breakText, broken := true }
        read indent fuel next s.dropBreak
      else some (gap, s)

end Gap

end ShaderPipeline.Yaml
