import ShaderPipeline.Yaml.Fold

/-!
# Plain scalars

A scalar without quotation marks. It ends before a colon that a blank follows, before a comment, at
a document mark and, outside flow collections, at a line that is not indented deeply enough; inside
flow collections also at the characters that structure them.
-/

namespace ShaderPipeline.Yaml

/-- A character that structures flow collections. -/
def isFlowIndicator (c : Char) : Bool :=
  c == ',' || c == '[' || c == ']' || c == '{' || c == '}'

/-- The characters of a plain scalar up to a blank or its end. Inside a flow collection a colon
must not be followed by a character that structures it. -/
def plainPiece (flow : Bool) : List Char → Option (List Char)
  | [] => some []
  | c :: rest =>
    let clash := flow && c == ':' && rest.head?.any fun d => isFlowIndicator d || d == '?'
    if clash then none
    else if isBlank c || isBreak c || (c == ':' && startsBlank rest) || (flow && isFlowIndicator c)
    then some []
    else (plainPiece flow rest).map (c :: ·)

/-- The text of a plain scalar from a place on, whether it ended after a line break, and what
follows it. -/
def plainFrom (flow : Bool) (indent : Int) : Nat → Gap → Source →
    Option (List Char × Bool × Source)
  | 0, _, _ => none
  | fuel + 1, gap, s =>
    if s.atDocumentMark || s.rest.head? == some '#' then some ([], gap.broken, s)
    else
      match plainPiece flow s.rest with
      | none => none
      | some [] => some ([], gap.broken, s)
      | some piece => do
        let text := gap.text ++ piece
        let after := s.drop piece.length
        if !startsBlank after.rest || after.rest.isEmpty then return (text, false, after)
        else
          let (next, after) ← Gap.read indent fuel .none after
          if !flow && (after.column : Int) < indent then return (text, next.broken, after)
          else
            let (more, broken, after) ← plainFrom flow indent fuel next after
            return (text ++ more, broken, after)

/-- Reads a plain scalar. The flag says that it ended after a line break. -/
def plainScalar (flow : Bool) (indent : Int) (s : Source) : Option (List Char × Bool × Source) :=
  plainFrom flow indent (s.rest.length + 1) .none s

end ShaderPipeline.Yaml
