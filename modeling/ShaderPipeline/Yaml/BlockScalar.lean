import ShaderPipeline.Yaml.Source

/-!
# Block scalars

Scalars that are marked by their indentation. A literal scalar keeps its line breaks; in a folded
one a single break between two lines that do not start with a blank becomes a space. The head of
the scalar may fix the indentation and say what happens to the breaks at its end: by default one is
kept, `-` drops it and `+` keeps all.
-/

namespace ShaderPipeline.Yaml

/-- What happens to the line breaks at the end of a block scalar. -/
inductive Chomping where
  | clip
  | strip
  | keep
deriving DecidableEq

/-- The indentation indicator and the chomping in the head of a block scalar, in any order, and the
number of characters that they take. -/
def blockHead (text : List Char) : Option (Option Nat × Chomping × Nat) :=
  let chomping? : Option Char → Option Chomping
    | some '+' => some .keep
    | some '-' => some .strip
    | _ => none
  let digit? (c : Option Char) : Option (Option Nat) :=
    match c with
    | some c =>
      if c == '0' then none else if c.isDigit then some (some (c.toNat - 48)) else some none
    | none => some none
  match chomping? text.head? with
  | some chomping => do
    let indent ← digit? text[1]?
    return (indent, chomping, if indent.isSome then 2 else 1)
  | none => do
    match ← digit? text.head? with
    | none => return (none, .clip, 0)
    | some indent =>
      match chomping? text[1]? with
      | some chomping => return (some indent, chomping, 2)
      | none => return (some indent, .clip, 1)

/-- Line breaks and indentation before a line of a block scalar. An `indent` of zero means that any
number of spaces is indentation. Gives back the breaks, the widest indentation that was seen and
what follows; a tab in the indentation is an error. -/
def blockBreaks (indent : Nat) : Nat → Source → Option (List Char × Nat × Source)
  | 0, _ => none
  | fuel + 1, s => do
    let spaces := (s.rest.takeWhile (· == ' ')).length
    let s := s.drop (if indent = 0 then spaces else min spaces (indent - s.column))
    if (indent = 0 || s.column < indent) && s.rest.head? == some '\t' then none
    else if s.rest.head?.any isBreak then
      let (more, widest, after) ← blockBreaks indent fuel s.dropBreak
      return (s.breakText ++ more, max s.column widest, after)
    else return ([], s.column, s)

/-- The lines of a block scalar. `last` is the break before the next line, `breaks` are the further
ones, and `spaced` says that the line before them started with a blank. Gives back the text, the
last break and the further breaks after it. -/
def blockLines (literal : Bool) (indent : Nat) : Nat → List Char → List Char → Bool → Source →
    Option (List Char × List Char × List Char × Source)
  | 0, _, _, _, _ => none
  | fuel + 1, last, breaks, spaced, s =>
    if s.column = indent && !s.rest.isEmpty then do
      let blank := s.rest.head?.any isBlank
      let joined :=
        if !literal && last == ['\n'] && !spaced && !blank then
          (if breaks.isEmpty then [' '] else [])
        else last
      let line := s.rest.takeWhile fun c => !isBreak c
      let s := s.drop line.length
      let next := s.breakText
      let (further, _, s) ← blockBreaks indent fuel s.dropBreak
      let (text, last, rest, s) ← blockLines literal indent fuel next further blank s
      return (joined ++ breaks ++ line ++ text, last, rest, s)
    else some ([], last, breaks, s)

/-- Reads a block scalar inside a collection of the given indentation. -/
def blockScalar (literal : Bool) (parent : Int) (s : Source) : Option (List Char × Source) := do
  let (increment, chomping, length) ← blockHead (s.rest.drop 1)
  let s := ((s.drop (1 + length)).dropWhile isBlank).dropComment
  if !startsBreak s.rest then none
  else
    let s := s.dropBreak
    let fixed : Nat :=
      match increment with
      | some n => (max parent 0).toNat + n
      | none => 0
    let (breaks, widest, s) ← blockBreaks fixed (s.rest.length + 1) s
    let indent := if fixed = 0 then max (max widest (parent + 1).toNat) 1 else fixed
    let (text, last, further, s) ← blockLines literal indent (s.rest.length + 1) [] breaks false s
    let tail :=
      match chomping with
      | .strip => []
      | .clip => last
      | .keep => last ++ further
    return (text ++ tail, s)

end ShaderPipeline.Yaml
