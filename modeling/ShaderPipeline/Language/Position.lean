/-!
# Positions in a source text

Lines and columns count from 1, a column is one character, and a line ends at a line feed only. A
cursor is a place in a text: what is left to read, and the position of its first character. All
readers of the shader language take a cursor and give back a later one; `Cursor.past` is the only
way in which they move, so a position always follows from the characters that were passed.
-/

namespace ShaderPipeline.Language

/-- A place in a source text. -/
structure Position where
  line : Nat
  column : Nat
deriving DecidableEq, Repr

namespace Position

/-- The position of the first character of a text. -/
def start : Position := ⟨1, 1⟩

/-- The position after one character. -/
def next (p : Position) (c : Char) : Position :=
  if c = '\n' then ⟨p.line + 1, 1⟩ else ⟨p.line, p.column + 1⟩

/-- The position after a text. -/
def after (p : Position) (text : List Char) : Position :=
  text.foldl next p

/-- The text of a position in messages. -/
def text (p : Position) : String := s!"{p.line}:{p.column}"

@[simp] theorem after_nil (p : Position) : p.after [] = p := rfl

theorem after_append (p : Position) (a b : List Char) :
    p.after (a ++ b) = (p.after a).after b :=
  List.foldl_append

end Position

/-- What is left of a text, and where it starts. -/
structure Cursor where
  rest : List Char
  position : Position
deriving DecidableEq

namespace Cursor

/-- The cursor at the start of a text. -/
def atStart (text : List Char) : Cursor := ⟨text, .start⟩

/-- The cursor that has passed `taken` and has `rest` before it. -/
def past (c : Cursor) (taken rest : List Char) : Cursor := ⟨rest, c.position.after taken⟩

/-- One cursor is reached from another by passing a text. -/
def Reaches (c d : Cursor) : Prop :=
  ∃ taken, c.rest = taken ++ d.rest ∧ d.position = c.position.after taken

theorem Reaches.refl (c : Cursor) : c.Reaches c := ⟨[], rfl, rfl⟩

theorem Reaches.trans {c d e : Cursor} (h : c.Reaches d) (k : d.Reaches e) : c.Reaches e := by
  obtain ⟨a, ha, pa⟩ := h
  obtain ⟨b, hb, pb⟩ := k
  exact ⟨a ++ b, by simp [ha, hb], by rw [pb, pa, Position.after_append]⟩

/-- Passing the text before the rest reaches the cursor at the rest. -/
theorem reaches_past {c : Cursor} {taken rest : List Char} (h : c.rest = taken ++ rest) :
    c.Reaches (c.past taken rest) :=
  ⟨taken, h, rfl⟩

theorem Reaches.length_le {c d : Cursor} (h : c.Reaches d) : d.rest.length ≤ c.rest.length := by
  obtain ⟨taken, htext, _⟩ := h
  simp [htext]

end Cursor

end ShaderPipeline.Language
