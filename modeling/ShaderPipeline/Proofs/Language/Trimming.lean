import ShaderPipeline.Proofs.Language.Described

/-!
# Trimmed bodies

A body is trimmed piece by piece: line breaks go from a text at its start, blanks from a text at
its end, and texts of which nothing is left go altogether. Seen as a list of characters and
references (`Atom`), nothing else happens to a body than that the entries at both ends go
(`body_eq_regroup`). So the segments of a body follow from its trimmed atoms, and it does not
matter whether a character stood in a comment.
-/

namespace ShaderPipeline.Language

open Grammar Text

/-! ## Bodies as characters and references -/

namespace Grammar

/-- What a body consists of at each place: a character, be it in a comment or not, or a
reference. -/
inductive Atom where
  | char (c : Char)
  | reference (found : PropertyRef)
deriving DecidableEq

namespace Atom

/-- A line break at which a body does not start. -/
def isBreak : Atom → Bool
  | .char c => c == '\r' || c == '\n'
  | .reference _ => false

/-- A blank with which a body does not end. -/
def isBlank : Atom → Bool
  | .char c => Text.isBlank c
  | .reference _ => false

/-- How an atom is written. -/
def text : Atom → List Char
  | .char c => [c]
  | .reference found => '$' :: found.name.toList

end Atom

/-- The atoms without those that are trimmed. -/
def trimmed (atoms : List Atom) : List Atom :=
  dropTrailing Atom.isBlank (atoms.dropWhile Atom.isBreak)

/-- The atoms of a piece of the grammar. -/
def Part.atoms : Part → List Atom
  | .comment text => text.map .char
  | .reference name => [.reference (referenceTo (String.ofList name))]
  | .char c => [.char c]

/-- The atoms of a piece that was read. -/
def pieceAtoms : Piece → List Atom
  | .text content => content.map .char
  | .property found => [.reference found]

/-- The atoms of pieces that were read. -/
def piecesAtoms (found : List Piece) : List Atom := found.flatMap pieceAtoms

/-- No pieces have no atoms. -/
@[simp] theorem piecesAtoms_nil : piecesAtoms [] = [] := rfl

/-- The atoms of a text are its characters. -/
@[simp] theorem piecesAtoms_text (content : List Char) (more : List Piece) :
    piecesAtoms (.text content :: more) = content.map .char ++ piecesAtoms more :=
  rfl

/-- A reference is an atom. -/
@[simp] theorem piecesAtoms_property (found : PropertyRef) (more : List Piece) :
    piecesAtoms (.property found :: more) = .reference found :: piecesAtoms more :=
  rfl

/-- The segments that start with a character. -/
def prependChar (c : Char) : Body → Body
  | .text content :: more => .text (String.ofList (c :: content.toList)) :: more
  | body => .text (String.ofList [c]) :: body

/-- The segments that atoms form. -/
def regroup : List Atom → Body
  | [] => []
  | .char c :: atoms => prependChar c (regroup atoms)
  | .reference found :: atoms => .property found :: regroup atoms

/-- Pieces of which no two texts stand side by side. -/
inductive Separated : List Piece → Prop
  | nil : Separated []
  | property {found : PropertyRef} {more : List Piece} (hmore : Separated more) :
      Separated (.property found :: more)
  | text {content : List Char} : Separated [.text content]
  | textProperty {content : List Char} {found : PropertyRef} {more : List Piece}
      (hmore : Separated more) : Separated (.text content :: .property found :: more)

/-- A text in front of pieces becomes part of the first text. -/
theorem Separated.prepend {found : List Piece} (h : Separated found) (text : List Char) :
    Separated (Piece.prepend text found) := by
  cases h with
  | nil => exact .text
  | property hmore => exact .textProperty hmore
  | text => exact .text
  | textProperty hmore => exact .textProperty hmore

/-- The pieces of a body are separated. -/
theorem separated_pieces (parts : List Part) : Separated (pieces parts) := by
  induction parts with
  | nil => exact .nil
  | cons part parts ih =>
    cases part with
    | comment text => exact ih.prepend text
    | reference name => exact .property ih
    | char c => exact ih.prepend [c]

/-- A text in front of pieces comes first. -/
theorem piecesAtoms_prepend (text : List Char) (found : List Piece) :
    piecesAtoms (Piece.prepend text found) = text.map .char ++ piecesAtoms found := by
  cases found with
  | nil => simp [Piece.prepend]
  | cons piece found => cases piece <;> simp [Piece.prepend]

/-- Grouping characters to texts does not change the atoms of a body. -/
theorem piecesAtoms_pieces (parts : List Part) :
    piecesAtoms (pieces parts) = parts.flatMap Part.atoms := by
  induction parts with
  | nil => rfl
  | cons part parts ih =>
    rw [List.flatMap_cons, ← ih]
    cases part with
    | comment text => exact piecesAtoms_prepend text _
    | reference name => rfl
    | char c => exact piecesAtoms_prepend [c] _

/-- Line breaks go from the start of the atoms. -/
theorem piecesAtoms_trimFirst {found : List Piece} (h : Separated found) :
    piecesAtoms (Piece.trimFirst found) = (piecesAtoms found).dropWhile Atom.isBreak := by
  have hbreak : Atom.isBreak ∘ Atom.char = fun c => c == '\r' || c == '\n' := rfl
  cases h with
  | nil => rfl
  | property hmore => rfl
  | text => simp [Piece.trimFirst, List.dropWhile_map, hbreak]
  | @textProperty content reference more hmore =>
    have hkept : Atom.isBreak (.reference reference) = false := rfl
    rw [piecesAtoms_text, piecesAtoms_property, dropWhile_append_cons hkept, List.dropWhile_map,
      hbreak]
    rfl

/-- Pieces stay separated when their start is trimmed. -/
theorem Separated.trimFirst {found : List Piece} (h : Separated found) :
    Separated (Piece.trimFirst found) := by
  cases h with
  | nil => exact .nil
  | property hmore => exact .property hmore
  | text => exact .text
  | textProperty hmore => exact .textProperty hmore

/-- Only what follows a reference is trimmed at its end. -/
theorem trimLast_property (reference : PropertyRef) (more : List Piece) :
    Piece.trimLast (.property reference :: more) = .property reference :: Piece.trimLast more := by
  cases more <;> rfl

/-- Blanks go from the end of the atoms. -/
theorem piecesAtoms_trimLast {found : List Piece} (h : Separated found) :
    piecesAtoms (Piece.trimLast found) = dropTrailing Atom.isBlank (piecesAtoms found) := by
  have hkept (reference : PropertyRef) : Atom.isBlank (.reference reference) = false := rfl
  induction h with
  | nil => rfl
  | @property reference more hmore ih =>
    rw [trimLast_property, piecesAtoms_property, piecesAtoms_property, ih]
    exact (@dropTrailing_append_cons _ Atom.isBlank [] _ _ (hkept reference)).symm
  | @text content =>
    rw [piecesAtoms_text, piecesAtoms_nil, List.append_nil, dropTrailing_map]
    exact List.append_nil _
  | @textProperty content reference more hmore ih =>
    rw [Piece.trimLast_cons_cons, trimLast_property, piecesAtoms_text, piecesAtoms_text,
      piecesAtoms_property, piecesAtoms_property, ih, dropTrailing_append_cons (hkept reference)]

/-- Pieces stay separated when their end is trimmed. -/
theorem Separated.trimLast {found : List Piece} (h : Separated found) :
    Separated (Piece.trimLast found) := by
  induction h with
  | nil => exact .nil
  | property hmore ih =>
    rw [trimLast_property]
    exact .property ih
  | text => exact .text
  | textProperty hmore ih =>
    rw [Piece.trimLast_cons_cons, trimLast_property]
    exact .textProperty ih

/-- A run of characters in front of what does not start with a text is a text of its own. -/
theorem regroup_text {content : List Char} {atoms : List Atom}
    (h : ∀ text more, regroup atoms ≠ .text text :: more) :
    regroup (content.map .char ++ atoms) =
      (Piece.segment? (.text content)).toList ++ regroup atoms := by
  induction content with
  | nil => rfl
  | cons c content ih =>
    rw [List.map_cons, List.cons_append, regroup, ih]
    cases content with
    | nil =>
      have hnil : (Piece.segment? (.text [])).toList = [] := rfl
      rw [hnil, List.nil_append]
      unfold prependChar
      split
      · rename_i text more hmore
        exact absurd hmore (h text more)
      · rfl
    | cons d content => simp [Piece.segment?, prependChar]

/-- The segments of separated pieces follow from their atoms. -/
theorem regroup_piecesAtoms {found : List Piece} (h : Separated found) :
    regroup (piecesAtoms found) = found.filterMap Piece.segment? := by
  induction h with
  | nil => rfl
  | property hmore ih => rw [piecesAtoms_property, regroup, ih]; rfl
  | @text content =>
    rw [piecesAtoms_text, regroup_text (by intro text more; simp [regroup]), List.filterMap_cons]
    cases Piece.segment? (.text content) <;> rfl
  | @textProperty content reference more hmore ih =>
    rw [piecesAtoms_text, regroup_text (by intro text more; simp [regroup]), piecesAtoms_property,
      regroup, ih, List.filterMap_cons]
    cases Piece.segment? (.text content) <;> rfl

/-- A body is what its atoms form after trimming. -/
theorem body_eq_regroup (parts : List Part) :
    body parts = regroup (trimmed (parts.flatMap Part.atoms)) := by
  have hpieces := separated_pieces parts
  rw [body, ← regroup_piecesAtoms hpieces.trimFirst.trimLast,
    piecesAtoms_trimLast hpieces.trimFirst, piecesAtoms_trimFirst hpieces, piecesAtoms_pieces,
    trimmed]

/-! ## Bodies as texts -/

/-- How a segment is written. -/
def segmentText : Segment → List Char
  | .text content => content.toList
  | .property reference => '$' :: reference.name.toList

/-- How a body is written. -/
def bodyText (segments : Body) : List Char := segments.flatMap segmentText

/-- Grouping characters to texts does not change how a body is written. -/
theorem bodyText_regroup (atoms : List Atom) :
    bodyText (regroup atoms) = atoms.flatMap Atom.text := by
  induction atoms with
  | nil => rfl
  | cons atom atoms ih =>
    rw [List.flatMap_cons, ← ih]
    cases atom with
    | reference found => rfl
    | char c =>
      rw [regroup]
      match regroup atoms with
      | [] => simp [prependChar, bodyText, segmentText, Atom.text]
      | .text content :: more => simp [prependChar, bodyText, segmentText, Atom.text]
      | .property found :: more => simp [prependChar, bodyText, segmentText, Atom.text]

end Grammar

end ShaderPipeline.Language
