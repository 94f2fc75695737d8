import ShaderPipeline.Language.Trivia

/-!
# Reading bodies

The text of a block from after its opening brace to the brace that closes it. Comments are copied
and braces in them do not count. A dollar sign outside comments names a property: it must be
followed at once by an identifier. The body starts after the line breaks that follow the opening
brace and ends before the blanks in front of the closing one.
-/

namespace ShaderPipeline.Language

open Text

/-- A piece of a body as it stands in the source. -/
inductive Piece where
  | text (content : List Char)
  | property (reference : PropertyRef)
deriving DecidableEq

namespace Piece

/-- Puts a text in front of pieces. Two texts never stand side by side. -/
def prepend (text : List Char) : List Piece → List Piece
  | .text content :: more => .text (text ++ content) :: more
  | pieces => .text text :: pieces

/-- Removes line breaks at the start of pieces that start with a text. -/
def trimFirst : List Piece → List Piece
  | .text content :: more => .text (content.dropWhile fun c => c == '\r' || c == '\n') :: more
  | pieces => pieces

/-- Removes blanks at the end of pieces that end with a text. -/
def trimLast : List Piece → List Piece
  | [] => []
  | [.text content] => [.text (trimEnd content)]
  | piece :: more => piece :: trimLast more

/-- The segment that a piece stands for; an empty text stands for none. -/
def segment? : Piece → Option Segment
  | .text content => if content.isEmpty then none else some (.text (String.ofList content))
  | .property reference => some (.property reference)

end Piece

/-- Reads pieces up to the brace that closes the block, inside `depth` further braces. -/
def readPieces (opened : Position) (depth : Nat) (c : Cursor) :
    Except CompileError (List Piece × Cursor) :=
  match _hrest : c.rest with
  | [] => .error (.located opened .unterminatedBlock)
  | first :: rest =>
    match _hcomment : leadingComment (first :: rest) with
    | .unclosed => .error (.located c.position .unterminatedComment)
    | .comment text rest =>
      match readPieces opened depth (c.past text rest) with
      | .error e => .error e
      | .ok (pieces, d) => .ok (Piece.prepend text pieces, d)
    | .absent =>
      if first = '$' then
        let name := rest.takeWhile isWordChar
        if rest.head?.any isWordStart then
          match readPieces opened depth (c.past ('$' :: name) (rest.dropWhile isWordChar)) with
          | .error e => .error e
          | .ok (pieces, d) => .ok (.property ⟨String.ofList name, c.position⟩ :: pieces, d)
        else .error (.located c.position .unnamedProperty)
      else if first = '}' && depth = 0 then .ok ([], c.past [first] rest)
      else
        let inner :=
          if first = '{' then depth + 1 else if first = '}' then depth - 1 else depth
        match readPieces opened inner (c.past [first] rest) with
        | .error e => .error e
        | .ok (pieces, d) => .ok (Piece.prepend [first] pieces, d)
termination_by c.rest.length
decreasing_by
  · rw [_hrest]
    exact leadingComment_shorter _hcomment
  · have := (List.dropWhile_sublist isWordChar (l := rest)).length_le
    simp only [_hrest, Cursor.past, List.length_cons]
    omega
  · simp [_hrest, Cursor.past]

theorem readPieces_reaches {opened : Position} {depth : Nat} {c d : Cursor} {pieces : List Piece}
    (h : readPieces opened depth c = .ok (pieces, d)) : c.Reaches d := by
  fun_induction readPieces opened depth c generalizing pieces d <;>
    grind [Cursor.Reaches.trans, Cursor.reaches_past, leadingComment_append,
      List.takeWhile_append_dropWhile]

/-- Reads a body after its opening brace, and the brace that closes it. -/
def readBody (opened : Position) (c : Cursor) : Except CompileError (Body × Cursor) :=
  match readPieces opened 0 c with
  | .error e => .error e
  | .ok (pieces, d) => .ok ((Piece.trimLast (Piece.trimFirst pieces)).filterMap Piece.segment?, d)

theorem readBody_reaches {opened : Position} {c d : Cursor} {body : Body}
    (h : readBody opened c = .ok (body, d)) : c.Reaches d := by
  unfold readBody at h
  split at h
  · cases h
  · rename_i hpieces
    have := readPieces_reaches hpieces
    grind

end ShaderPipeline.Language
