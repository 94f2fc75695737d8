import ShaderPipeline.Text.Blank
import ShaderPipeline.Language.Error

/-!
# Comments and blanks

A comment runs from `//` to the end of its line, the line feed excluded, or from `/*` to the first
`*/` after those two characters. Between tokens, comments and blanks are passed over; in the body
of a block, comments are copied. Both readers take comments from the one function here.
-/

namespace ShaderPipeline.Language

open Text

/-- Splits a text after its first `*/`. -/
def splitAfterClose : List Char → Option (List Char × List Char)
  | [] => none
  | '*' :: '/' :: rest => some (['*', '/'], rest)
  | c :: rest => (splitAfterClose rest).map fun split => (c :: split.1, split.2)

theorem splitAfterClose_append {text taken rest : List Char}
    (h : splitAfterClose text = some (taken, rest)) : text = taken ++ rest := by
  fun_induction splitAfterClose text generalizing taken rest with
  | case1 => simp at h
  | case2 => grind
  | case3 c tail _ ih =>
    obtain ⟨⟨a, b⟩, hab, heq⟩ := Option.map_eq_some_iff.1 h
    obtain ⟨rfl, rfl⟩ := Prod.mk.inj heq
    simp [ih hab]

/-- What a text starts with: no comment, a comment without its end, or a comment and what follows
it. -/
inductive CommentStart where
  | absent
  | unclosed
  | comment (text rest : List Char)
deriving DecidableEq

/-- The comment at the start of a text. -/
def leadingComment : List Char → CommentStart
  | '/' :: '/' :: rest =>
    .comment ('/' :: '/' :: rest.takeWhile (· != '\n')) (rest.dropWhile (· != '\n'))
  | '/' :: '*' :: rest =>
    match splitAfterClose rest with
    | none => .unclosed
    | some (text, rest) => .comment ('/' :: '*' :: text) rest
  | _ => .absent

theorem leadingComment_append {source text rest : List Char}
    (h : leadingComment source = .comment text rest) : source = text ++ rest := by
  unfold leadingComment at h
  split at h
  · obtain ⟨rfl, rfl⟩ := CommentStart.comment.inj h
    simp
  · split at h
    · cases h
    · rename_i hsplit
      obtain ⟨rfl, rfl⟩ := CommentStart.comment.inj h
      simp [splitAfterClose_append hsplit]
  · cases h

theorem leadingComment_ne_nil {source text rest : List Char}
    (h : leadingComment source = .comment text rest) : text ≠ [] := by
  unfold leadingComment at h
  split at h
  · obtain ⟨rfl, rfl⟩ := CommentStart.comment.inj h
    simp
  · split at h
    · cases h
    · obtain ⟨rfl, rfl⟩ := CommentStart.comment.inj h
      simp
  · cases h

/-- What follows a comment is shorter than the text that starts with it. -/
theorem leadingComment_shorter {source text rest : List Char}
    (h : leadingComment source = .comment text rest) : rest.length < source.length := by
  have hpos := List.length_pos_iff.2 (leadingComment_ne_nil h)
  rw [leadingComment_append h, List.length_append]
  omega

/-- Passes over blanks and comments. -/
def skipTrivia (c : Cursor) : Except CompileError Cursor :=
  match _hrest : c.rest with
  | [] => .ok c
  | first :: rest =>
    if isBlank first then skipTrivia (c.past [first] rest)
    else
      match _hcomment : leadingComment (first :: rest) with
      | .absent => .ok c
      | .unclosed => .error (.located c.position .unterminatedComment)
      | .comment text rest => skipTrivia (c.past text rest)
termination_by c.rest.length
decreasing_by
  · simp [_hrest, Cursor.past]
  · rw [_hrest]
    exact leadingComment_shorter _hcomment

theorem skipTrivia_reaches {c d : Cursor} (h : skipTrivia c = .ok d) : c.Reaches d := by
  fun_induction skipTrivia c generalizing d with
  | case1 => exact Except.ok.inj h ▸ .refl _
  | case2 c first rest hrest _ ih => exact .trans (Cursor.reaches_past hrest) (ih h)
  | case3 => exact Except.ok.inj h ▸ .refl _
  | case4 => cases h
  | case5 c first rest hrest _ text tail hcomment ih =>
    exact .trans (Cursor.reaches_past (hrest.trans (leadingComment_append hcomment))) (ih h)

end ShaderPipeline.Language
