import ShaderPipeline.Decimal.Reading
import ShaderPipeline.Language.Trivia

/-!
# Reading tokens

The next token of a source after blanks and comments. A token is as long as it can be: an
identifier ends where no identifier character follows, and a run of digits must not run into an
identifier character. An integer is below 2^32.
-/

namespace ShaderPipeline.Language

/-- A token and the place where it starts. -/
structure PlacedToken where
  token : Token
  location : Position
deriving DecidableEq

/-- The token that starts at the first character of a text, and what follows it. -/
def leadingToken (first : Char) (rest : List Char) :
    Except Fault (Token × List Char × List Char) :=
  match Token.mark? first with
  | some mark => .ok (mark, [first], rest)
  | none =>
    let text := first :: rest
    if first.isDigit then
      let digits := text.takeWhile Char.isDigit
      let after := text.dropWhile Char.isDigit
      let value := Decimal.digitsValue digits
      if after.head?.any isWordChar then .error (.malformedInteger (String.ofList digits))
      else if value < UInt32.size then .ok (.integer value, digits, after)
      else .error (.integerOutOfRange (String.ofList digits))
    else if isWordStart first then
      let word := text.takeWhile isWordChar
      .ok (.identifier (String.ofList word), word, text.dropWhile isWordChar)
    else .error (.unexpectedCharacter first)

/-- A token is a non-empty piece of the text. -/
theorem leadingToken_append {first : Char} {rest taken after : List Char} {token : Token}
    (h : leadingToken first rest = .ok (token, taken, after)) :
    first :: rest = taken ++ after ∧ taken ≠ [] := by
  unfold leadingToken at h
  split at h
  · grind
  · simp only at h
    split at h
    · rename_i hdigit
      split at h
      · cases h
      · split at h
        · obtain ⟨-, rfl, rfl⟩ := by simpa using h
          simp [hdigit]
        · cases h
    · split at h
      · rename_i hstart
        obtain ⟨-, rfl, rfl⟩ := by simpa using h
        have hword : isWordChar first = true := by
          grind [isWordStart, isWordChar, Char.isAlphanum]
        simp [hword]
      · cases h

/-- The next token after blanks and comments, or nothing at the end of the text. -/
def nextToken (c : Cursor) : Except CompileError (Option PlacedToken × Cursor) :=
  match skipTrivia c with
  | .error e => .error e
  | .ok d =>
    match d.rest with
    | [] => .ok (none, d)
    | first :: rest =>
      match leadingToken first rest with
      | .error fault => .error (.located d.position fault)
      | .ok (token, taken, after) => .ok (some ⟨token, d.position⟩, d.past taken after)

theorem nextToken_reaches {c d : Cursor} {found : Option PlacedToken}
    (h : nextToken c = .ok (found, d)) : c.Reaches d := by
  unfold nextToken at h
  split at h
  · cases h
  · rename_i mid hmid
    have hskip := skipTrivia_reaches hmid
    split at h
    · grind
    · rename_i hrest
      split at h
      · cases h
      · rename_i htoken
        have hreach := Cursor.reaches_past (hrest.trans (leadingToken_append htoken).1)
        grind [Cursor.Reaches.trans]

/-- A token takes at least one character. -/
theorem nextToken_shorter {c d : Cursor} {found : PlacedToken}
    (h : nextToken c = .ok (some found, d)) : d.rest.length < c.rest.length := by
  unfold nextToken at h
  split at h
  · cases h
  · rename_i mid hmid
    have hskip := (skipTrivia_reaches hmid).length_le
    split at h
    · grind
    · rename_i first rest hrest
      split at h
      · cases h
      · rename_i token taken after htoken
        obtain ⟨happend, hne⟩ := leadingToken_append htoken
        have hd : d.rest = after := by grind [Cursor.past]
        have hpos := List.length_pos_iff.2 hne
        have hlength : mid.rest.length = taken.length + after.length := by
          rw [hrest, happend, List.length_append]
        rw [hd]
        omega

end ShaderPipeline.Language
