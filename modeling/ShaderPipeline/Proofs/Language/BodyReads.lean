import ShaderPipeline.Proofs.Language.Reads
import ShaderPipeline.Proofs.Language.Unplaced

/-!
# Reading bodies

The reader of bodies reads exactly the bodies of the grammar with the brace after them. The reader
counts the braces that are open, while the grammar says that they balance; `Closes` is the
condition on what is left of a body inside a number of open braces, and an invariant of the reader.
-/

namespace ShaderPipeline.Language

open Grammar Text

/-! ## Braces -/

namespace Grammar

/-- Pieces close `depth` braces and all that they open, and no brace besides. -/
def Closes : Nat → List Part → Prop
  | depth, [] => depth = 0
  | depth, part :: parts => ∃ inner : Nat, (inner : Int) = depth + part.opened ∧ Closes inner parts

/-- What is closed is counted from the open braces on, and the count is never negative. -/
theorem closes_iff {depth : Nat} {parts : List Part} :
    Closes depth parts ↔
      depth + opened parts = 0 ∧ ∀ front, front <+: parts → 0 ≤ depth + opened front := by
  induction parts generalizing depth with
  | nil => simp [Closes, opened]
  | cons part parts ih =>
    have hcons (more : List Part) : opened (part :: more) = part.opened + opened more := rfl
    constructor
    · intro h
      obtain ⟨inner, hinner, hcloses⟩ := h
      obtain ⟨hsum, hfronts⟩ := ih.1 hcloses
      refine ⟨by rw [hcons]; omega, fun front hfront => ?_⟩
      rcases List.prefix_cons_iff.1 hfront with rfl | ⟨more, rfl, hmore⟩
      · simp [opened]
      · have := hfronts more hmore
        rw [hcons]
        omega
    · intro h
      obtain ⟨hsum, hfronts⟩ := h
      have hpart := hfronts [part] (by simp)
      rw [hcons] at hsum hpart
      have hnil : opened [] = 0 := rfl
      refine ⟨(depth + part.opened).toNat, by omega, ih.2 ⟨by omega, fun front hfront => ?_⟩⟩
      have := hfronts (part :: front) (List.cons_prefix_cons.2 ⟨rfl, hfront⟩)
      rw [hcons] at this
      omega

/-- Inside no further brace, pieces close what they open. -/
theorem closes_zero_iff {parts : List Part} : Closes 0 parts ↔ Balanced parts := by
  simp [closes_iff, Balanced]

/-- Braces are opened and closed by the characters that are braces. -/
theorem Part.opened_char (c : Char) :
    (Part.char c).opened = if c = '{' then 1 else if c = '}' then -1 else 0 := by
  unfold Part.opened
  split <;> simp_all

end Grammar

/-! ## What a body says -/

/-- The pieces of text and references that a body consists of, without their places. -/
def Grammar.pieces : List Part → List Piece
  | [] => []
  | .comment text :: parts => Piece.prepend text (pieces parts)
  | .char c :: parts => Piece.prepend [c] (pieces parts)
  | .reference name :: parts => .property ⟨String.ofList name, .start⟩ :: pieces parts

/-- The body that pieces make up, trimmed at its ends. -/
def Grammar.body (parts : List Part) : Body :=
  (Piece.trimLast (Piece.trimFirst (pieces parts))).filterMap Piece.segment?

namespace Piece

/-- A piece without its place. -/
def unplaced : Piece → Piece
  | .text content => .text content
  | .property reference => .property reference.unplaced

/-- Texts are put in front in the same way whatever the places. -/
theorem map_unplaced_prepend (text : List Char) (pieces : List Piece) :
    (prepend text pieces).map unplaced = prepend text (pieces.map unplaced) := by
  cases pieces with
  | nil => rfl
  | cons piece more => cases piece <;> rfl

/-- The start is trimmed in the same way whatever the places. -/
theorem map_unplaced_trimFirst (pieces : List Piece) :
    (trimFirst pieces).map unplaced = trimFirst (pieces.map unplaced) := by
  cases pieces with
  | nil => rfl
  | cons piece more => cases piece <;> rfl

/-- Only the last piece is trimmed at its end. -/
theorem trimLast_cons_cons (first second : Piece) (more : List Piece) :
    trimLast (first :: second :: more) = first :: trimLast (second :: more) := by
  cases first <;> rfl

/-- The end is trimmed in the same way whatever the places. -/
theorem map_unplaced_trimLast (pieces : List Piece) :
    (trimLast pieces).map unplaced = trimLast (pieces.map unplaced) := by
  induction pieces with
  | nil => rfl
  | cons piece more ih =>
    cases more with
    | nil => cases piece <;> rfl
    | cons next more =>
      rw [List.map_cons] at ih
      rw [trimLast_cons_cons, List.map_cons, List.map_cons, List.map_cons, trimLast_cons_cons, ih]

/-- The same segments are left whatever the places. -/
theorem segment?_unplaced (piece : Piece) :
    piece.unplaced.segment? = piece.segment?.map Segment.unplaced := by
  cases piece with
  | text content => by_cases h : content.isEmpty <;> simp [unplaced, segment?, h, Segment.unplaced]
  | property reference => rfl

end Piece

/-! ## The reader -/

/-- A comment is copied. -/
theorem readPieces_comment {opened : Position} {depth : Nat} {c d : Cursor} {text rest : List Char}
    {found : List Piece} (hrest : c.rest = text ++ rest) (hcomment : Comment text rest)
    (hmore : readPieces opened depth (c.past text rest) = .ok (found, d)) :
    readPieces opened depth c = .ok (Piece.prepend text found, d) := by
  have hread := leadingComment_of_comment hcomment
  obtain ⟨first, tail, rfl⟩ : ∃ first tail, text = first :: tail := by
    cases hcomment <;> exact ⟨_, _, rfl⟩
  rw [readPieces]
  split
  · simp_all
  · rename_i hcons
    obtain ⟨rfl, rfl⟩ := List.cons.inj (hrest.symm.trans hcons)
    split
    · simp_all
    · rename_i hcomment'
      obtain ⟨rfl, rfl⟩ := CommentStart.comment.inj (hread.symm.trans hcomment')
      simp only [hmore]
    · simp_all

/-- Where no comment starts, what is read depends on the first character. -/
theorem readPieces_of_absent {opened : Position} {depth : Nat} {c : Cursor} {first : Char}
    {rest : List Char} (hrest : c.rest = first :: rest)
    (habsent : leadingComment (first :: rest) = .absent) :
    readPieces opened depth c =
      if first = '$' then
        if rest.head?.any isWordStart then
          match readPieces opened depth
            (c.past ('$' :: rest.takeWhile isWordChar) (rest.dropWhile isWordChar)) with
          | .error e => .error e
          | .ok (pieces, d) =>
            .ok (.property ⟨String.ofList (rest.takeWhile isWordChar), c.position⟩ :: pieces, d)
        else .error (.located c.position .unnamedProperty)
      else if first = '}' && depth = 0 then .ok ([], c.past [first] rest)
      else
        match readPieces opened
          (if first = '{' then depth + 1 else if first = '}' then depth - 1 else depth)
          (c.past [first] rest) with
        | .error e => .error e
        | .ok (pieces, d) => .ok (Piece.prepend [first] pieces, d) := by
  rw [readPieces]
  split
  · rename_i hnil
    rw [hrest] at hnil
    cases hnil
  · rename_i hcons
    obtain ⟨rfl, rfl⟩ := List.cons.inj (hrest.symm.trans hcons)
    split
    · rename_i hunclosed
      rw [habsent] at hunclosed
      cases hunclosed
    · rename_i hcomment
      rw [habsent] at hcomment
      cases hcomment
    · rfl

/-- A dollar sign with a name is a reference. -/
theorem readPieces_reference {opened : Position} {depth : Nat} {c d : Cursor}
    {name rest : List Char} {found : List Piece} (hrest : c.rest = '$' :: (name ++ rest))
    (hname : IsIdentifier name) (hends : EndsWord rest)
    (hmore : readPieces opened depth (c.past ('$' :: name) rest) = .ok (found, d)) :
    readPieces opened depth c = .ok (.property ⟨String.ofList name, c.position⟩ :: found, d) := by
  have habsent : leadingComment ('$' :: (name ++ rest)) = .absent :=
    leadingComment_eq_absent_iff.2 (by simp [OpensComment])
  have hstart : (name ++ rest).head?.any isWordStart = true := by
    obtain ⟨first, tail, rfl, hfirst⟩ := hname.exists_cons
    simpa using hfirst
  rw [readPieces_of_absent hrest habsent]
  simp only [if_true, hstart, takeWhile_run hname.2 hends, dropWhile_run hname.2 hends, hmore]

/-- The closing brace ends the body. -/
theorem readPieces_close {opened : Position} {c : Cursor} {rest : List Char}
    (hrest : c.rest = '}' :: rest) : readPieces opened 0 c = .ok ([], c.past ['}'] rest) := by
  have habsent : leadingComment ('}' :: rest) = .absent :=
    leadingComment_eq_absent_iff.2 (by simp [OpensComment])
  rw [readPieces_of_absent hrest habsent]
  simp

/-- The reader counts the braces as the grammar does, unless the brace is the closing one. -/
theorem depth_after_char {c : Char} {depth : Nat} (h : ¬ (c = '}' ∧ depth = 0)) :
    ((if c = '{' then depth + 1 else if c = '}' then depth - 1 else depth : Nat) : Int) =
      depth + (Part.char c).opened := by
  rw [Part.opened_char]
  split
  · rfl
  · split
    · rename_i hclose
      have hdepth : depth ≠ 0 := fun hzero => h ⟨hclose, hzero⟩
      omega
    · simp

/-- Any other character is copied, and braces are counted. -/
theorem readPieces_char {opened : Position} {depth inner : Nat} {c d : Cursor} {first : Char}
    {rest : List Char} {found : List Piece} (hrest : c.rest = first :: rest)
    (hdollar : first ≠ '$') (hopens : ¬ OpensComment (first :: rest))
    (hinner : (inner : Int) = depth + (Part.char first).opened)
    (hmore : readPieces opened inner (c.past [first] rest) = .ok (found, d)) :
    readPieces opened depth c = .ok (Piece.prepend [first] found, d) := by
  have habsent := leadingComment_eq_absent_iff.2 hopens
  have hopen : ¬ (first = '}' ∧ depth = 0) := by
    intro h
    obtain ⟨rfl, rfl⟩ := h
    simp [Part.opened_char] at hinner
  have hdepth : (if first = '{' then depth + 1 else if first = '}' then depth - 1 else depth) =
      inner := by
    have := depth_after_char hopen
    omega
  rw [readPieces_of_absent hrest habsent, if_neg hdollar, if_neg (by simpa using hopen)]
  simp only [hdepth, hmore]

/-- What is read as a body is a body of the grammar. -/
theorem parts_of_readPieces {opened : Position} {depth : Nat} {c d : Cursor} {found : List Piece}
    (h : readPieces opened depth c = .ok (found, d)) :
    ∃ parts, Parts parts c.rest ('}' :: d.rest) ∧ Closes depth parts ∧
      found.map Piece.unplaced = pieces parts := by
  fun_induction readPieces opened depth c generalizing found d with
  | case1 => cases h
  | case2 => cases h
  | case3 => cases h
  | case4 depth c first rest hrest text tail hcomment more e hmore ih =>
    obtain ⟨rfl, rfl⟩ := by simpa using h
    obtain ⟨parts, hparts, hcloses, hfound⟩ := ih hmore
    refine ⟨.comment text :: parts, ?_, ⟨depth, by simp [Part.opened], hcloses⟩, ?_⟩
    · rw [hrest, leadingComment_append hcomment]
      exact .cons (.comment (comment_of_leadingComment hcomment)) hparts
    · rw [Piece.map_unplaced_prepend, hfound, pieces]
  | case5 => cases h
  | case6 depth c rest name hstart more e hmore hrest hcomment =>
    rename_i ih
    obtain ⟨rfl, rfl⟩ := by simpa using h
    obtain ⟨parts, hparts, hcloses, hfound⟩ := ih hmore
    have hname : IsIdentifier (rest.takeWhile isWordChar) := isIdentifier_takeWhile hstart
    refine ⟨.reference (rest.takeWhile isWordChar) :: parts, ?_,
      ⟨depth, by simp [Part.opened], hcloses⟩, ?_⟩
    · have hends : EndsWord (rest.dropWhile isWordChar) := head?_dropWhile_eq_false isWordChar rest
      have hcons := Parts.cons (.reference hname hends) hparts
      rw [List.takeWhile_append_dropWhile] at hcons
      exact hrest ▸ hcons
    · rw [List.map_cons, hfound]
      rfl
  | case7 => cases h
  | case8 depth c first rest hrest hcomment hdollar hclose =>
    obtain ⟨rfl, rfl⟩ := by simpa using h
    obtain ⟨rfl, rfl⟩ : first = '}' ∧ depth = 0 := by simpa using hclose
    exact ⟨[], hrest ▸ .nil, rfl, rfl⟩
  | case9 => cases h
  | case10 depth c first rest hrest hcomment hdollar hclose inner more e hmore =>
    rename_i ih
    obtain ⟨rfl, rfl⟩ := by simpa using h
    obtain ⟨parts, hparts, hcloses, hfound⟩ := ih hmore
    refine ⟨.char first :: parts, ?_, ⟨_, ?_, hcloses⟩, ?_⟩
    · rw [hrest]
      exact .cons (.char hdollar (leadingComment_eq_absent_iff.1 hcomment)) hparts
    · exact depth_after_char (by simpa using hclose)
    · rw [Piece.map_unplaced_prepend, hfound, pieces]

/-- A body of the grammar is read as a body. -/
theorem readPieces_of_parts (opened : Position) {depth : Nat} {parts : List Part}
    {text rest : List Char} (hparts : Parts parts text ('}' :: rest)) (hcloses : Closes depth parts)
    {c : Cursor} (hc : c.rest = text) :
    ∃ found d, readPieces opened depth c = .ok (found, d) ∧
      found.map Piece.unplaced = pieces parts ∧ d.rest = rest := by
  induction parts generalizing depth text c with
  | nil =>
    cases hparts
    obtain rfl : depth = 0 := hcloses
    exact ⟨[], _, readPieces_close hc, rfl, rfl⟩
  | cons part parts ih =>
    obtain ⟨inner, hinner, hinside⟩ := hcloses
    cases hparts with
    | @cons _ _ _ after _ hpart hmore =>
      cases hpart with
      | @comment content _ hcomment =>
        obtain rfl : depth = inner := by
          simp only [Part.opened] at hinner
          omega
        obtain ⟨found, d, hread, hfound, hrest⟩ := ih hmore hinside (c := c.past content after) rfl
        refine ⟨Piece.prepend content found, d, readPieces_comment hc hcomment hread, ?_, hrest⟩
        rw [Piece.map_unplaced_prepend, hfound, pieces]
      | @reference name _ hname hends =>
        obtain rfl : depth = inner := by
          simp only [Part.opened] at hinner
          omega
        obtain ⟨found, d, hread, hfound, hrest⟩ :=
          ih hmore hinside (c := c.past ('$' :: name) after) rfl
        refine ⟨.property ⟨String.ofList name, c.position⟩ :: found, d,
          readPieces_reference hc hname hends hread, ?_, hrest⟩
        rw [List.map_cons, hfound]
        rfl
      | @char first _ hdollar hopens =>
        obtain ⟨found, d, hread, hfound, hrest⟩ := ih hmore hinside (c := c.past [first] after) rfl
        refine ⟨Piece.prepend [first] found, d, readPieces_char hc hdollar hopens hinner hread, ?_,
          hrest⟩
        rw [Piece.map_unplaced_prepend, hfound, pieces]

/-- What is left of a body after trimming does not depend on places. -/
theorem unplaced_filterMap_segment? (found : List Piece) :
    Body.unplaced (found.filterMap Piece.segment?) =
      (found.map Piece.unplaced).filterMap Piece.segment? := by
  rw [Body.unplaced, List.map_filterMap, List.filterMap_map]
  congr 1
  funext piece
  exact (Piece.segment?_unplaced piece).symm

/-- A body and the brace that closes it are read. -/
theorem readBody_reads (opened : Position) :
    Parser.Reads (readBody opened : Parser Body) Body.unplaced fun found text rest =>
      ∃ parts, body parts = found ∧ ClosedBody parts text rest where
  sound {c d found} hrun := by
    change readBody opened c = _ at hrun
    unfold readBody at hrun
    split at hrun
    · cases hrun
    · rename_i hread
      obtain ⟨rfl, rfl⟩ := by simpa using hrun
      obtain ⟨parts, hparts, hcloses, hfound⟩ := parts_of_readPieces hread
      refine ⟨parts, ?_, hparts, closes_zero_iff.1 hcloses⟩
      rw [unplaced_filterMap_segment?, Piece.map_unplaced_trimLast, Piece.map_unplaced_trimFirst,
        hfound, body]
  complete {c found rest} h := by
    obtain ⟨parts, rfl, hparts, hbalanced⟩ := h
    obtain ⟨found, d, hread, hfound, hrest⟩ :=
      readPieces_of_parts opened hparts (closes_zero_iff.2 hbalanced) rfl
    refine ⟨(Piece.trimLast (Piece.trimFirst found)).filterMap Piece.segment?, d, ?_, ?_, hrest⟩
    · change readBody opened c = _
      simp only [readBody, hread]
    · rw [unplaced_filterMap_segment?, Piece.map_unplaced_trimLast, Piece.map_unplaced_trimFirst,
        hfound, body]

end ShaderPipeline.Language
