import ShaderPipeline.Proofs.Language.Expansion
import ShaderPipeline.Proofs.Language.Places

/-!
# Reading one block

The reader of bodies from any place behind an opening brace. It ends in one of four ways: at the
brace that closes the block, at the end of the text, at a comment that is never closed, or at a
dollar sign without a name (`Stuck`). There is one way to divide a text into pieces up to such an
end (`Parts.unique_of_halts`), so what is read decides which of the four it is, and nothing behind
the end has any part in it.

Where the block is closed, nothing of it is lost: the segments, written one after the other, are
the text between the braces without the line breaks at its start and the blanks at its end.
-/

namespace ShaderPipeline.Language

open Grammar Text

/-! ## The ends of a block -/

namespace Grammar

/-- Inside `depth` further braces, pieces close no brace but these and those that they open. -/
def Within (depth : Nat) (parts : List Part) : Prop :=
  ∀ front, front <+: parts → 0 ≤ depth + opened front

/-- No pieces close no brace. -/
theorem within_nil (depth : Nat) : Within depth [] := by
  intro front hfront
  obtain rfl := List.prefix_nil.1 hfront
  exact Int.natCast_nonneg depth

/-- The braces that are open behind a piece may be closed behind it. -/
theorem within_cons_iff {depth : Nat} {part : Part} {parts : List Part} :
    Within depth (part :: parts) ↔
      ∃ inner : Nat, (inner : Int) = depth + part.opened ∧ Within inner parts := by
  have hcons (more : List Part) : opened (part :: more) = part.opened + opened more := rfl
  have hnil : opened [] = 0 := rfl
  constructor
  · intro h
    have hpart := h [part] (by simp)
    rw [hcons] at hpart
    refine ⟨(depth + part.opened).toNat, by omega, fun front hfront => ?_⟩
    have := h (part :: front) (List.cons_prefix_cons.2 ⟨rfl, hfront⟩)
    rw [hcons] at this
    omega
  · rintro ⟨inner, hinner, hinside⟩ front hfront
    rcases List.prefix_cons_iff.1 hfront with rfl | ⟨more, rfl, hmore⟩
    · omega
    · have := hinside more hmore
      rw [hcons]
      omega

/-- Inside no further brace, the block that pieces belong to stays open. -/
theorem within_zero_iff {parts : List Part} :
    Within 0 parts ↔ ∀ front, front <+: parts → 0 ≤ opened front := by
  simp [Within]

/-- Pieces that close all braces close none besides. -/
theorem Closes.within {depth : Nat} {parts : List Part} (h : Closes depth parts) :
    Within depth parts :=
  (closes_iff.1 h).2

/-- No piece follows, unless it closes a brace of which none is open. -/
def Halts (count : Int) (rest : List Char) : Prop :=
  ∀ part after, Part.Stands part rest after → count + part.opened < 0

/-- The brace that closes a block ends it. -/
theorem halts_close (rest : List Char) : Halts 0 ('}' :: rest) := by
  intro part after h
  have hfree : ¬ OpensComment ('}' :: rest) := by simp [opensComment_cons_iff]
  obtain ⟨rfl, -⟩ := h.unique (.char (by decide) hfree)
  decide

/-- A text is divided in one way into pieces up to where no piece follows. -/
theorem Parts.unique_of_halts {parts others : List Part} {text left rest : List Char} {depth : Nat}
    (h : Parts parts text left) (hwithin : Within depth parts)
    (hhalts : Halts (depth + opened parts) left) (hother : Parts others text rest)
    (hwithin' : Within depth others) (hhalts' : Halts (depth + opened others) rest) :
    parts = others ∧ left = rest := by
  induction h generalizing depth others with
  | nil =>
    cases hother with
    | nil => exact ⟨rfl, rfl⟩
    | cons hpart hmore =>
      obtain ⟨inner, hinner, -⟩ := within_cons_iff.1 hwithin'
      have := hhalts _ _ hpart
      simp only [opened] at this
      omega
  | cons hpart hparts ih =>
    obtain ⟨inner, hinner, hinside⟩ := within_cons_iff.1 hwithin
    cases hother with
    | nil =>
      have := hhalts' _ _ hpart
      simp only [opened] at this
      omega
    | cons hpart' hmore =>
      obtain ⟨rfl, rfl⟩ := hpart.unique hpart'
      obtain ⟨inner', hinner', hinside'⟩ := within_cons_iff.1 hwithin'
      obtain rfl : inner' = inner := by omega
      rw [opened, ← Int.add_assoc, ← hinner] at hhalts hhalts'
      obtain ⟨rfl, rfl⟩ := ih hinside hhalts hmore hinside' hhalts'
      exact ⟨rfl, rfl⟩

/-- A piece among others stands in the text between them. -/
theorem Parts.exists_stands {front back : List Part} {part : Part} {text rest : List Char}
    (h : Parts (front ++ part :: back) text rest) :
    ∃ before start after, text = before ++ start ∧ part.Stands start after ∧
      Parts back after rest := by
  induction front generalizing text with
  | nil =>
    cases h with
    | cons hpart hparts => exact ⟨[], _, _, rfl, hpart, hparts⟩
  | cons first front ih =>
    cases h with
    | cons hpart hparts =>
      obtain ⟨before, start, after, hafter, hstands, hback⟩ := ih hparts
      have hfirst := (Parts.cons hpart .nil).text_eq
      rw [hafter, ← List.append_assoc] at hfirst
      exact ⟨_, start, after, hfirst, hstands, hback⟩

/-- One block stands at the start of a text. -/
theorem ClosedBody.unique {parts others : List Part} {text left rest : List Char}
    (h : ClosedBody parts text left) (hother : ClosedBody others text rest) :
    parts = others ∧ left = rest := by
  have hcloses := closes_zero_iff.2 h.2
  have hcloses' := closes_zero_iff.2 hother.2
  have hend (left : List Char) {parts : List Part} (h : Closes 0 parts) :
      Halts ((0 : Nat) + opened parts) ('}' :: left) := (closes_iff.1 h).1 ▸ halts_close left
  obtain ⟨rfl, hsame⟩ := h.1.unique_of_halts hcloses.within (hend left hcloses) hother.1
    hcloses'.within (hend rest hcloses')
  exact ⟨rfl, (List.cons.inj hsame).2⟩

end Grammar

/-- A place inside a block at which nothing more can be read, and the error for it: the end of the
text, a comment that is never closed, or a dollar sign without a name. -/
inductive Stuck (opened : Position) : Cursor → CompileError → Prop
  | ended {place : Position} : Stuck opened ⟨[], place⟩ (.located opened .unterminatedBlock)
  | comment {tail : List Char} {place : Position} (hunclosed : ¬ ['*', '/'] <:+: tail) :
    Stuck opened ⟨'/' :: '*' :: tail, place⟩ (.located place .unterminatedComment)
  | name {tail : List Char} {place : Position}
    (hname : ∀ first ∈ tail.head?, isWordStart first = false) :
    Stuck opened ⟨'$' :: tail, place⟩ (.located place .unnamedProperty)

variable {opened : Position} {depth : Nat} {c d : Cursor} {e : CompileError} {found : List Piece}

/-- No piece stands where the reader is stuck. -/
theorem Stuck.not_stands (h : Stuck opened c e) {part : Part} {after : List Char} :
    ¬ part.Stands c.rest after := by
  intro hpart
  cases h with
  | ended => exact Part.Stands.ne_nil hpart
  | @comment tail _ hunclosed =>
    generalize htext : '/' :: '*' :: tail = text at hpart
    cases hpart with
    | comment hcomment =>
      cases hcomment with
      | line => cases htext
      | @block content =>
        obtain rfl : tail = content ++ ['*', '/'] ++ after := by simpa using htext
        exact hunclosed ⟨content, after, rfl⟩
    | reference => cases htext
    | char hc hopens =>
      rw [← htext] at hopens
      exact hopens (.inr ⟨tail, rfl⟩)
  | @name tail _ hname =>
    generalize htext : '$' :: tail = text at hpart
    cases hpart with
    | comment hcomment => cases hcomment <;> cases htext
    | @reference name rest hword =>
      obtain ⟨first, more, rfl, hfirst⟩ := hword.exists_cons
      obtain rfl := (List.cons.inj htext).2
      rw [hname first rfl] at hfirst
      cases hfirst
    | char hc => exact hc (List.cons.inj htext).1.symm

/-- No piece follows where the reader is stuck, however many braces are open. -/
theorem Stuck.halts (h : Stuck opened c e) (count : Int) : Halts count c.rest :=
  fun _ _ hstands => absurd hstands h.not_stands

/-- The error follows from the place. -/
theorem Stuck.unique {e' : CompileError} (h : Stuck opened c e) (h' : Stuck opened c e') :
    e = e' := by
  cases h <;> cases h' <;> rfl

/-- A comment without an end has no close anywhere. -/
theorem not_infix_of_splitAfterClose {tail : List Char} (h : splitAfterClose tail = none) :
    ¬ ['*', '/'] <:+: tail := by
  fun_induction splitAfterClose tail with
  | case1 => simp
  | case2 => cases h
  | case3 first tail hstart ih =>
    rw [Option.map_eq_none_iff] at h
    rintro hinfix
    rcases List.infix_cons_iff.1 hinfix with hstarts | hinside
    · obtain ⟨rest, hrest⟩ := hstarts
      obtain ⟨rfl, rfl⟩ := List.cons.inj hrest
      exact hstart rest rfl rfl
    · exact ih h hinside

/-- Where a comment opens that is never closed. -/
theorem unclosed_of_leadingComment {source : List Char} (h : leadingComment source = .unclosed) :
    ∃ tail, source = '/' :: '*' :: tail ∧ ¬ ['*', '/'] <:+: tail := by
  unfold leadingComment at h
  split at h
  · cases h
  · rename_i tail
    split at h
    · rename_i hsplit
      exact ⟨tail, rfl, not_infix_of_splitAfterClose hsplit⟩
    · cases h
  · cases h

example : leadingComment "/*/".toList = .unclosed := by decide

/-! ## Where the reader fails -/

/-- Pieces inside `depth` further braces lead to a place at which the reader is stuck. -/
def Fails (opened : Position) (depth : Nat) (c : Cursor) (e : CompileError) : Prop :=
  ∃ parts stuck, c.Reaches stuck ∧ Parts parts c.rest stuck.rest ∧ Within depth parts ∧
    Stuck opened stuck e

/-- No pieces lead to the place at which the reader is. -/
theorem Stuck.fails (h : Stuck opened c e) : Fails opened depth c e :=
  ⟨[], c, .refl c, .nil, within_nil depth, h⟩

/-- One more piece may stand in front of those that lead there. -/
theorem Fails.cons {part : Part} {inner : Nat} {text rest : List Char}
    (hpart : part.Stands (text ++ rest) rest) (hinner : (inner : Int) = depth + part.opened)
    (hrest : c.rest = text ++ rest) (h : Fails opened inner (c.past text rest) e) :
    Fails opened depth c e := by
  obtain ⟨parts, stuck, hreach, hparts, hwithin, hstuck⟩ := h
  refine ⟨part :: parts, stuck, (Cursor.reaches_past hrest).trans hreach, ?_,
    within_cons_iff.2 ⟨inner, hinner, hwithin⟩, hstuck⟩
  rw [hrest]
  exact .cons hpart hparts

/-- The reader fails only where pieces lead to a place at which it is stuck. -/
theorem fails_of_readPieces (h : readPieces opened depth c = .error e) :
    Fails opened depth c e := by
  fun_induction readPieces opened depth c with
  | case1 depth c hrest =>
    obtain rfl := Except.error.inj h
    obtain ⟨text, place⟩ := c
    obtain rfl : text = [] := hrest
    exact Stuck.ended.fails
  | case2 depth c first rest hrest hcomment =>
    obtain rfl := Except.error.inj h
    obtain ⟨text, place⟩ := c
    obtain ⟨tail, htext, hunclosed⟩ := unclosed_of_leadingComment hcomment
    obtain rfl : text = '/' :: '*' :: tail := hrest.trans htext
    exact (Stuck.comment hunclosed).fails
  | case3 depth c first rest hrest text tail hcomment e hmore ih =>
    obtain rfl := Except.error.inj h
    have hpart : Part.Stands (.comment text) (text ++ tail) tail :=
      .comment (comment_of_leadingComment hcomment)
    exact .cons hpart (by simp [Part.opened]) (hrest.trans (leadingComment_append hcomment))
      (ih hmore)
  | case4 => cases h
  | case5 depth c rest name hstart e hmore hrest hcomment =>
    rename_i ih
    obtain rfl := Except.error.inj h
    have hpart : Part.Stands (.reference name) ('$' :: name ++ rest.dropWhile isWordChar)
        (rest.dropWhile isWordChar) :=
      .reference (isIdentifier_takeWhile hstart) (head?_dropWhile_eq_false isWordChar rest)
    refine .cons hpart (by simp [Part.opened]) ?_ (ih hmore)
    rw [hrest, List.cons_append, List.takeWhile_append_dropWhile]
  | case6 => cases h
  | case7 depth c rest hstart hrest =>
    obtain rfl := Except.error.inj h
    obtain ⟨text, place⟩ := c
    obtain rfl : text = '$' :: rest := hrest
    refine (Stuck.name fun first hfirst => ?_).fails
    rw [Option.mem_def.1 hfirst] at hstart
    simpa using hstart
  | case8 => cases h
  | case9 depth c first rest hrest hcomment hdollar hclose inner e hmore =>
    rename_i ih
    obtain rfl := Except.error.inj h
    have hpart : Part.Stands (.char first) ([first] ++ rest) rest :=
      .char hdollar (leadingComment_eq_absent_iff.1 hcomment)
    exact .cons hpart (depth_after_char (by simpa using hclose)) hrest (ih hmore)
  | case10 => cases h

/-- Cursors with the same rest that are reached from one are the same. -/
theorem Cursor.Reaches.eq_of_rest {d' : Cursor} (h : c.Reaches d) (h' : c.Reaches d')
    (hrest : d.rest = d'.rest) : d = d' := by
  obtain ⟨taken, htaken, hplace⟩ := h
  obtain ⟨taken', htaken', hplace'⟩ := h'
  obtain rfl : taken = taken' :=
    List.append_cancel_right (htaken.symm.trans (hrest ▸ htaken'))
  obtain ⟨rest, place⟩ := d
  obtain ⟨rest', place'⟩ := d'
  obtain rfl : rest = rest' := hrest
  obtain rfl : place = place' := hplace.trans hplace'.symm
  rfl

/-- Pieces lead to a closing brace and to a place where the reader is stuck, but never to both. -/
theorem Stuck.not_closes (hstuck : Stuck opened d e) {parts others : List Part}
    {text rest : List Char} (hparts : Parts parts text d.rest) (hwithin : Within depth parts)
    (hothers : Parts others text ('}' :: rest)) : ¬ Closes depth others := by
  intro hcloses
  have hcount : (depth : Int) + Grammar.opened others = 0 := (closes_iff.1 hcloses).1
  obtain ⟨-, hrest⟩ := hparts.unique_of_halts hwithin (hstuck.halts _) hothers hcloses.within
    (hcount ▸ halts_close rest)
  have hbrace : Part.Stands (.char '}') ('}' :: rest) rest :=
    .char (by decide) (by simp [opensComment_cons_iff])
  exact hstuck.not_stands (hrest ▸ hbrace)

/-- Where pieces lead to a place at which the reader is stuck, it fails there. -/
theorem readPieces_of_fails (h : Fails opened depth c e) :
    readPieces opened depth c = .error e := by
  obtain ⟨parts, stuck, hreach, hparts, hwithin, hstuck⟩ := h
  cases hread : readPieces opened depth c with
  | ok read =>
    obtain ⟨others, hothers, hcloses, -⟩ := parts_of_readPieces hread
    exact absurd hcloses (hstuck.not_closes hparts hwithin hothers)
  | error e' =>
    obtain ⟨others, stuck', hreach', hothers, hwithin', hstuck'⟩ := fails_of_readPieces hread
    obtain ⟨-, hrest⟩ := hparts.unique_of_halts hwithin (hstuck.halts _) hothers hwithin'
      (hstuck'.halts _)
    obtain rfl := hreach.eq_of_rest hreach' hrest
    rw [hstuck.unique hstuck']

/-! ## What is read -/

/-- A reference that is read has a dollar sign at its place and directly behind it its name. -/
theorem reaches_of_readPieces (h : readPieces opened depth c = .ok (found, d)) :
    ∀ reference ∈ found.filterMap pieceRef?, ∃ after rest,
      c.Reaches ⟨'$' :: after, reference.location⟩ ∧ SpelledBy reference.name after rest := by
  fun_induction readPieces opened depth c generalizing found d with
  | case1 => cases h
  | case2 => cases h
  | case3 => cases h
  | case4 depth c first rest hrest text tail hcomment more e hmore ih =>
    obtain ⟨rfl, rfl⟩ := by simpa using h
    have hreach := Cursor.reaches_past (hrest.trans (leadingComment_append hcomment))
    rw [filterMap_pieceRef?_prepend]
    intro reference hmem
    obtain ⟨after, end', hthere, hspelled⟩ := ih hmore reference hmem
    exact ⟨after, end', hreach.trans hthere, hspelled⟩
  | case5 => cases h
  | case6 depth c rest name hstart more e hmore hrest hcomment =>
    rename_i ih
    obtain ⟨rfl, rfl⟩ := by simpa using h
    have hreach : c.Reaches (c.past ('$' :: name) (rest.dropWhile isWordChar)) :=
      Cursor.reaches_past (by rw [hrest, List.cons_append, List.takeWhile_append_dropWhile])
    refine List.forall_mem_cons.2 ⟨?_, fun reference hmem => ?_⟩
    · exact ⟨rest, _, ⟨[], hrest, rfl⟩, spelledBy_takeWhile hstart⟩
    · obtain ⟨after, end', hthere, hspelled⟩ := ih hmore reference hmem
      exact ⟨after, end', hreach.trans hthere, hspelled⟩
  | case7 => cases h
  | case8 =>
    obtain ⟨rfl, rfl⟩ := by simpa using h
    exact List.forall_mem_nil _
  | case9 => cases h
  | case10 depth c first rest hrest hcomment hdollar hclose inner more e hmore =>
    rename_i ih
    obtain ⟨rfl, rfl⟩ := by simpa using h
    rw [filterMap_pieceRef?_prepend]
    intro reference hmem
    obtain ⟨after, end', hthere, hspelled⟩ := ih hmore reference hmem
    exact ⟨after, end', (Cursor.reaches_past hrest).trans hthere, hspelled⟩

/-- A body that is read is made of the pieces that were read. -/
theorem readBody_eq_ok_iff {body : Body} :
    readBody opened c = .ok (body, d) ↔ ∃ found, readPieces opened 0 c = .ok (found, d) ∧
      body = (Piece.trimLast (Piece.trimFirst found)).filterMap Piece.segment? := by
  unfold readBody
  cases readPieces opened 0 c with
  | error e => simp
  | ok read => grind

/-- A body is not read where its pieces are not. -/
theorem readBody_eq_error_iff :
    readBody opened c = .error e ↔ readPieces opened 0 c = .error e := by
  unfold readBody
  cases readPieces opened 0 c <;> simp

/-- Segments without an empty text, of which no two texts stand side by side. -/
inductive Apart : Body → Prop
  | nil : Apart []
  | property {reference : PropertyRef} {more : Body} (hmore : Apart more) :
    Apart (.property reference :: more)
  | text {content : String} (hcontent : content ≠ "") : Apart [.text content]
  | textProperty {content : String} {reference : PropertyRef} {more : Body}
    (hcontent : content ≠ "") (hmore : Apart more) :
    Apart (.text content :: .property reference :: more)

/-- Segments are apart if pieces are from which empty texts go. -/
theorem Grammar.Separated.apart {found : List Piece} (h : Separated found) :
    Apart (found.filterMap Piece.segment?) := by
  have hsegment (content : List Char) : Piece.segment? (.text content) = none ∨
      ∃ text, Piece.segment? (.text content) = some (.text text) ∧ text ≠ "" := by
    cases content with
    | nil => exact .inl rfl
    | cons first rest => exact .inr ⟨_, rfl, by simp⟩
  induction h with
  | nil => exact .nil
  | property hmore ih => exact .property ih
  | @text content =>
    rw [List.filterMap_cons]
    rcases hsegment content with hnone | ⟨text, hsome, hne⟩
    · rw [hnone]
      exact .nil
    · rw [hsome]
      exact .text hne
  | @textProperty content reference more hmore ih =>
    rw [List.filterMap_cons]
    rcases hsegment content with hnone | ⟨text, hsome, hne⟩
    · rw [hnone]
      exact .property ih
    · rw [hsome]
      exact .textProperty hne ih

/-- Places have no part in whether segments are apart. -/
theorem Apart.of_unplaced : {body : Body} → Apart body.unplaced → Apart body
  | [], .nil => .nil
  | .property _ :: _, .property hmore => .property (of_unplaced hmore)
  | [.text _], .text hcontent => .text hcontent
  | .text _ :: .property _ :: _, .textProperty hcontent hmore =>
    .textProperty hcontent (of_unplaced hmore)

/-- What is expected of a body that was read from pieces between two braces. -/
structure ReadWhole (c : Cursor) (body : Body) (d : Cursor) (parts : List Part)
    (text : List Char) : Prop where
  /-- The pieces are those of a block, with the brace that closes it behind them. -/
  closed : ClosedBody parts c.rest d.rest
  /-- The reader has passed the text of the block and this brace, and nothing besides. -/
  rest_eq : c.rest = text ++ '}' :: d.rest
  /-- The reader stands directly behind the brace. -/
  position_eq : d.position = c.position.after (text ++ ['}'])
  /-- The segments, written one after the other, are the trimmed text of the block. -/
  text_eq : bodyText body = trimmedText text
  /-- No text is empty, and no two texts stand side by side. -/
  apart : Apart body
  /-- A comment is copied as it stands, from its opening to its first close or up to the next line
  feed. -/
  comment_at : ∀ front comment back, parts = front ++ .comment comment :: back →
    ∃ before after, text = before ++ (comment ++ after) ∧ Comment comment (after ++ '}' :: d.rest)
  /-- The references are those outside comments, in their order. -/
  references_eq : (Body.propertyRefs body).map (·.name) = parts.filterMap Part.reference?
  /-- A reference has a dollar sign at its place and behind it its name, which is a whole word. -/
  reference_at : ∀ reference ∈ Body.propertyRefs body, ∃ before after rest,
    c.rest = before ++ '$' :: after ∧ reference.location = c.position.after before ∧
      SpelledBy reference.name after rest

/-- What is expected of the reader of bodies behind an opening brace. -/
structure ReadsBlock (opened : Position) (c : Cursor) : Prop where
  /-- A body is read exactly if a block stands there: comments that are closed, dollar signs with a
  name behind them and other characters, up to the brace that closes the block. -/
  isOk_iff : (∃ body d, readBody opened c = .ok (body, d)) ↔
    ∃ parts rest, ClosedBody parts c.rest rest
  /-- There is one such block. -/
  unique : ∀ parts rest others rest', ClosedBody parts c.rest rest →
    ClosedBody others c.rest rest' → parts = others ∧ rest = rest'
  /-- Nothing of the block is lost. -/
  whole : ∀ body d, readBody opened c = .ok (body, d) → ∃ parts text, ReadWhole c body d parts text
  /-- The reader fails exactly at the first place at which it is stuck, while the block is open. -/
  error_iff : ∀ e, readBody opened c = .error e ↔ ∃ parts stuck, c.Reaches stuck ∧
    Parts parts c.rest stuck.rest ∧ (∀ front, front <+: parts → 0 ≤ Grammar.opened front) ∧
      Stuck opened stuck e

/-- A body that is read is read as a whole. -/
theorem readWhole_of_readBody {body : Body} (h : readBody opened c = .ok (body, d)) :
    ∃ parts text, ReadWhole c body d parts text := by
  obtain ⟨parts, hbody, hclosed⟩ := (readBody_reads opened).sound h
  have htext : c.rest = (atoms parts).flatMap Atom.text ++ '}' :: d.rest := hclosed.1.text_eq
  refine ⟨parts, (atoms parts).flatMap Atom.text, ?_⟩
  constructor
  case closed => exact hclosed
  case rest_eq => exact htext
  case position_eq =>
    have hpassed : c.Reaches (c.past ((atoms parts).flatMap Atom.text ++ ['}']) d.rest) :=
      Cursor.reaches_past (by rw [htext, List.append_assoc, List.singleton_append])
    exact congrArg Cursor.position ((readBody_reaches h).eq_of_rest hpassed rfl)
  case text_eq =>
    have hparts := hclosed.1
    rw [htext] at hparts
    rw [← bodyText_unplaced, ← hbody, body_eq_regroup, bodyText_regroup, ← atoms,
      hparts.flatMap_text_trimmed]
  case apart =>
    apply Apart.of_unplaced
    rw [← hbody]
    exact (separated_pieces parts).trimFirst.trimLast.apart
  case comment_at =>
    rintro front comment back rfl
    obtain ⟨before, start, after, hstart, hstands, hback⟩ := hclosed.1.exists_stands
    cases hstands with
    | comment hcomment =>
      rw [hback.text_eq] at hstart hcomment
      have hsame := htext.symm.trans hstart
      rw [← List.append_assoc, ← List.append_assoc] at hsame
      refine ⟨before, (atoms back).flatMap Atom.text, ?_, hcomment⟩
      rw [List.append_cancel_right hsame, List.append_assoc]
  case references_eq =>
    have hnames : (Body.propertyRefs body).map (·.name) =
        (Body.propertyRefs body.unplaced).map (·.name) := by
      rw [Draft.propertyRefs_unplaced, List.map_map]
      rfl
    rw [hnames, ← hbody, propertyRefs_body, List.map_map]
    exact List.map_id _
  case reference_at =>
    obtain ⟨found, hread, rfl⟩ := readBody_eq_ok_iff.1 h
    rw [propertyRefs_filterMap_segment?, filterMap_pieceRef?_trimLast,
      filterMap_pieceRef?_trimFirst]
    intro reference hmem
    obtain ⟨after, rest, ⟨before, hbefore, hlocation⟩, hspelled⟩ :=
      reaches_of_readPieces hread reference hmem
    exact ⟨before, after, rest, hbefore, hlocation, hspelled⟩

/-- The reader reads one block, or fails at the first fault of it. -/
theorem readBody_readsBlock (opened : Position) (c : Cursor) : ReadsBlock opened c := by
  constructor
  case isOk_iff =>
    constructor
    · rintro ⟨body, d, hread⟩
      obtain ⟨parts, -, hclosed⟩ := (readBody_reads opened).sound hread
      exact ⟨parts, d.rest, hclosed⟩
    · rintro ⟨parts, rest, hclosed⟩
      obtain ⟨body, d, hread, -⟩ := (readBody_reads opened).complete ⟨parts, rfl, hclosed⟩
      exact ⟨body, d, hread⟩
  case unique =>
    intro parts rest others rest' hclosed hclosed'
    exact hclosed.unique hclosed'
  case whole => exact fun body d hread => readWhole_of_readBody hread
  case error_iff =>
    intro e
    rw [readBody_eq_error_iff]
    constructor
    · intro hread
      obtain ⟨parts, stuck, hreach, hparts, hwithin, hstuck⟩ := fails_of_readPieces hread
      exact ⟨parts, stuck, hreach, hparts, within_zero_iff.1 hwithin, hstuck⟩
    · rintro ⟨parts, stuck, hreach, hparts, hopen, hstuck⟩
      exact readPieces_of_fails ⟨parts, stuck, hreach, hparts, within_zero_iff.2 hopen, hstuck⟩

end ShaderPipeline.Language
