import ShaderPipeline.Proofs.Language.Checked

/-!
# Expanded texts

What it means to replace the references of a block, said of the text of the block as it stands in
the source. A text is divided into pieces, and each piece is written in its turn: a comment and any
other character as it is, a reference as its literal. The literals are never looked at again, so a
dollar sign in one of them is only a character (`Expands`). There is one way to divide a text into
pieces, so there is one expanded text (`Expands.unique`).

The compiler does not trim the text of a block but its pieces, and replaces references in what is
left. `expands_trimmedText` says that this is the same as to trim the text first. It needs that no
reference ends in a blank, which would be trimmed with the text but not with the pieces.
-/

namespace ShaderPipeline.Language.Grammar

open Text

/-! ## Texts of blocks -/

/-- A text without the line breaks at its start and the blanks at its end. -/
def trimmedText (text : List Char) : List Char :=
  trimEnd (text.dropWhile fun c => c == '\r' || c == '\n')

/-- How a piece is written when references are replaced. -/
def Part.written (literal : String → String) : Part → List Char
  | .comment text => text
  | .reference name => (literal (String.ofList name)).toList
  | .char c => [c]

/-- The text with its references replaced, in one pass over its pieces. -/
def Expands (literal : String → String) (text expanded : List Char) : Prop :=
  ∃ parts, Parts parts text [] ∧ expanded = parts.flatMap (Part.written literal)

/-- A block of the items has the given text between its opening brace and the brace that matches
it. -/
def BlockText (items : List Item) (source : List Char) (kind : BlockKind)
    (text : List Char) : Prop :=
  ∃ parts before after, Item.block kind parts ∈ items ∧
    source = before ++ '{' :: (text ++ '}' :: after) ∧
    Parts parts (text ++ '}' :: after) ('}' :: after) ∧ Balanced parts

/-! ## One way to divide a text -/

/-- One piece stands at the start of a text, and one text is left after it. -/
theorem Part.Stands.unique {part other : Part} {text after rest : List Char}
    (h : part.Stands text after) (hother : other.Stands text rest) :
    part = other ∧ after = rest := by
  have hcomment {comment left : List Char} (hread : Comment comment left) :
      ¬ OpensComment (comment ++ left) ↔ False := by
    rw [← leadingComment_eq_absent_iff, leadingComment_of_comment hread]
    simp
  have hdollar (tail : List Char) : ¬ OpensComment ('$' :: tail) := by simp [OpensComment]
  generalize htext : text = same at hother
  cases h with
  | @comment comment _ hread =>
    cases hother with
    | @comment second _ hsecond =>
      have hfirst := leadingComment_of_comment hread
      rw [htext, leadingComment_of_comment hsecond] at hfirst
      obtain ⟨rfl, rfl⟩ := CommentStart.comment.inj hfirst
      exact ⟨rfl, rfl⟩
    | reference hname hrest => exact ((hcomment hread).1 (htext ▸ hdollar _)).elim
    | char hc hopens => exact ((hcomment hread).1 (htext ▸ hopens)).elim
  | @reference name _ hname hends =>
    cases hother with
    | comment hsecond => exact ((hcomment hsecond).1 (htext ▸ hdollar _)).elim
    | @reference second _ hsecond hsecondEnds =>
      have hsame : name ++ after = second ++ rest := (List.cons.inj htext).2
      have htaken := takeWhile_run hname.2 hends
      have hleft := dropWhile_run hname.2 hends
      rw [hsame, takeWhile_run hsecond.2 hsecondEnds] at htaken
      rw [hsame, dropWhile_run hsecond.2 hsecondEnds] at hleft
      rw [htaken, hleft]
      exact ⟨rfl, rfl⟩
    | char hc hopens => exact absurd (List.cons.inj htext).1.symm hc
  | char hc hopens =>
    cases hother with
    | comment hsecond => exact ((hcomment hsecond).1 (htext ▸ hopens)).elim
    | reference hname hrest => exact absurd (List.cons.inj htext).1 hc
    | char hc' hopens' =>
      obtain ⟨rfl, rfl⟩ := List.cons.inj htext
      exact ⟨rfl, rfl⟩

/-- No piece stands at the end of a text. -/
theorem Part.Stands.ne_nil {part : Part} {after : List Char} : ¬ part.Stands [] after := by
  intro h
  generalize htext : ([] : List Char) = text at h
  cases h with
  | comment hcomment => cases hcomment <;> cases htext
  | reference => cases htext
  | char => cases htext

/-- A text is divided into pieces in one way. -/
theorem Parts.unique {parts others : List Part} {text : List Char} (h : Parts parts text [])
    (hothers : Parts others text []) : parts = others := by
  generalize hend : ([] : List Char) = rest at h
  induction h generalizing others with
  | nil =>
    subst hend
    cases hothers with
    | nil => rfl
    | cons hpart => exact absurd hpart Part.Stands.ne_nil
  | cons hpart hparts ih =>
    subst hend
    cases hothers with
    | nil => exact absurd hpart Part.Stands.ne_nil
    | cons hother hmore =>
      obtain ⟨rfl, rfl⟩ := hpart.unique hother
      rw [ih hmore rfl]

/-- A text is expanded in one way. -/
theorem Expands.unique {literal : String → String} {text expanded other : List Char}
    (h : Expands literal text expanded) (hother : Expands literal text other) :
    expanded = other := by
  obtain ⟨parts, hparts, rfl⟩ := h
  obtain ⟨others, hothers, rfl⟩ := hother
  rw [hparts.unique hothers]

/-! ## Trimming pieces and trimming texts -/

/-- How an atom is written when references are replaced. -/
def Atom.written (literal : String → String) : Atom → List Char
  | .char c => [c]
  | .reference found => (literal found.name).toList

/-- A piece is written as its atoms. -/
theorem flatMap_written_atoms (literal : String → String) (part : Part) :
    part.atoms.flatMap (Atom.written literal) = part.written literal := by
  cases part with
  | comment text =>
    change (text.map Atom.char).flatMap (Atom.written literal) = text
    induction text with
    | nil => rfl
    | cons c text ih =>
      rw [List.map_cons, List.flatMap_cons, ih]
      rfl
  | reference name => simp [Part.atoms, Part.written, Atom.written, referenceTo]
  | char c => rfl

/-- Pieces are written as their atoms. -/
theorem flatMap_written (literal : String → String) (parts : List Part) :
    (atoms parts).flatMap (Atom.written literal) = parts.flatMap (Part.written literal) := by
  rw [atoms, List.flatMap_assoc]
  simp only [flatMap_written_atoms]

/-- Line breaks go from the start of the atoms as they go from the start of the text. -/
theorem flatMap_text_dropWhile (list : List Atom) :
    (list.dropWhile Atom.isBreak).flatMap Atom.text =
      (list.flatMap Atom.text).dropWhile fun c => c == '\r' || c == '\n' := by
  induction list with
  | nil => rfl
  | cons atom list ih =>
    cases atom with
    | reference found => rfl
    | char c =>
      have htext : (Atom.char c :: list).flatMap Atom.text = c :: list.flatMap Atom.text := rfl
      rw [htext, List.dropWhile_cons, List.dropWhile_cons, ← ih]
      cases hbreak : Atom.isBreak (.char c) with
      | true =>
        have hchar : (c == '\r' || c == '\n') = true := hbreak
        rw [if_pos rfl, if_pos hchar]
      | false =>
        have hchar : (c == '\r' || c == '\n') = false := hbreak
        rw [hchar, if_neg Bool.false_ne_true, if_neg Bool.false_ne_true, htext]

/-- What is written for a reference does not end in a blank. -/
theorem trimEnd_reference {name : List Char} (h : IsIdentifier name) :
    trimEnd ('$' :: name) = '$' :: name := by
  have hblank : ∀ c ∈ '$' :: name, isBlank c = false := by
    intro c hc
    rcases List.mem_cons.1 hc with rfl | hc
    · decide
    · exact isBlank_of_isWordChar (h.2 c hc)
  generalize '$' :: name = text at hblank
  induction text with
  | nil => rfl
  | cons c text ih =>
    rw [trimEnd, dropTrailing_cons, ← trimEnd, ih fun d hd => hblank d (List.mem_cons_of_mem c hd),
      hblank c List.mem_cons_self, Bool.and_false]
    rfl

/-- Blanks go from the end of the atoms as they go from the end of the text. -/
theorem flatMap_text_dropTrailing {list : List Atom}
    (h : ∀ found, Atom.reference found ∈ list → IsIdentifier found.name.toList) :
    (dropTrailing Atom.isBlank list).flatMap Atom.text = trimEnd (list.flatMap Atom.text) := by
  induction list with
  | nil => rfl
  | cons atom list ih =>
    have hrest := ih fun found hfound => h found (List.mem_cons_of_mem atom hfound)
    have hempty : (dropTrailing Atom.isBlank list).isEmpty =
        (trimEnd (list.flatMap Atom.text)).isEmpty := by
      rw [← hrest]
      cases dropTrailing Atom.isBlank list with
      | nil => rfl
      | cons first more => cases first <;> rfl
    rw [dropTrailing_cons, List.flatMap_cons]
    cases atom with
    | char c =>
      have htext : trimEnd (c :: list.flatMap Atom.text) =
          if (trimEnd (list.flatMap Atom.text)).isEmpty && isBlank c then []
          else c :: trimEnd (list.flatMap Atom.text) := dropTrailing_cons c _
      have hblank : Atom.isBlank (.char c) = isBlank c := rfl
      change _ = trimEnd (c :: list.flatMap Atom.text)
      rw [htext, ← hempty, ← hrest, hblank]
      split <;> rfl
    | reference found =>
      have hname := h found List.mem_cons_self
      have hkept : ((dropTrailing Atom.isBlank list).isEmpty &&
          Atom.isBlank (.reference found)) = false := Bool.and_false _
      rw [hkept, if_neg Bool.false_ne_true, List.flatMap_cons, hrest]
      by_cases hback : trimEnd (list.flatMap Atom.text) = []
      · rw [hback, List.append_nil, trimEnd, dropTrailing_append_of_eq hback]
        exact (trimEnd_reference hname).symm
      · exact (dropTrailing_append_of_ne hback).symm

/-- Pieces refer to properties by identifiers. -/
theorem Parts.isIdentifier {parts : List Part} {text rest : List Char} (h : Parts parts text rest)
    {found : PropertyRef} (hfound : Atom.reference found ∈ atoms parts) :
    IsIdentifier found.name.toList := by
  induction h with
  | nil => cases hfound
  | @cons part parts text after rest hpart hparts ih =>
    rcases List.mem_append.1 (show _ ∈ part.atoms ++ atoms parts from hfound) with hhere | hthere
    · cases hpart with
      | comment hcomment =>
        obtain ⟨c, -, hc⟩ := List.mem_map.1 hhere
        cases hc
      | @reference name _ hname hrest =>
        obtain rfl := Atom.reference.inj (List.mem_singleton.1 hhere)
        simpa [referenceTo] using hname
      | char hc hopens => cases List.mem_singleton.1 hhere
    · exact ih hthere

/-- To trim pieces is to trim their text. -/
theorem Parts.flatMap_text_trimmed {parts : List Part} {text rest : List Char}
    (h : Parts parts (text ++ rest) rest) :
    (trimmed (atoms parts)).flatMap Atom.text = trimmedText text := by
  have htext : text = (atoms parts).flatMap Atom.text := List.append_cancel_right h.text_eq
  have hnames : ∀ found, Atom.reference found ∈ (atoms parts).dropWhile Atom.isBreak →
      IsIdentifier found.name.toList := fun found hfound =>
    h.isIdentifier ((List.dropWhile_sublist _).subset hfound)
  rw [trimmed, flatMap_text_dropTrailing hnames, flatMap_text_dropWhile, ← htext, trimmedText]

/-- Trimmed pieces are nothing exactly if their trimmed text is nothing. -/
theorem Parts.trimmed_eq_nil_iff {parts : List Part} {text rest : List Char}
    (h : Parts parts (text ++ rest) rest) :
    trimmed (atoms parts) = [] ↔ trimmedText text = [] := by
  rw [← h.flatMap_text_trimmed]
  cases trimmed (atoms parts) with
  | nil => simp
  | cons first more => cases first <;> simp [Atom.text]

/-- Replacing references in trimmed pieces expands the trimmed text. -/
theorem Parts.expands_trimmedText {parts : List Part} {text rest : List Char}
    (h : Parts parts (text ++ rest) rest) (literal : String → String) :
    Expands literal (trimmedText text)
      ((trimmed (atoms parts)).flatMap (Atom.written literal)) := by
  obtain ⟨middle, start, hmiddle, hfront, -⟩ := exists_parts_dropWhile h
  obtain ⟨more, hmore, hback, -⟩ := exists_parts_dropTrailing hmiddle
  rw [hfront, ← trimmed] at hmore hback
  have hnothing := hmore [] (by simp)
  rw [List.append_nil, h.flatMap_text_trimmed] at hnothing
  exact ⟨more, hnothing, by rw [← hback, flatMap_written]⟩

/-! ## Blocks in their source -/

/-- What stands after blanks and comments is at the end of the text. -/
theorem Skips.suffix {text rest : List Char} (h : Skips text rest) : rest <:+ text := by
  induction h with
  | none => exact List.suffix_rfl
  | blank hc htext ih => exact ih.trans (List.suffix_cons _ _)
  | comment hcomment htext ih => exact ih.trans (List.suffix_append _ _)

/-- What stands after a token is at the end of the text. -/
theorem Lexeme.suffix {token : Token} {text rest : List Char} (h : Lexeme token text rest) :
    rest <:+ text := by
  cases h with
  | mark hmark => exact List.suffix_cons _ _
  | identifier hword hrest => exact List.suffix_append _ _
  | integer hne hdigits hrest hsize => exact List.suffix_append _ _

/-- What stands after tokens is at the end of the text. -/
theorem Spells.suffix {tokens : List Token} {text rest : List Char} (h : Spells tokens text rest) :
    rest <:+ text := by
  induction h with
  | nil => exact List.suffix_rfl
  | cons hskip htoken htokens ih => exact (ih.trans htoken.suffix).trans hskip.suffix

/-- What stands after a body and its brace is at the end of the text. -/
theorem ClosedBody.suffix {parts : List Part} {text rest : List Char}
    (h : ClosedBody parts text rest) :
    rest <:+ text := by
  rw [h.1.text_eq]
  exact (List.suffix_cons _ _).trans (List.suffix_append _ _)

/-- What stands after an item is at the end of the text. -/
theorem Item.Stands.suffix {item : Item} {text rest : List Char} (h : item.Stands text rest) :
    rest <:+ text := by
  obtain ⟨after, hdirective, body, htokens, hbody⟩ := h
  have hrest : rest <:+ body := by
    cases item with
    | block kind parts => exact ClosedBody.suffix hbody
    | _ => exact hbody ▸ List.suffix_rfl
  exact (hrest.trans htokens.suffix).trans hdirective.suffix

/-- Every item of a source stands in it. -/
theorem exists_stands_of_mem {items : List Item} {source : List Char} (h : Source items source)
    {item : Item} (hitem : item ∈ items) :
    ∃ text rest, text <:+ source ∧ item.Stands text rest := by
  induction h with
  | nil => cases hitem
  | @cons first items text rest hfirst hmore ih =>
    rcases List.mem_cons.1 hitem with rfl | hitem
    · exact ⟨text, rest, List.suffix_rfl, hfirst⟩
    · obtain ⟨start, left, hstart, hstands⟩ := ih hitem
      exact ⟨start, left, hstart.trans hfirst.suffix, hstands⟩

/-- An opening brace is the last character of its token. -/
theorem suffix_of_spells_leftBrace {text rest : List Char} (h : Spells [.leftBrace] text rest) :
    '{' :: rest <:+ text := by
  cases h with
  | @cons _ _ _ start after _ hskip htoken htokens =>
    cases htokens
    cases htoken with
    | @mark c _ _ hmark =>
      have hbrace : c = '{' := by
        unfold Token.mark? at hmark
        split at hmark <;> first | rfl | cases hmark
      rw [← hbrace]
      exact hskip.suffix

/-- A block of the items of a source has a text. -/
theorem exists_blockText {items : List Item} {source : List Char} (h : Source items source)
    {kind : BlockKind} {parts : List Part} (hitem : Item.block kind parts ∈ items) :
    ∃ text after, BlockText items source kind text ∧
      Parts parts (text ++ '}' :: after) ('}' :: after) := by
  obtain ⟨text, after, ⟨front, rfl⟩, middle, hdirective, body, htokens, hparts, hbalanced⟩ :=
    exists_stands_of_mem h hitem
  obtain ⟨before, hbefore⟩ :=
    (suffix_of_spells_leftBrace htokens).trans
      (hdirective.suffix.trans (List.suffix_append front _))
  have hbody := hparts.text_eq
  rw [hbody] at hparts hbefore
  exact ⟨_, after, ⟨parts, before, after, hitem, hbefore.symm, hparts, hbalanced⟩, hparts⟩

end ShaderPipeline.Language.Grammar
