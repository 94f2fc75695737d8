import ShaderPipeline.Proofs.Language.Trimming

/-!
# Writing bodies

A body that was read can be written as its segments with a line break after them, and is then read
as the same body (`exists_parts_bodyText`). The text that is written is not the one that was read:
what was trimmed is gone, and with it, where the body ended in a line comment, the end of the
comment. The induction is on the pieces of the body that was read; its invariant is that what
follows a piece starts with the same character as before, or with the line break that was added.

Nothing is said about blanks inside a body, which stay as they are.
-/

namespace ShaderPipeline.Language.Grammar

open Text

/-! ## Single pieces -/

/-- How a piece is written. -/
def Part.text (part : Part) : List Char := part.atoms.flatMap Atom.text

/-- Characters are written as they are. -/
theorem flatMap_text_char (text : List Char) : (text.map Atom.char).flatMap Atom.text = text := by
  induction text with
  | nil => rfl
  | cons c text ih =>
    rw [List.map_cons, List.flatMap_cons, ih]
    rfl

/-- Whether two characters open a comment depends on these two. -/
theorem opensComment_cons_iff {c : Char} {rest : List Char} :
    OpensComment (c :: rest) ↔ c = '/' ∧ (rest.head? = some '/' ∨ rest.head? = some '*') := by
  cases rest with
  | nil => simp [OpensComment]
  | cons d rest =>
    simp [OpensComment]
    grind

/-- A piece still stands where what follows it starts with the same character or a line break, and
where nothing follows it. -/
theorem Part.Stands.of_head? {part : Part} {text after following : List Char}
    (h : part.Stands text after)
    (hfollowing : following.head? = after.head? ∨ ∀ c ∈ following.head?, c = '\n') :
    part.Stands (part.text ++ following) following := by
  cases h with
  | @comment text _ hcomment =>
    rw [Part.text, Part.atoms, flatMap_text_char]
    refine .comment ?_
    cases hcomment with
    | line hcontent hrest =>
      refine .line hcontent fun c hc => ?_
      rcases hfollowing with hhead | hhead
      · exact hrest c (hhead ▸ hc)
      · exact hhead c hc
    | block hcontent => exact .block hcontent
  | @reference name _ hname hrest =>
    have htext : Part.text (.reference name) = '$' :: name := by
      simp [Part.text, Part.atoms, Atom.text, referenceTo]
    rw [htext]
    refine .reference hname fun c hc => ?_
    rcases hfollowing with hhead | hhead
    · exact hrest c (hhead ▸ hc)
    · obtain rfl := hhead c hc
      decide
  | @char c _ hc hopens =>
    have hfree : ¬ OpensComment (c :: following) := by
      rw [opensComment_cons_iff] at hopens ⊢
      rcases hfollowing with hhead | hhead
      · rwa [hhead]
      · rintro ⟨-, hslash | hstar⟩
        · exact absurd (hhead _ hslash) (by decide)
        · exact absurd (hhead _ hstar) (by decide)
    exact .char hc hfree

/-- A comment with blanks at its end stands without them where a line break or nothing follows. -/
theorem Comment.trimEnd {text after following : List Char} (h : Comment text after)
    (hfollowing : ∀ c ∈ following.head?, c = '\n') : Comment (Text.trimEnd text) following := by
  have hslash : isBlank '/' = false := by decide
  cases h with
  | @line content _ hcontent hrest =>
    have htrimmed : Text.trimEnd ('/' :: '/' :: content) = '/' :: '/' :: Text.trimEnd content :=
      @dropTrailing_append_cons _ isBlank ['/'] content '/' hslash
    rw [htrimmed]
    exact .line (fun hmem => hcontent (mem_of_mem_dropTrailing hmem)) hfollowing
  | @block content _ hcontent =>
    have htext : '/' :: '*' :: (content ++ ['*', '/']) =
        ('/' :: '*' :: (content ++ ['*'])) ++ '/' :: [] := by simp
    have htrimmed : Text.trimEnd ('/' :: '*' :: (content ++ ['*', '/'])) =
        '/' :: '*' :: (content ++ ['*', '/']) := by
      rw [htext]
      exact dropTrailing_append_cons hslash
    rw [htrimmed]
    exact .block hcontent

/-! ## Trimmed pieces -/

/-- The atoms of pieces. -/
def atoms (parts : List Part) : List Atom := parts.flatMap Part.atoms

/-- Pieces that do not count for the braces may go in front of a body. -/
theorem closes_cons_iff {part : Part} (h : part.opened = 0) {depth : Nat} {parts : List Part} :
    Closes depth (part :: parts) ↔ Closes depth parts := by
  constructor
  · intro hcloses
    obtain ⟨inner, hinner, hinside⟩ := hcloses
    obtain rfl : inner = depth := by omega
    exact hinside
  · intro hcloses
    exact ⟨depth, by omega, hcloses⟩

/-- Blanks open no braces. -/
theorem opened_of_isBlank {c : Char} (h : isBlank c = true) : (Part.char c).opened = 0 := by
  have hne {brace : Char} (hbrace : isBlank brace = false) : c ≠ brace := by
    intro heq
    rw [heq, hbrace] at h
    cases h
  rw [Part.opened_char, if_neg (hne (by decide)), if_neg (hne (by decide))]

/-- Line breaks at the start of a body are pieces of their own, and the body stands without them. -/
theorem exists_parts_dropWhile {parts : List Part} {text rest : List Char}
    (h : Parts parts text rest) :
    ∃ (more : List Part) (start : List Char), Parts more start rest ∧
      atoms more = (atoms parts).dropWhile Atom.isBreak ∧
        ∀ depth, Closes depth parts → Closes depth more := by
  induction h with
  | nil => exact ⟨[], _, .nil, rfl, fun _ h => h⟩
  | @cons part parts text after rest hpart hparts ih =>
    have hself : (atoms (part :: parts)).dropWhile Atom.isBreak = atoms (part :: parts) ∨
        part.opened = 0 ∧ (atoms (part :: parts)).dropWhile Atom.isBreak =
          (atoms parts).dropWhile Atom.isBreak := by
      cases hpart with
      | comment hcomment => cases hcomment <;> exact .inl rfl
      | reference hname hrest => exact .inl rfl
      | @char c _ hc hopens =>
        by_cases hbreak : Atom.isBreak (.char c) = true
        · refine .inr ⟨?_, List.dropWhile_cons_of_pos hbreak⟩
          apply opened_of_isBlank
          simp [Atom.isBreak] at hbreak
          rcases hbreak with rfl | rfl
          · decide
          · decide
        · exact .inl (List.dropWhile_cons_of_neg hbreak)
    rcases hself with hself | ⟨hopened, hself⟩
    · exact ⟨part :: parts, text, .cons hpart hparts, hself.symm, fun _ h => h⟩
    · obtain ⟨more, start, hmore, hatoms, hcloses⟩ := ih
      refine ⟨more, start, hmore, hatoms.trans hself.symm, ?_⟩
      intro depth hdepth
      exact hcloses depth ((closes_cons_iff hopened).1 hdepth)

/-- The last piece of a body goes if it is a blank, and else stands without the blanks at its end
where a line break or nothing follows. -/
theorem Part.Stands.trimEnd {part : Part} {text after : List Char} (h : part.Stands text after) :
    (dropTrailing Atom.isBlank part.atoms = [] ∧ part.opened = 0) ∨
      ∃ kept : Part, kept.atoms = dropTrailing Atom.isBlank part.atoms ∧
        kept.opened = part.opened ∧
          ∀ following : List Char, (∀ c ∈ following.head?, c = '\n') →
            kept.Stands (kept.text ++ following) following := by
  cases h with
  | @comment text _ hcomment =>
    refine .inr ⟨.comment (Text.trimEnd text), ?_, rfl, fun following hfollowing => ?_⟩
    · rw [Part.atoms, Part.atoms, dropTrailing_map]
      rfl
    · rw [Part.text, Part.atoms, flatMap_text_char]
      exact .comment (hcomment.trimEnd hfollowing)
  | @reference name _ hname hrest =>
    have hstands := Part.Stands.reference hname hrest
    exact .inr ⟨.reference name, rfl, rfl, fun _ hfollowing => hstands.of_head? (.inr hfollowing)⟩
  | @char c _ hc hopens =>
    by_cases hblank : isBlank c = true
    · refine .inl ⟨?_, opened_of_isBlank hblank⟩
      rw [dropTrailing_eq_nil_iff]
      simpa [Part.atoms, Atom.isBlank] using hblank
    · have hstands := Part.Stands.char hc hopens
      refine .inr ⟨.char c, ?_, rfl, fun _ hfollowing => hstands.of_head? (.inr hfollowing)⟩
      simp [Part.atoms, dropTrailing, Atom.isBlank, hblank]

/-- The text of a body is that of its pieces. -/
theorem Parts.text_eq {parts : List Part} {text rest : List Char} (h : Parts parts text rest) :
    text = (atoms parts).flatMap Atom.text ++ rest := by
  induction h with
  | nil => rfl
  | cons hpart hparts ih =>
    rw [atoms, List.flatMap_cons, List.flatMap_append, List.append_assoc, ← atoms, ← ih]
    cases hpart with
    | comment hcomment => rw [Part.atoms, flatMap_text_char]
    | reference hname hrest => simp [Part.atoms, Atom.text, referenceTo]
    | char hc hopens => rfl

/-- The first character of a text depends on its first atom. -/
theorem head?_flatMap_text {front back : List Atom} (hfront : front ≠ [])
    (h : front.head? = back.head?) (tail tail' : List Char) :
    (front.flatMap Atom.text ++ tail).head? = (back.flatMap Atom.text ++ tail').head? := by
  cases front with
  | nil => exact absurd rfl hfront
  | cons first front =>
    obtain ⟨back, rfl⟩ := List.head?_eq_some_iff.1 h.symm
    cases first <;> rfl

/-- Pieces that follow one another stand together. -/
theorem Parts.append {front back : List Part} {text middle rest : List Char}
    (hfront : Parts front text middle) (hback : Parts back middle rest) :
    Parts (front ++ back) text rest := by
  induction hfront with
  | nil => exact hback
  | cons hpart hparts ih => exact .cons hpart (ih hback)

/-- A body can be written without the blanks at its end where a line break or nothing follows. -/
theorem exists_parts_dropTrailing {parts : List Part} {text rest : List Char}
    (h : Parts parts text rest) :
    ∃ more : List Part,
      (∀ following : List Char, (∀ c ∈ following.head?, c = '\n') → Parts more
        ((dropTrailing Atom.isBlank (atoms parts)).flatMap Atom.text ++ following) following) ∧
      atoms more = dropTrailing Atom.isBlank (atoms parts) ∧
      ∀ depth, Closes depth parts → Closes depth more := by
  induction h with
  | nil => exact ⟨[], fun following hfollowing => .nil, rfl, fun depth h => h⟩
  | @cons part parts text after rest hpart hparts ih =>
    obtain ⟨more, hmore, hatoms, hcloses⟩ := ih
    have hsplit : atoms (part :: parts) = part.atoms ++ atoms parts := rfl
    by_cases hback : dropTrailing Atom.isBlank (atoms parts) = []
    · rw [hsplit, dropTrailing_append_of_eq hback]
      rw [hback] at hmore hatoms
      rcases hpart.trimEnd with ⟨hnil, hopened⟩ | ⟨kept, hkept, hopened, hstands⟩
      · rw [hnil]
        exact ⟨more, hmore, hatoms, fun depth h => hcloses depth ((closes_cons_iff hopened).1 h)⟩
      · rw [← hkept]
        refine ⟨kept :: more, fun following hfollowing => ?_, ?_, fun depth h => ?_⟩
        · exact .cons (hstands following hfollowing) (hmore following hfollowing)
        · rw [atoms, List.flatMap_cons, ← atoms, hatoms, List.append_nil]
        · obtain ⟨inner, hinner, hinside⟩ := h
          exact ⟨inner, by rw [hopened]; exact hinner, hcloses inner hinside⟩
    · rw [hsplit, dropTrailing_append_of_ne hback]
      refine ⟨part :: more, fun following hfollowing => ?_, ?_, fun depth h => ?_⟩
      · rw [List.flatMap_append, List.append_assoc]
        refine .cons (hpart.of_head? (.inl ?_)) (hmore following hfollowing)
        rw [hparts.text_eq]
        exact head?_flatMap_text hback (head?_dropTrailing hback) ..
      · rw [atoms, List.flatMap_cons, ← atoms, hatoms]
      · obtain ⟨inner, hinner, hinside⟩ := h
        exact ⟨inner, hinner, hcloses inner hinside⟩

/-- A line break after a body closes no brace. -/
theorem Closes.lineBreak {depth : Nat} {parts : List Part} (h : Closes depth parts) :
    Closes depth (parts ++ [.char '\n']) := by
  induction parts generalizing depth with
  | nil => exact (closes_cons_iff rfl).2 h
  | cons part parts ih =>
    obtain ⟨inner, hinner, hinside⟩ := h
    exact ⟨inner, hinner, ih hinside⟩

/-- Trimming atoms that were trimmed and have a line break after them leaves the same atoms. -/
theorem trimmed_trimmed (list : List Atom) :
    trimmed (trimmed list ++ [Atom.char '\n']) = trimmed list := by
  have hbreak : ∀ atom ∈ [Atom.char '\n'], Atom.isBlank atom = true := by decide
  by_cases hnil : trimmed list = []
  · rw [hnil]
    rfl
  · have hhead : (trimmed list ++ [Atom.char '\n']).dropWhile Atom.isBreak =
        trimmed list ++ [Atom.char '\n'] := by
      have hfirst := head?_dropTrailing hnil
      cases htrimmed : trimmed list with
      | nil => exact absurd htrimmed hnil
      | cons first rest =>
        rw [← trimmed, htrimmed, List.head?_cons] at hfirst
        have hkept := head?_dropWhile_eq_false Atom.isBreak list first hfirst.symm
        rw [List.cons_append, List.dropWhile_cons_of_neg (by simp [hkept])]
    rw [trimmed, hhead]
    exact dropTrailing_append_self hbreak

/-- The segments of a body that was read, written with a line break after them, are read as a body
with the same segments. -/
theorem exists_parts_bodyText {parts : List Part} {text rest : List Char}
    (h : ClosedBody parts text rest) :
    ∃ more : List Part, body more = body parts ∧
      ∀ tail, ClosedBody more (bodyText (body parts) ++ '\n' :: '}' :: tail) tail := by
  obtain ⟨hparts, hbalanced⟩ := h
  obtain ⟨middle, start, hmiddle, hfront, hcloses⟩ := exists_parts_dropWhile hparts
  obtain ⟨more, hmore, hback, hcloses'⟩ := exists_parts_dropTrailing hmiddle
  rw [hfront, ← trimmed] at hmore hback
  have hbody : body parts = regroup (trimmed (atoms parts)) := body_eq_regroup parts
  have hline (tail : List Char) : Parts [.char '\n'] ('\n' :: tail) tail :=
    .cons (.char (by decide) (by simp [opensComment_cons_iff])) .nil
  refine ⟨more ++ [.char '\n'], ?_, fun tail => ⟨?_, ?_⟩⟩
  · rw [hbody, body_eq_regroup, List.flatMap_append, ← atoms, hback]
    exact congrArg regroup (trimmed_trimmed _)
  · rw [hbody, bodyText_regroup]
    exact (hmore ('\n' :: '}' :: tail) (by simp)).append (hline ('}' :: tail))
  · exact closes_zero_iff.1 (hcloses' 0 (hcloses 0 (closes_zero_iff.2 hbalanced))).lineBreak

end ShaderPipeline.Language.Grammar
