import ShaderPipeline.Proofs.Language.Grammar
import ShaderPipeline.Proofs.Text.Ends

/-!
# Reading what the grammar calls a token

The readers of comments, of blanks between tokens and of tokens accept exactly what the grammar
calls so. For each reader one lemma says that what it passes is a phrase, and one that it passes
every phrase that can be passed; the second needs that what follows blanks and comments starts
neither a blank nor a comment, as every token does.
-/

namespace ShaderPipeline.Language

open Text Grammar

/-! ## Comments -/

/-- The search for the end of a block comment stops at its first `*/`. -/
theorem splitAfterClose_close {content : List Char} (rest : List Char)
    (h : ¬ ['*', '/'] <:+: content ++ ['*']) :
    splitAfterClose (content ++ ['*', '/'] ++ rest) = some (content ++ ['*', '/'], rest) := by
  induction content with
  | nil => rfl
  | cons c content ih =>
    rw [List.cons_append, List.infix_cons_iff, not_or] at h
    obtain ⟨hfront, hinfix⟩ := h
    have hstep := ih hinfix
    rw [List.cons_append, List.cons_append, splitAfterClose, hstep]
    · rfl
    · -- the pattern `*/` cannot match here, as it would be a `*/` inside the comment
      intro tail hstar htail
      subst hstar
      apply hfront
      cases content with
      | nil => simp at htail
      | cons d content =>
        have hd : d = '/' := by simpa using congrArg List.head? htail
        simp [hd]

/-- What the search for the end of a block comment splits off has its only `*/` at its end. -/
theorem splitAfterClose_eq_some {text taken rest : List Char}
    (h : splitAfterClose text = some (taken, rest)) :
    ∃ content, taken = content ++ ['*', '/'] ∧ ¬ ['*', '/'] <:+: content ++ ['*'] := by
  fun_induction splitAfterClose text generalizing taken rest with
  | case1 => simp at h
  | case2 tail =>
    obtain ⟨rfl, rfl⟩ := by simpa using h
    exact ⟨[], rfl, by decide⟩
  | case3 c tail hstart ih =>
    obtain ⟨⟨a, b⟩, hab, heq⟩ := Option.map_eq_some_iff.1 h
    obtain ⟨rfl, rfl⟩ := Prod.mk.inj heq
    obtain ⟨content, rfl, hcontent⟩ := ih hab
    refine ⟨c :: content, rfl, ?_⟩
    rw [List.cons_append, List.infix_cons_iff, not_or]
    refine ⟨?_, hcontent⟩
    intro hfront
    have htail := splitAfterClose_append hab
    cases content with
    | nil => simp at hfront
    | cons d content =>
      obtain ⟨rfl, rfl⟩ : '*' = c ∧ '/' = d := by simpa using hfront
      exact hstart _ rfl htail

/-- A comment that is read is a comment of the grammar. -/
theorem comment_of_leadingComment {source text rest : List Char}
    (h : leadingComment source = .comment text rest) : Comment text rest := by
  unfold leadingComment at h
  split at h
  · rename_i tail
    obtain ⟨rfl, rfl⟩ := CommentStart.comment.inj h
    refine .line ?_ ?_
    · intro hmem
      simpa using List.mem_takeWhile_imp hmem
    · intro c hc
      simpa using head?_dropWhile_eq_false _ tail c hc
  · split at h
    · cases h
    · rename_i hsplit
      obtain ⟨rfl, rfl⟩ := CommentStart.comment.inj h
      obtain ⟨content, rfl, hcontent⟩ := splitAfterClose_eq_some hsplit
      exact .block hcontent
  · cases h

/-- A comment of the grammar is read as a whole. -/
theorem leadingComment_of_comment {text rest : List Char} (h : Comment text rest) :
    leadingComment (text ++ rest) = .comment text rest := by
  cases h with
  | @line content _ hcontent hrest =>
    have hrun : ∀ c ∈ content, (c != '\n') = true := by
      intro c hc
      have : c ≠ '\n' := by
        intro heq
        subst heq
        exact hcontent hc
      simpa using this
    have hstop : ∀ c ∈ rest.head?, (c != '\n') = false := by
      intro c hc
      simpa using hrest c hc
    simp only [List.cons_append, leadingComment, takeWhile_run hrun hstop, dropWhile_run hrun hstop]
  | @block content _ hcontent =>
    rw [List.cons_append, List.cons_append, leadingComment, splitAfterClose_close rest hcontent]

/-- No comment is read exactly where no comment opens. -/
theorem leadingComment_eq_absent_iff {source : List Char} :
    leadingComment source = .absent ↔ ¬ OpensComment source := by
  unfold leadingComment OpensComment
  split
  · simp
  · split <;> simp
  · rename_i hline hblock
    refine iff_of_true rfl ?_
    intro h
    rcases h with ⟨rest, rfl⟩ | ⟨rest, rfl⟩
    · exact hline rest rfl
    · exact hblock rest rfl

/-! ## Blanks and comments between tokens -/

/-- A text that starts with neither a blank nor a comment. -/
structure Stops (rest : List Char) : Prop where
  head_blank : ∀ c ∈ rest.head?, isBlank c = false
  not_opens : ¬ OpensComment rest

/-- The end of a text stops the search for a token. -/
theorem stops_nil : Stops [] :=
  ⟨by simp, by simp [OpensComment]⟩

/-- Where nothing is to be passed over, nothing is passed over. -/
theorem skipTrivia_of_stops {c : Cursor} (h : Stops c.rest) : skipTrivia c = .ok c := by
  rw [skipTrivia]
  split
  · rfl
  · rename_i first rest hrest
    have hblank : isBlank first = false := h.head_blank first (by simp [hrest])
    have habsent := leadingComment_eq_absent_iff.2 (hrest ▸ h.not_opens)
    rw [if_neg (by simp [hblank])]
    split
    · rfl
    · simp_all
    · simp_all

/-- A blank is passed over. -/
theorem skipTrivia_blank {c : Cursor} {first : Char} {rest : List Char}
    (hrest : c.rest = first :: rest) (hblank : isBlank first = true) :
    skipTrivia c = skipTrivia (c.past [first] rest) := by
  rw [skipTrivia]
  split
  · simp_all
  · rename_i hcons
    obtain ⟨rfl, rfl⟩ := List.cons.inj (hrest.symm.trans hcons)
    rw [if_pos hblank]

/-- A comment is passed over. -/
theorem skipTrivia_comment {c : Cursor} {text rest : List Char} (hrest : c.rest = text ++ rest)
    (hcomment : Comment text rest) : skipTrivia c = skipTrivia (c.past text rest) := by
  have hread := leadingComment_of_comment hcomment
  have hslash : ∃ tail, text = '/' :: tail := by
    cases hcomment <;> exact ⟨_, rfl⟩
  obtain ⟨tail, rfl⟩ := hslash
  rw [skipTrivia]
  split
  · simp_all
  · rename_i first other hcons
    obtain ⟨rfl, rfl⟩ := List.cons.inj (hrest.symm.trans hcons)
    rw [if_neg (by decide)]
    split
    · simp_all
    · simp_all
    · rename_i hcomment'
      obtain ⟨rfl, rfl⟩ := CommentStart.comment.inj (hread.symm.trans hcomment')
      rfl

/-- What is passed over may stand between tokens, and a token or the end follows. -/
theorem skips_of_skipTrivia {c d : Cursor} (h : skipTrivia c = .ok d) :
    Skips c.rest d.rest ∧ Stops d.rest := by
  fun_induction skipTrivia c generalizing d with
  | case1 c hrest =>
    obtain rfl := Except.ok.inj h
    exact ⟨.none, hrest ▸ stops_nil⟩
  | case2 c first rest hrest hblank ih =>
    obtain ⟨hskips, hstops⟩ := ih h
    exact ⟨hrest ▸ .blank hblank hskips, hstops⟩
  | case3 c first rest hrest hblank habsent =>
    obtain rfl := Except.ok.inj h
    refine ⟨.none, ?_, ?_⟩
    · simpa [hrest] using hblank
    · exact hrest ▸ leadingComment_eq_absent_iff.1 habsent
  | case4 => cases h
  | case5 c first rest hrest _ text tail hcomment ih =>
    obtain ⟨hskips, hstops⟩ := ih h
    refine ⟨?_, hstops⟩
    rw [hrest, leadingComment_append hcomment]
    exact .comment (comment_of_leadingComment hcomment) hskips

/-- Everything that may stand between tokens is passed over. -/
theorem skipTrivia_of_skips {text rest : List Char} (h : Skips text rest) (hstops : Stops rest)
    {c : Cursor} (hc : c.rest = text) : ∃ d, skipTrivia c = .ok d ∧ d.rest = rest := by
  induction h generalizing c with
  | none =>
    subst hc
    exact ⟨c, skipTrivia_of_stops hstops, rfl⟩
  | @blank first text rest hblank _ ih =>
    rw [skipTrivia_blank hc hblank]
    exact ih hstops rfl
  | comment hcomment _ ih =>
    rw [skipTrivia_comment hc hcomment]
    exact ih hstops rfl

/-! ## Tokens -/

/-- The code points of characters that can start a word. -/
theorem isWordStart_iff {c : Char} : isWordStart c = true ↔
    (65 ≤ c.toNat ∧ c.toNat ≤ 90) ∨ (97 ≤ c.toNat ∧ c.toNat ≤ 122) ∨ c.toNat = 95 := by
  have hunderscore : c = '_' ↔ c.toNat = 95 := by
    rw [← Char.toNat_inj]
    rfl
  change ((decide ('A'.val ≤ c.val ∧ c.val ≤ 'Z'.val) ||
    (decide ('a'.val ≤ c.val) && decide (c.val ≤ 'z'.val))) || c == '_') = true ↔ _
  simp only [Bool.or_eq_true, Bool.and_eq_true, decide_eq_true_eq, beq_iff_eq,
    UInt32.le_iff_toNat_le, hunderscore, or_assoc]
  rfl

/-- A word goes on with what can start a word and with digits. -/
theorem isWordChar_eq (c : Char) : isWordChar c = (isWordStart c || c.isDigit) := by
  simp [isWordChar, isWordStart, Char.isAlphanum, Bool.or_right_comm]

/-- What can start a word is no digit. -/
theorem isDigit_of_isWordStart {c : Char} (h : isWordStart c = true) : c.isDigit = false := by
  rw [isWordStart_iff] at h
  rw [Bool.eq_false_iff, ne_eq, Char.isDigit_iff_toNat]
  change ¬ (48 ≤ c.toNat ∧ c.toNat ≤ 57)
  omega

/-- No character of a word is a blank. -/
theorem isBlank_of_isWordChar {c : Char} (h : isWordChar c = true) : isBlank c = false := by
  rw [isWordChar_eq, Bool.or_eq_true, isWordStart_iff, Char.isDigit_iff_toNat] at h
  change _ ∨ (48 ≤ c.toNat ∧ c.toNat ≤ 57) at h
  simp only [isBlank, Bool.or_eq_false_iff, Bool.and_eq_false_iff, decide_eq_false_iff_not,
    beq_eq_false_iff_ne]
  omega

/-- What can start a word can continue one. -/
theorem isWordChar_of_isWordStart {c : Char} (h : isWordStart c = true) : isWordChar c = true := by
  simp [isWordChar_eq, h]

/-- A digit can continue a word. -/
theorem isWordChar_of_isDigit {c : Char} (h : c.isDigit = true) : isWordChar c = true := by
  simp [isWordChar_eq, h]

/-- A mark is neither a word character nor a blank, and opens no comment. -/
theorem not_word_of_mark? {c : Char} {token : Token} (h : Token.mark? c = some token) :
    isWordChar c = false ∧ isBlank c = false ∧ c ≠ '/' := by
  unfold Token.mark? at h
  split at h
  all_goals first | cases h; done | decide

/-- No character of a word is a mark. -/
theorem mark?_of_isWordChar {c : Char} (h : isWordChar c = true) : Token.mark? c = none := by
  cases hmark : Token.mark? c with
  | none => rfl
  | some token => simp [(not_word_of_mark? hmark).1] at h

/-- What starts with a character that is neither a blank nor a slash stops the search for a
token. -/
theorem stops_cons {c : Char} {rest : List Char} (hblank : isBlank c = false) (hslash : c ≠ '/') :
    Stops (c :: rest) :=
  ⟨by simpa using hblank, by simp [OpensComment, hslash.symm]⟩

/-- What starts with a word character stops the search for a token. -/
theorem stops_word {c : Char} {rest : List Char} (h : isWordChar c = true) : Stops (c :: rest) := by
  refine stops_cons (isBlank_of_isWordChar h) ?_
  intro heq
  subst heq
  exact absurd h (by decide)

/-- An identifier starts with a character that can start a word. -/
theorem Grammar.IsIdentifier.exists_cons {word : List Char} (h : IsIdentifier word) :
    ∃ first tail, word = first :: tail ∧ isWordStart first = true := by
  obtain ⟨first, hfirst, hstart⟩ := h.1
  obtain ⟨tail, rfl⟩ := List.head?_eq_some_iff.1 hfirst
  exact ⟨first, tail, rfl, hstart⟩

/-- The word at the start of a text is an identifier if its first character can start one. -/
theorem isIdentifier_takeWhile {text : List Char} (h : text.head?.any isWordStart = true) :
    IsIdentifier (text.takeWhile isWordChar) := by
  obtain ⟨first, hfirst, hstart⟩ := (Option.any_eq_true _ _).1 h
  obtain ⟨tail, rfl⟩ := List.head?_eq_some_iff.1 hfirst
  have hchar := isWordChar_of_isWordStart hstart
  exact ⟨⟨first, by simp [hchar], hstart⟩, fun c hc => List.mem_takeWhile_imp hc⟩

/-- A word ends in front of a text exactly if this does not start with a word character. -/
theorem endsWord_iff {rest : List Char} : EndsWord rest ↔ rest.head?.any isWordChar = false :=
  (Option.any_eq_false _ _).symm

/-- Digits end where a word ends. -/
theorem Grammar.EndsWord.isDigit_eq_false {rest : List Char} (h : EndsWord rest) :
    ∀ c ∈ rest.head?, c.isDigit = false := by
  intro c hc
  by_contra hdigit
  have hword := isWordChar_of_isDigit (Bool.of_not_eq_false hdigit)
  rw [h c hc] at hword
  cases hword

/-- What is read where digits stand that no digit follows. -/
theorem leadingToken_digits {first : Char} {more rest : List Char}
    (hdigits : ∀ c ∈ first :: more, c.isDigit = true) (hrest : ∀ c ∈ rest.head?, c.isDigit = false) :
    leadingToken first (more ++ rest) =
      if rest.head?.any isWordChar then .error (.malformedInteger (String.ofList (first :: more)))
      else if Decimal.digitsValue (first :: more) < UInt32.size then
        .ok (.integer (Decimal.digitsValue (first :: more)), first :: more, rest)
      else .error (.integerOutOfRange (String.ofList (first :: more))) := by
  have hdigit := hdigits first List.mem_cons_self
  have htake := takeWhile_run hdigits hrest
  have hdrop := dropWhile_run hdigits hrest
  rw [List.cons_append] at htake hdrop
  simp only [leadingToken, mark?_of_isWordChar (isWordChar_of_isDigit hdigit), hdigit, htake,
    hdrop, if_true]

/-- A token that is read is a token of the grammar. -/
theorem lexeme_of_leadingToken {first : Char} {rest taken after : List Char} {token : Token}
    (h : leadingToken first rest = .ok (token, taken, after)) :
    Lexeme token (first :: rest) after := by
  unfold leadingToken at h
  split at h
  · rename_i hmark
    obtain ⟨rfl, -, rfl⟩ := by simpa using h
    exact .mark hmark
  · simp only at h
    split at h
    · rename_i hdigit
      split at h
      · cases h
      · rename_i hafter
        split at h
        · rename_i hsize
          obtain ⟨rfl, rfl, rfl⟩ := by simpa using h
          have hends := endsWord_iff.2 (Bool.eq_false_iff.2 hafter)
          have hlexeme := Lexeme.integer (by simp [hdigit])
            (fun c hc => List.mem_takeWhile_imp hc) hends hsize
          rwa [List.takeWhile_append_dropWhile] at hlexeme
        · cases h
    · split at h
      · rename_i hstart
        obtain ⟨rfl, rfl, rfl⟩ := by simpa using h
        have hidentifier : IsIdentifier ((first :: rest).takeWhile isWordChar) :=
          isIdentifier_takeWhile hstart
        have hlexeme := Lexeme.identifier hidentifier
          (head?_dropWhile_eq_false isWordChar (first :: rest))
        rwa [List.takeWhile_append_dropWhile] at hlexeme
      · cases h

/-- A token of the grammar is read. -/
theorem leadingToken_of_lexeme {token : Token} {text after : List Char}
    (h : Lexeme token text after) :
    ∃ first rest taken, text = first :: rest ∧
      leadingToken first rest = .ok (token, taken, after) ∧ Stops text := by
  cases h with
  | @mark c _ _ hmark =>
    obtain ⟨-, hblank, hslash⟩ := not_word_of_mark? hmark
    exact ⟨c, after, [c], rfl, by simp [leadingToken, hmark], stops_cons hblank hslash⟩
  | @identifier word _ hword hrest =>
    obtain ⟨first, tail, rfl, hstart⟩ := hword.exists_cons
    have hchar := isWordChar_of_isWordStart hstart
    refine ⟨first, tail ++ after, first :: tail, rfl, ?_, stops_word hchar⟩
    have htake := takeWhile_run hword.2 hrest
    have hdrop := dropWhile_run hword.2 hrest
    rw [List.cons_append] at htake hdrop
    simp only [leadingToken, mark?_of_isWordChar hchar, isDigit_of_isWordStart hstart, hstart,
      htake, hdrop, if_true, Bool.false_eq_true, if_false]
  | @integer digits _ hne hdigits hrest hsize =>
    obtain ⟨first, tail, rfl⟩ := List.exists_cons_of_ne_nil hne
    have hchar := isWordChar_of_isDigit (hdigits first List.mem_cons_self)
    refine ⟨first, tail ++ after, first :: tail, rfl, ?_, stops_word hchar⟩
    rw [leadingToken_digits hdigits hrest.isDigit_eq_false, endsWord_iff.1 hrest, if_pos hsize]
    rfl

/-- A token that is found has only blanks and comments in front of it. -/
theorem spells_of_nextToken {c d : Cursor} {found : PlacedToken}
    (h : nextToken c = .ok (some found, d)) : Spells [found.token] c.rest d.rest := by
  unfold nextToken at h
  split at h
  · cases h
  · rename_i mid hmid
    obtain ⟨hskips, -⟩ := skips_of_skipTrivia hmid
    split at h
    · simp at h
    · rename_i first rest hrest
      split at h
      · cases h
      · rename_i token taken after htoken
        obtain ⟨rfl, rfl⟩ := by simpa using h
        exact .cons hskips (hrest ▸ lexeme_of_leadingToken htoken) .nil

/-- A token of the grammar is found. -/
theorem nextToken_of_spells {token : Token} {c : Cursor} {rest : List Char}
    (h : Spells [token] c.rest rest) :
    ∃ location d, nextToken c = .ok (some ⟨token, location⟩, d) ∧ d.rest = rest := by
  cases h with
  | cons hskips hlexeme htokens =>
    cases htokens
    obtain ⟨first, tail, taken, rfl, hread, hstops⟩ := leadingToken_of_lexeme hlexeme
    obtain ⟨mid, hmid, hrest⟩ := skipTrivia_of_skips hskips hstops rfl
    refine ⟨mid.position, mid.past taken rest, ?_, rfl⟩
    simp only [nextToken, hmid]
    split
    · simp_all
    · rename_i hcons
      obtain ⟨rfl, rfl⟩ := List.cons.inj (hrest.symm.trans hcons)
      simp only [hread]

/-- No token is found exactly where only blanks and comments are left. -/
theorem nextToken_eq_none_iff {c : Cursor} :
    (∃ d, nextToken c = .ok (none, d)) ↔ Skips c.rest [] := by
  constructor
  · intro h
    obtain ⟨d, h⟩ := h
    unfold nextToken at h
    split at h
    · cases h
    · rename_i mid hmid
      obtain ⟨hskips, -⟩ := skips_of_skipTrivia hmid
      split at h
      · rename_i hrest
        exact hrest ▸ hskips
      · split at h <;> simp at h
  · intro h
    obtain ⟨mid, hmid, hrest⟩ := skipTrivia_of_skips h stops_nil rfl
    refine ⟨mid, ?_⟩
    simp only [nextToken, hmid]
    split
    · rfl
    · simp_all

end ShaderPipeline.Language
