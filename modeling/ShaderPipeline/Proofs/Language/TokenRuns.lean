import ShaderPipeline.Proofs.Language.BlockReading

/-!
# Runs of tokens

What is read when tokens are taken from a text one after the other, as in the declarations of a
source. The text that is passed alternates between gaps, which are blanks and comments, and the
spellings of the tokens (`Span`). Nothing of it is lost, and no token could have been longer.

What the next step gives is decided by the text that is left. There is no token exactly if that is
nothing but a gap, and there is a fault exactly if behind a gap stands a comment that is never
closed, a number that is too large or runs into a word, or a character that starts no token
(`Blocked`). Both follow from one fact: a gap in front of a place makes no difference to what is
read there (`nextToken_eq_of_skips`).
-/

namespace ShaderPipeline.Language

open Grammar Text

variable {c d : Cursor} {e : CompileError}

/-! ## Longest tokens -/

namespace Grammar

/-- A text that is one token, with nothing in front of it and nothing behind it. -/
def IsToken (text : List Char) : Prop := ∃ token, Lexeme token text []

/-- A text that is one token is a mark or consists of word characters. -/
theorem IsToken.mark_or_word {text : List Char} (h : IsToken text) :
    (∃ mark token, text = [mark] ∧ Token.mark? mark = some token) ∨
      ∀ c ∈ text, isWordChar c = true := by
  obtain ⟨token, h⟩ := h
  generalize hnil : ([] : List Char) = rest at h
  cases h with
  | mark hmark =>
    subst hnil
    exact .inl ⟨_, _, rfl, hmark⟩
  | identifier hword =>
    subst hnil
    exact .inr (by simpa using hword.2)
  | integer _ hdigits =>
    subst hnil
    refine .inr fun c hc => isWordChar_of_isDigit (hdigits c ?_)
    simpa using hc

/-- What starts with a word and goes on with word characters only is no longer than the word. -/
theorem EndsWord.length_le {front word rest : List Char} (hrest : EndsWord rest)
    (hfront : front <+: word ++ rest) (hword : ∀ c ∈ front, isWordChar c = true) :
    front.length ≤ word.length := by
  by_contra hlonger
  obtain ⟨more, rfl⟩ : word <+: front :=
    List.prefix_of_prefix_length_le (List.prefix_append word rest) hfront (by omega)
  have hmore : more <+: rest := (List.prefix_append_right_inj word).1 hfront
  cases more with
  | nil => simp at hlonger
  | cons first more =>
    obtain ⟨tail, rfl⟩ := hmore
    have hchar := hword first (by simp)
    rw [hrest first rfl] at hchar
    cases hchar

/-- No front of a text that is one token is longer than the token at the start of the text. -/
theorem Lexeme.longest {token : Token} {text rest longer : List Char} (h : Lexeme token text rest)
    (hlonger : IsToken longer) (hfront : longer <+: text) :
    longer.length + rest.length ≤ text.length := by
  cases h with
  | @mark c rest token hmark =>
    rcases hlonger.mark_or_word with ⟨_, _, rfl, -⟩ | hword
    · simp [Nat.add_comm]
    · cases longer with
      | nil => simp
      | cons first more =>
        obtain rfl := (List.cons_prefix_cons.1 hfront).1
        have hchar := hword first List.mem_cons_self
        rw [(not_word_of_mark? hmark).1] at hchar
        cases hchar
  | @identifier word rest hidentifier hrest =>
    rw [List.length_append, Nat.add_le_add_iff_right]
    rcases hlonger.mark_or_word with ⟨_, _, rfl, -⟩ | hword
    · obtain ⟨first, tail, rfl, -⟩ := hidentifier.exists_cons
      simp
    · exact hrest.length_le hfront hword
  | @integer digits rest hne _ hrest _ =>
    rw [List.length_append, Nat.add_le_add_iff_right]
    rcases hlonger.mark_or_word with ⟨_, _, rfl, -⟩ | hword
    · exact List.length_pos_iff.2 hne
    · exact hrest.length_le hfront hword

/-- A mark, a digit and a character that can start a word are tokens by themselves. -/
theorem isToken_singleton {c : Char}
    (h : (∃ token, Token.mark? c = some token) ∨ c.isDigit = true ∨ isWordStart c = true) :
    IsToken [c] := by
  rcases h with ⟨token, hmark⟩ | hdigit | hstart
  · exact ⟨token, .mark hmark⟩
  · refine ⟨_, @Lexeme.integer [c] [] (List.cons_ne_nil c [])
      (List.forall_mem_singleton.2 hdigit) nofun ?_⟩
    have hrange : 48 ≤ c.toNat ∧ c.toNat ≤ 57 := Char.isDigit_iff_toNat.1 hdigit
    have hsize : UInt32.size = 4294967296 := rfl
    change 10 * 0 + (c.toNat - 48) < UInt32.size
    omega
  · have hword : IsIdentifier [c] :=
      ⟨⟨c, rfl, hstart⟩, List.forall_mem_singleton.2 (isWordChar_of_isWordStart hstart)⟩
    exact ⟨_, @Lexeme.identifier [c] [] hword nofun⟩

/-- A text that is one token starts with a character that is one token by itself. -/
theorem IsToken.starts {c : Char} {more : List Char} (h : IsToken (c :: more)) :
    (∃ token, Token.mark? c = some token) ∨ c.isDigit = true ∨ isWordStart c = true := by
  obtain ⟨token, h⟩ := h
  generalize htext : c :: more = text at h
  generalize hnil : ([] : List Char) = rest at h
  cases h with
  | mark hmark =>
    obtain rfl := (List.cons.inj htext).1
    exact .inl ⟨token, hmark⟩
  | identifier hword =>
    obtain ⟨first, tail, rfl, hstart⟩ := hword.exists_cons
    obtain rfl := (List.cons.inj htext).1
    exact .inr (.inr hstart)
  | @integer digits _ hne hdigits =>
    obtain ⟨first, tail, rfl⟩ := List.exists_cons_of_ne_nil hne
    obtain rfl := (List.cons.inj htext).1
    exact .inr (.inl (hdigits c List.mem_cons_self))

end Grammar

/-! ## What a run passes -/

/-- A token that is found in a text, the gap in front of it and its spelling. -/
structure Span where
  gap : List Char
  spelling : List Char
  found : PlacedToken

/-- The text of a span. -/
def Span.text (span : Span) : List Char := span.gap ++ span.spelling

/-- A span stands at a position in front of a text. -/
structure Span.Stands (span : Span) (start : Position) (rest : List Char) : Prop where
  /-- The gap consists of blanks and of comments that are closed. -/
  gap_skips : Skips (span.gap ++ (span.spelling ++ rest)) (span.spelling ++ rest)
  /-- The spelling is that of the token. Behind a word or a number goes on no word. -/
  lexeme : Lexeme span.found.token (span.spelling ++ rest) rest
  /-- No longer text is a token here. -/
  longest : ∀ longer, IsToken longer → longer <+: span.spelling ++ rest →
    longer.length ≤ span.spelling.length
  /-- The token has the place at which its spelling starts. -/
  location_eq : span.found.location = start.after span.gap

/-- Spans fill the text between two cursors. -/
structure Fills (spans : List Span) (c d : Cursor) : Prop where
  rest_eq : c.rest = spans.flatMap Span.text ++ d.rest
  position_eq : d.position = c.position.after (spans.flatMap Span.text)
  stands : ∀ before span after, spans = before ++ span :: after →
    span.Stands (c.position.after (before.flatMap Span.text)) (after.flatMap Span.text ++ d.rest)

/-- Tokens are found one after the other, from one cursor to another. -/
inductive Finds : Cursor → List PlacedToken → Cursor → Prop
  | nil {c : Cursor} : Finds c [] c
  | cons {c mid d : Cursor} {found : PlacedToken} {more : List PlacedToken}
      (hfirst : nextToken c = .ok (some found, mid)) (hmore : Finds mid more d) :
      Finds c (found :: more) d

/-- No spans fill nothing. -/
theorem Fills.nil : Fills [] c c :=
  ⟨rfl, rfl, by simp⟩

/-- A span in front of spans that fill a text. -/
theorem Fills.cons {mid : Cursor} {span : Span} {spans : List Span}
    (hrest : c.rest = span.text ++ mid.rest) (hposition : mid.position = c.position.after span.text)
    (hstands : span.Stands c.position mid.rest) (h : Fills spans mid d) :
    Fills (span :: spans) c d where
  rest_eq := by rw [hrest, h.rest_eq, List.flatMap_cons, List.append_assoc]
  position_eq := by rw [h.position_eq, hposition, List.flatMap_cons, Position.after_append]
  stands := by
    intro before other after hsplit
    cases before with
    | nil =>
      obtain ⟨rfl, rfl⟩ := List.cons.inj hsplit
      rw [← h.rest_eq]
      exact hstands
    | cons first before =>
      obtain ⟨rfl, hspans⟩ := List.cons.inj hsplit
      have hother := h.stands before other after hspans
      rwa [hposition, ← Position.after_append, ← List.flatMap_cons] at hother

/-- A step passes the span of its token. -/
theorem span_of_nextToken {found : PlacedToken} (h : nextToken c = .ok (some found, d)) :
    ∃ span : Span, span.found = found ∧ c.rest = span.text ++ d.rest ∧
      d.position = c.position.after span.text ∧ span.Stands c.position d.rest := by
  unfold nextToken at h
  split at h
  · cases h
  · rename_i mid hmid
    obtain ⟨gap, hgap, hplace⟩ := skipTrivia_reaches hmid
    have hskips := (skips_of_skipTrivia hmid).1
    split at h
    · simp at h
    · rename_i first rest hrest
      split at h
      · cases h
      · rename_i token spelling after htoken
        obtain ⟨rfl, rfl⟩ := by simpa using h
        have hspelling : mid.rest = spelling ++ after := hrest.trans (leadingToken_append htoken).1
        have hlexeme : Lexeme token (spelling ++ after) after := by
          rw [← hspelling, hrest]
          exact lexeme_of_leadingToken htoken
        refine ⟨⟨gap, spelling, ⟨token, mid.position⟩⟩, rfl, ?_, ?_, ?_⟩
        · rw [hgap, hspelling, Span.text, List.append_assoc]
          rfl
        · rw [Span.text, Position.after_append, ← hplace]
          rfl
        · constructor
          case gap_skips =>
            rw [hgap, hspelling] at hskips
            exact hskips
          case lexeme => exact hlexeme
          case longest =>
            intro longer hlonger hfront
            have hlength := hlexeme.longest hlonger hfront
            rwa [List.length_append, Nat.add_le_add_iff_right] at hlength
          case location_eq => exact hplace

/-- A run passes the spans of its tokens. -/
theorem Finds.fills {found : List PlacedToken} (h : Finds c found d) :
    ∃ spans : List Span, spans.map (·.found) = found ∧ Fills spans c d := by
  induction h with
  | nil => exact ⟨[], rfl, .nil⟩
  | cons hfirst _ ih =>
    obtain ⟨span, hfound, hrest, hposition, hstands⟩ := span_of_nextToken hfirst
    obtain ⟨spans, hmore, hfills⟩ := ih
    exact ⟨span :: spans, by rw [List.map_cons, hfound, hmore],
      .cons hrest hposition hstands hfills⟩

/-- A run comes to an end, as every token takes a character of the text. -/
theorem exists_finds_end (c : Cursor) :
    ∃ found d, Finds c found d ∧ ∀ next after, nextToken d ≠ .ok (some next, after) := by
  induction hlength : c.rest.length using Nat.strong_induction_on generalizing c with
  | _ length ih =>
    by_cases hnext : ∃ next after, nextToken c = .ok (some next, after)
    · obtain ⟨next, after, hnext⟩ := hnext
      obtain ⟨found, d, hfinds, hend⟩ := ih _ (hlength ▸ nextToken_shorter hnext) after rfl
      exact ⟨next :: found, d, .cons hnext hfinds, hend⟩
    · exact ⟨[], c, .nil, fun next after hfound => hnext ⟨next, after, hfound⟩⟩

/-! ## Gaps make no difference -/

/-- The reader gets to the end of a gap, and passes over the rest from there. -/
theorem exists_reaches_of_skips {text rest : List Char} (h : Skips text rest) {c : Cursor}
    (hc : c.rest = text) : ∃ d, c.Reaches d ∧ d.rest = rest ∧ skipTrivia c = skipTrivia d := by
  induction h generalizing c with
  | none => exact ⟨c, .refl c, hc, rfl⟩
  | @blank first text rest hblank _ ih =>
    obtain ⟨d, hreach, hrest, hskip⟩ := ih (c := c.past [first] text) rfl
    exact ⟨d, .trans (Cursor.reaches_past hc) hreach, hrest,
      (skipTrivia_blank hc hblank).trans hskip⟩
  | @comment comment text rest hcomment _ ih =>
    obtain ⟨d, hreach, hrest, hskip⟩ := ih (c := c.past comment text) rfl
    exact ⟨d, .trans (Cursor.reaches_past hc) hreach, hrest,
      (skipTrivia_comment hc hcomment).trans hskip⟩

/-- The same is read in front of a gap and behind it. -/
theorem nextToken_eq_of_skips (hreach : c.Reaches d) (hskips : Skips c.rest d.rest) :
    nextToken c = nextToken d := by
  obtain ⟨other, hother, hrest, hskip⟩ := exists_reaches_of_skips hskips rfl
  obtain rfl := hreach.eq_of_rest hother hrest.symm
  simp only [nextToken, hskip]

/-! ## Faults -/

/-- A place at which something stands that is neither blank nor comment nor token, and the error for
it: a comment that is never closed, digits that run into a word or are too large a number, or a
character that starts no token. -/
inductive Blocked : Cursor → CompileError → Prop
  | comment {tail : List Char} {place : Position} (hunclosed : ¬ ['*', '/'] <:+: tail) :
    Blocked ⟨'/' :: '*' :: tail, place⟩ (.located place .unterminatedComment)
  | malformed {digits tail : List Char} {first : Char} {place : Position} (hne : digits ≠ [])
    (hdigits : ∀ c ∈ digits, c.isDigit = true) (hfirst : isWordStart first = true) :
    Blocked ⟨digits ++ first :: tail, place⟩
      (.located place (.malformedInteger (String.ofList digits)))
  | outOfRange {digits rest : List Char} {place : Position} (hne : digits ≠ [])
    (hdigits : ∀ c ∈ digits, c.isDigit = true) (hrest : EndsWord rest)
    (hsize : UInt32.size ≤ Decimal.digitsValue digits) :
    Blocked ⟨digits ++ rest, place⟩ (.located place (.integerOutOfRange (String.ofList digits)))
  | character {first : Char} {tail : List Char} {place : Position} (hblank : isBlank first = false)
    (hopens : ¬ OpensComment (first :: tail)) (hstarts : ∀ more, ¬ IsToken (first :: more)) :
    Blocked ⟨first :: tail, place⟩ (.located place (.unexpectedCharacter first))

/-- The reader is blocked where it finds no token. -/
theorem blocked_of_leadingToken {first : Char} {rest : List Char} {fault : Fault}
    {place : Position} (hstops : Stops (first :: rest))
    (h : leadingToken first rest = .error fault) :
    Blocked ⟨first :: rest, place⟩ (.located place fault) := by
  have hsplit : (first :: rest).takeWhile Char.isDigit ++ (first :: rest).dropWhile Char.isDigit =
      first :: rest := List.takeWhile_append_dropWhile
  have hdigits : ∀ c ∈ (first :: rest).takeWhile Char.isDigit, c.isDigit = true :=
    fun c hc => List.mem_takeWhile_imp hc
  have hstop := head?_dropWhile_eq_false Char.isDigit (first :: rest)
  unfold leadingToken at h
  split at h
  · cases h
  · rename_i hmark
    simp only at h
    split at h
    · rename_i hdigit
      have hne : (first :: rest).takeWhile Char.isDigit ≠ [] := by simp [hdigit]
      split at h
      · rename_i hword
        obtain rfl := Except.error.inj h
        obtain ⟨next, hnext, hchar⟩ := (Option.any_eq_true _ _).1 hword
        obtain ⟨tail, htail⟩ := List.head?_eq_some_iff.1 hnext
        have hnumber : next.isDigit = false := hstop next hnext
        have hstart : isWordStart next = true := by simpa [isWordChar_eq, hnumber] using hchar
        have hblocked := @Blocked.malformed _ tail next place hne hdigits hstart
        rwa [← htail, hsplit] at hblocked
      · rename_i hword
        split at h
        · cases h
        · rename_i hsize
          obtain rfl := Except.error.inj h
          have hends := endsWord_iff.2 (Bool.eq_false_iff.2 hword)
          have hblocked := @Blocked.outOfRange _ _ place hne hdigits hends (Nat.not_lt.1 hsize)
          rwa [hsplit] at hblocked
    · rename_i hdigit
      split at h
      · cases h
      · rename_i hstart
        obtain rfl := Except.error.inj h
        refine .character (hstops.head_blank first rfl) hstops.not_opens fun more htoken => ?_
        rcases htoken.starts with ⟨token, hsome⟩ | hsome | hsome
        · rw [hmark] at hsome
          cases hsome
        · exact hdigit hsome
        · exact hstart hsome

/-- Where a gap cannot be passed over, the reader is blocked behind a part of it. -/
theorem blocked_of_skipTrivia (h : skipTrivia c = .error e) :
    ∃ place, c.Reaches place ∧ Skips c.rest place.rest ∧ Blocked place e := by
  fun_induction skipTrivia c with
  | case1 => cases h
  | case2 c first rest hrest hblank ih =>
    obtain ⟨place, hreach, hskips, hblocked⟩ := ih h
    refine ⟨place, .trans (Cursor.reaches_past hrest) hreach, ?_, hblocked⟩
    rw [hrest]
    exact .blank hblank hskips
  | case3 => cases h
  | case4 c first rest hrest hblank hcomment =>
    obtain rfl := Except.error.inj h
    obtain ⟨text, place⟩ := c
    obtain ⟨tail, htext, hunclosed⟩ := unclosed_of_leadingComment hcomment
    obtain rfl : text = '/' :: '*' :: tail := hrest.trans htext
    exact ⟨_, .refl _, .none, .comment hunclosed⟩
  | case5 c first rest hrest _ text tail hcomment ih =>
    obtain ⟨place, hreach, hskips, hblocked⟩ := ih h
    have htext := hrest.trans (leadingComment_append hcomment)
    refine ⟨place, .trans (Cursor.reaches_past htext) hreach, ?_, hblocked⟩
    rw [htext]
    exact .comment (comment_of_leadingComment hcomment) hskips

/-- A comment that is never closed is passed over by no reader. -/
theorem skipTrivia_unclosed {tail : List Char} (h : ¬ ['*', '/'] <:+: tail) (place : Position) :
    skipTrivia ⟨'/' :: '*' :: tail, place⟩ = .error (.located place .unterminatedComment) := by
  have hcomment : leadingComment ('/' :: '*' :: tail) = .unclosed := by
    rw [leadingComment]
    split
    · rfl
    · rename_i hsplit
      obtain ⟨content, rfl, -⟩ := splitAfterClose_eq_some hsplit
      exact absurd ⟨content, _, (splitAfterClose_append hsplit).symm⟩ h
  rw [skipTrivia]
  split
  · simp_all
  · rename_i first rest hcons
    obtain ⟨rfl, rfl⟩ := List.cons.inj hcons
    rw [if_neg (by decide)]
    split
    · simp_all
    · rfl
    · simp_all

/-- Where no token can be read and nothing can be passed over, the step fails. -/
theorem nextToken_of_error {first : Char} {rest : List Char} {fault : Fault} {place : Position}
    (hstops : Stops (first :: rest)) (h : leadingToken first rest = .error fault) :
    nextToken ⟨first :: rest, place⟩ = .error (.located place fault) := by
  have hskip := skipTrivia_of_stops (c := ⟨first :: rest, place⟩) hstops
  simp only [nextToken, hskip, h]

/-- Where the reader is blocked, the step fails. -/
theorem nextToken_of_blocked (h : Blocked c e) : nextToken c = .error e := by
  cases h with
  | comment hunclosed => simp only [nextToken, skipTrivia_unclosed hunclosed]
  | @malformed digits tail first place hne hdigits hfirst =>
    obtain ⟨digit, more, rfl⟩ := List.exists_cons_of_ne_nil hne
    have hchar := isWordChar_of_isDigit (hdigits digit List.mem_cons_self)
    have hstop : ∀ c ∈ (first :: tail).head?, c.isDigit = false := by
      simpa using isDigit_of_isWordStart hfirst
    have hany : (first :: tail).head?.any isWordChar = true := isWordChar_of_isWordStart hfirst
    refine nextToken_of_error (stops_word hchar) ?_
    exact (leadingToken_digits hdigits hstop).trans (if_pos hany)
  | @outOfRange digits rest place hne hdigits hrest hsize =>
    obtain ⟨digit, more, rfl⟩ := List.exists_cons_of_ne_nil hne
    have hchar := isWordChar_of_isDigit (hdigits digit List.mem_cons_self)
    refine nextToken_of_error (stops_word hchar) ?_
    change leadingToken digit (more ++ rest) = _
    rw [leadingToken_digits hdigits hrest.isDigit_eq_false, endsWord_iff.1 hrest,
      if_neg (Nat.not_lt.2 hsize)]
    rfl
  | @character first tail place hblank hopens hstarts =>
    have hmark : Token.mark? first = none := by
      rw [Option.eq_none_iff_forall_ne_some]
      exact fun token hsome => hstarts [] (isToken_singleton (.inl ⟨token, hsome⟩))
    have hdigit : ¬ first.isDigit = true := fun hsome =>
      hstarts [] (isToken_singleton (.inr (.inl hsome)))
    have hstart : ¬ isWordStart first = true := fun hsome =>
      hstarts [] (isToken_singleton (.inr (.inr hsome)))
    refine nextToken_of_error ⟨by simpa using hblank, hopens⟩ ?_
    simp only [leadingToken, hmark, if_neg hdigit, if_neg hstart]

/-- A step fails exactly where the reader is blocked behind a gap. -/
theorem nextToken_eq_error_iff : nextToken c = .error e ↔
    ∃ place, c.Reaches place ∧ Skips c.rest place.rest ∧ Blocked place e := by
  constructor
  · intro h
    unfold nextToken at h
    split at h
    · rename_i hskip
      obtain rfl := Except.error.inj h
      exact blocked_of_skipTrivia hskip
    · rename_i mid hmid
      obtain ⟨hskips, hstops⟩ := skips_of_skipTrivia hmid
      refine ⟨mid, skipTrivia_reaches hmid, hskips, ?_⟩
      split at h
      · cases h
      · rename_i first rest hrest
        split at h
        · rename_i hfault
          obtain rfl := Except.error.inj h
          obtain ⟨text, place⟩ := mid
          obtain rfl : text = first :: rest := hrest
          exact blocked_of_leadingToken hstops hfault
        · cases h
  · rintro ⟨place, hreach, hskips, hblocked⟩
    rw [nextToken_eq_of_skips hreach hskips]
    exact nextToken_of_blocked hblocked

example : leadingToken '1' "2é".toList = .ok (.integer 12, "12".toList, "é".toList) := by decide

example : leadingToken 'é' [] = .error (.unexpectedCharacter 'é') := by decide

/-- A step finds nothing exactly if a gap is all that is left, and passes it. -/
theorem nextToken_eq_end_iff : nextToken c = .ok (none, d) ↔
    c.Reaches d ∧ d.rest = [] ∧ Skips c.rest [] := by
  constructor
  · intro h
    refine ⟨nextToken_reaches h, ?_, nextToken_eq_none_iff.1 ⟨d, h⟩⟩
    unfold nextToken at h
    split at h
    · cases h
    · rename_i mid hmid
      split at h
      · rename_i hrest
        obtain rfl := (Prod.mk.inj (Except.ok.inj h)).2
        exact hrest
      · split at h <;> simp at h
  · rintro ⟨hreach, hrest, hskips⟩
    obtain ⟨text, place⟩ := d
    obtain rfl : text = [] := hrest
    rw [nextToken_eq_of_skips hreach hskips]
    simp only [nextToken, skipTrivia_of_stops (c := ⟨[], place⟩) stops_nil]

/-! ## Runs -/

/-- What is expected of taking tokens one after the other from a cursor on. -/
structure ReadsTokens (c : Cursor) : Prop where
  /-- The text that a run passes is filled by its tokens and the gaps in front of them. -/
  fills : ∀ found d, Finds c found d →
    ∃ spans : List Span, spans.map (·.found) = found ∧ Fills spans c d
  /-- Each token takes a part of the text. -/
  advances : ∀ found d next after, Finds c found d → nextToken d = .ok (some next, after) →
    ∃ taken, taken ≠ [] ∧ d.rest = taken ++ after.rest ∧ after.position = d.position.after taken
  /-- There is no token exactly if a gap is all that is left. -/
  end_iff : ∀ found d after, Finds c found d →
    (nextToken d = .ok (none, after) ↔ d.Reaches after ∧ after.rest = [] ∧ Skips d.rest [])
  /-- There is a fault exactly if the reader is blocked behind a gap, and this is where it is. -/
  error_iff : ∀ found d e, Finds c found d →
    (nextToken d = .error e ↔ ∃ place, d.Reaches place ∧ Skips d.rest place.rest ∧ Blocked place e)
  /-- A run comes to an end. -/
  ends : ∃ found d, Finds c found d ∧ ∀ next after, nextToken d ≠ .ok (some next, after)

/-- Tokens are read one after the other without loss, each as long as it can be. -/
theorem nextToken_lossless (c : Cursor) : ReadsTokens c where
  fills _ _ h := h.fills
  advances found d next after _ h := by
    obtain ⟨span, -, hrest, hposition, -⟩ := span_of_nextToken h
    refine ⟨span.text, fun hempty => ?_, hrest, hposition⟩
    have hshorter := nextToken_shorter h
    rw [hrest, hempty] at hshorter
    simp at hshorter
  end_iff _ _ _ _ := nextToken_eq_end_iff
  error_iff _ _ _ _ := nextToken_eq_error_iff
  ends := exists_finds_end c

end ShaderPipeline.Language
