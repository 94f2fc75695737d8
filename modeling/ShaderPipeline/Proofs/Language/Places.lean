import Mathlib.Data.List.Induction
import ShaderPipeline.Proofs.Language.Lexing

/-!
# Places of a source

The place of a character counts the line feeds in front of it and the characters since the last of
them (`placeBehind`). The readers count differently, one character after the other; that this gives
the same is `start_after`. A reader stands in a source if what it has left to read stands at its
position there (`StandsAt`), and moving forward keeps this.

`Parser.Leads` describes a parser from one cursor on: where it succeeds it still stands in the
source, and what is said of its result holds there; where it fails it names a place of the source.
It is kept by sequencing, and each word of a declaration has one lemma.
-/

namespace ShaderPipeline.Language

open Text Grammar

/-! ## Counting lines and columns -/

/-- The place behind a text at the start of a source. Its line is one more than the line feeds of
the text, its column one more than the characters behind the last of them. -/
def placeBehind (front : List Char) : Position :=
  ⟨front.count '\n' + 1, (front.reverse.takeWhile (· != '\n')).length + 1⟩

/-- Counting the characters of a text one after the other ends at the place behind it. -/
theorem start_after (front : List Char) : Position.start.after front = placeBehind front := by
  induction front using List.reverseRecOn with
  | nil => rfl
  | append_singleton front c ih =>
    rw [Position.after_append, ih]
    change (placeBehind front).next c = _
    unfold placeBehind Position.next
    by_cases hc : c = '\n' <;> simp [hc]

/-- The rest of a source starts at a place. -/
def StandsAt (source : List Char) (place : Position) (rest : List Char) : Prop :=
  ∃ front, source = front ++ rest ∧ place = placeBehind front

/-- A place is that of a character of the source, or the one behind the last character. -/
def IsPlace (source : List Char) (place : Position) : Prop := ∃ rest, StandsAt source place rest

variable {source : List Char}

/-- The whole source starts at the first place. -/
theorem standsAt_start (source : List Char) : StandsAt source .start source := ⟨[], rfl, rfl⟩

/-- What is left after moving forward starts where the reader is then. -/
theorem StandsAt.reaches {c d : Cursor} (h : StandsAt source c.position c.rest)
    (hreach : c.Reaches d) : StandsAt source d.position d.rest := by
  obtain ⟨front, rfl, hplace⟩ := h
  obtain ⟨taken, hrest, hposition⟩ := hreach
  refine ⟨front ++ taken, by rw [hrest, List.append_assoc], ?_⟩
  rw [hposition, hplace, ← start_after, ← start_after, Position.after_append]

/-- What is left starts at a place. -/
theorem StandsAt.isPlace {place : Position} {rest : List Char} (h : StandsAt source place rest) :
    IsPlace source place :=
  ⟨rest, h⟩

/-! ## Words in a source -/

/-- A text starts with the name of an identifier, and with no longer identifier. -/
structure SpelledBy (name : String) (text rest : List Char) : Prop where
  text_eq : text = name.toList ++ rest
  identifier : IsIdentifier name.toList
  ends : EndsWord rest

/-- An identifier of the grammar is spelled by its name. -/
theorem spelledBy_of_lexeme {name : String} {text rest : List Char}
    (h : Lexeme (.identifier name) text rest) : SpelledBy name text rest := by
  cases h with
  | mark hmark =>
    unfold Token.mark? at hmark
    split at hmark <;> cases hmark
  | identifier hword hrest =>
    exact ⟨by rw [String.toList_ofList], by rwa [String.toList_ofList], hrest⟩

/-- The word at the start of a text is spelled by its name. -/
theorem spelledBy_takeWhile {text : List Char} (h : text.head?.any isWordStart = true) :
    SpelledBy (String.ofList (text.takeWhile isWordChar)) text (text.dropWhile isWordChar) where
  text_eq := by rw [String.toList_ofList, List.takeWhile_append_dropWhile]
  identifier := by
    rw [String.toList_ofList]
    exact isIdentifier_takeWhile h
  ends := head?_dropWhile_eq_false isWordChar text

/-- A token of the source stands at its place, and what is left starts behind it. -/
def TokenAt (source : List Char) (found : PlacedToken) (rest : List Char) : Prop :=
  ∃ text, StandsAt source found.location text ∧ Lexeme found.token text rest

/-- The place of a token is one of the source. -/
theorem TokenAt.isPlace {found : PlacedToken} {rest : List Char} (h : TokenAt source found rest) :
    IsPlace source found.location := by
  obtain ⟨text, hstands, -⟩ := h
  exact hstands.isPlace

/-- A word behind blanks and comments stands at its place. -/
def WordAt (source : List Char) (text : List Char) (word : String × Position)
    (rest : List Char) : Prop :=
  ∃ start, Skips text start ∧ StandsAt source word.2 start ∧ SpelledBy word.1 start rest

/-- The place of a word is one of the source. -/
theorem WordAt.isPlace {text rest : List Char} {word : String × Position}
    (h : WordAt source text word rest) : IsPlace source word.2 := by
  obtain ⟨start, -, hstands, -⟩ := h
  exact hstands.isPlace

/-! ## Faults of the readers -/

/-- Whether a fault is about a property that is used, and not about the form of the source. -/
def Fault.isUse : Fault → Bool
  | .undeclaredProperty _ | .mistypedProperty _ _ _ => true
  | _ => false

/-- A fault in the form of a source, which is found at a place of the source. -/
structure FormFault (source : List Char) (e : CompileError) : Prop where
  place_at : ∃ place, e.location = some place ∧ IsPlace source place
  isUse_eq : e.fault.isUse = false

/-- A fault in the form of a source, found at a place. -/
theorem formFault_located {place : Position} {fault : Fault} (h : IsPlace source place)
    (hfault : fault.isUse = false) : FormFault source (.located place fault) :=
  ⟨⟨place, rfl, h⟩, hfault⟩

/-- What is no token is wrong in its form. -/
theorem isUse_of_leadingToken {first : Char} {rest : List Char} {fault : Fault}
    (h : leadingToken first rest = .error fault) : fault.isUse = false := by
  unfold leadingToken at h
  split at h
  · cases h
  · simp only at h
    split at h
    · split at h
      · obtain rfl := Except.error.inj h
        rfl
      · split at h
        · cases h
        · obtain rfl := Except.error.inj h
          rfl
    · split at h
      · cases h
      · obtain rfl := Except.error.inj h
        rfl

/-- A comment without its end is found where it starts. -/
theorem formFault_of_skipTrivia {c : Cursor} {e : CompileError}
    (hc : StandsAt source c.position c.rest) (h : skipTrivia c = .error e) :
    FormFault source e := by
  fun_induction skipTrivia c with
  | case1 => cases h
  | case2 c first rest hrest _ ih => exact ih (hc.reaches (Cursor.reaches_past hrest)) h
  | case3 => cases h
  | case4 c =>
    obtain rfl := Except.error.inj h
    exact formFault_located hc.isPlace rfl
  | case5 c first rest hrest _ text tail hcomment ih =>
    have hreach := Cursor.reaches_past (hrest.trans (leadingComment_append hcomment))
    exact ih (hc.reaches hreach) h

/-- What is no token is found where it starts. -/
theorem formFault_of_nextToken {c : Cursor} {e : CompileError}
    (hc : StandsAt source c.position c.rest) (h : nextToken c = .error e) :
    FormFault source e := by
  unfold nextToken at h
  split at h
  · rename_i hskip
    obtain rfl := Except.error.inj h
    exact formFault_of_skipTrivia hc hskip
  · rename_i mid hskip
    have hmid := hc.reaches (skipTrivia_reaches hskip)
    split at h
    · cases h
    · split at h
      · rename_i hfault
        obtain rfl := Except.error.inj h
        exact formFault_located hmid.isPlace (isUse_of_leadingToken hfault)
      · cases h

/-- A token that is found stands at its place, with blanks and comments in front of it. -/
theorem tokenAt_of_nextToken {c d : Cursor} {found : PlacedToken}
    (hc : StandsAt source c.position c.rest) (h : nextToken c = .ok (some found, d)) :
    ∃ text, Skips c.rest text ∧ StandsAt source found.location text ∧
      Lexeme found.token text d.rest := by
  unfold nextToken at h
  split at h
  · cases h
  · rename_i mid hskip
    have hmid := hc.reaches (skipTrivia_reaches hskip)
    split at h
    · cases h
    · rename_i first rest hrest
      split at h
      · cases h
      · rename_i token taken after htoken
        obtain ⟨rfl, rfl⟩ := by simpa using h
        refine ⟨mid.rest, (skips_of_skipTrivia hskip).1, hmid, ?_⟩
        rw [hrest]
        exact lexeme_of_leadingToken htoken

/-! ## Parsers -/

namespace Parser

variable {α β : Type}

/-- What a parser does from a cursor on. Where it succeeds it stands in the source, and what is said
of the result and the rest holds; where it fails it names a place of the source. -/
structure Leads (source : List Char) (c : Cursor) (p : Parser α)
    (result : α → List Char → Prop) : Prop where
  ok : ∀ {a d}, p.run c = .ok (a, d) → StandsAt source d.position d.rest ∧ result a d.rest
  error : ∀ {e}, p.run c = .error e → FormFault source e

namespace Leads

variable {c : Cursor} {p : Parser α} {q : α → Parser β} {result : α → List Char → Prop}
  {after : β → List Char → Prop}

/-- A parser that reads nothing stays where it is. -/
theorem pure {a : α} (hc : StandsAt source c.position c.rest) (h : result a c.rest) :
    Leads source c (Pure.pure a) result where
  ok hrun := by
    obtain ⟨rfl, rfl⟩ := Prod.mk.inj (Except.ok.inj hrun)
    exact ⟨hc, h⟩
  error hrun := by cases hrun

/-- A parser gives up at a place of the source. -/
theorem fail {place : Position} {fault : Fault} (h : IsPlace source place)
    (hfault : fault.isUse = false) :
    Leads source c (Parser.fail place fault : Parser α) result where
  ok hrun := by cases hrun
  error hrun := by
    obtain rfl := Except.error.inj hrun
    exact formFault_located h hfault

/-- Of parsers in sequence the second starts where the first has ended. -/
theorem bind (hp : Leads source c p result)
    (hq : ∀ a d, StandsAt source d.position d.rest → result a d.rest →
      Leads source d (q a) after) : Leads source c (p >>= q) after := by
  constructor
  · intro b d hrun
    rw [StateT.run_bind] at hrun
    cases hmid : p.run c with
    | error e =>
      rw [hmid] at hrun
      cases hrun
    | ok step =>
      rw [hmid] at hrun
      obtain ⟨hstands, hresult⟩ := hp.ok hmid
      exact (hq step.1 step.2 hstands hresult).ok hrun
  · intro e hrun
    rw [StateT.run_bind] at hrun
    cases hmid : p.run c with
    | error e =>
      rw [hmid] at hrun
      obtain rfl := Except.error.inj hrun
      exact hp.error hmid
    | ok step =>
      rw [hmid] at hrun
      obtain ⟨hstands, hresult⟩ := hp.ok hmid
      exact (hq step.1 step.2 hstands hresult).error hrun

end Leads

variable {c : Cursor}

/-- The next token stands at its place. -/
theorem token_leads (hc : StandsAt source c.position c.rest) (expected : Expectation) :
    Leads source c (token expected) fun found rest =>
      ∃ text, Skips c.rest text ∧ StandsAt source found.location text ∧
        Lexeme found.token text rest where
  ok {found d} hrun := by
    change token expected c = _ at hrun
    unfold token at hrun
    split at hrun
    · cases hrun
    · cases hrun
    · rename_i hnext
      obtain ⟨rfl, rfl⟩ := by simpa using hrun
      exact ⟨hc.reaches (nextToken_reaches hnext), tokenAt_of_nextToken hc hnext⟩
  error {e} hrun := by
    change token expected c = _ at hrun
    unfold token at hrun
    split at hrun
    · rename_i hnext
      obtain rfl := Except.error.inj hrun
      exact formFault_of_nextToken hc hnext
    · obtain rfl := Except.error.inj hrun
      exact formFault_located hc.isPlace rfl
    · cases hrun

/-- A particular token stands at its place. -/
theorem exactly_leads (hc : StandsAt source c.position c.rest) (wanted : Token) :
    Leads source c (exactly wanted) fun found rest =>
      found.token = wanted ∧ TokenAt source found rest := by
  refine .bind (token_leads hc _) fun found d hd hfound => ?_
  obtain ⟨text, -, hstands, hlexeme⟩ := hfound
  split
  · rename_i hwanted
    exact .pure hd ⟨hwanted, text, hstands, hlexeme⟩
  · exact .fail hstands.isPlace rfl

/-- An identifier stands at its place. -/
theorem identifier_leads (hc : StandsAt source c.position c.rest) (expected : Expectation) :
    Leads source c (identifier expected) (WordAt source c.rest) := by
  refine .bind (token_leads hc _) fun found d hd hfound => ?_
  obtain ⟨text, hskips, hstands, hlexeme⟩ := hfound
  split
  · rename_i name hname
    rw [hname] at hlexeme
    exact .pure hd ⟨text, hskips, hstands, spelledBy_of_lexeme hlexeme⟩
  · exact .fail hstands.isPlace rfl

/-- A new name stands at its place. -/
theorem newName_leads (hc : StandsAt source c.position c.rest) (expected : Expectation)
    (known : List String) :
    Leads source c (newName expected known) (WordAt source c.rest) := by
  refine .bind (identifier_leads hc _) fun word d hd hword => ?_
  dsimp only
  split
  · exact .fail hword.isPlace rfl
  · exact .pure hd hword

/-- What is wrong with the index of a slot is found where the index stands. -/
theorem slotIndex_leads (hc : StandsAt source c.position c.rest) (kind : SlotKind)
    (taken : List Nat) : Leads source c (slotIndex kind taken) fun _ _ => True := by
  refine .bind (token_leads hc _) fun found d hd hfound => ?_
  obtain ⟨text, -, hstands, -⟩ := hfound
  split
  · split
    · exact .fail hstands.isPlace rfl
    · split
      · exact .fail hstands.isPlace rfl
      · exact .pure hd trivial
  · exact .fail hstands.isPlace rfl

end Parser

end ShaderPipeline.Language
