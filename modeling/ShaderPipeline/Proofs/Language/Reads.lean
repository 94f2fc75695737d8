import ShaderPipeline.Proofs.Language.Lexing

/-!
# Parsers that read a phrase

A parser reads a phrase of the grammar if it succeeds exactly on the texts that start with the
phrase, and gives back what the phrase says; `view` is what is left of a result without its places
in the source. `Reads` is two-sided, so it says of a parser both that nothing else is accepted and
that everything is. It is kept by sequencing, and each parser of declarations is described by one
lemma that is put together from those of its steps.
-/

namespace ShaderPipeline.Language

open Grammar

/-! ## Sequences of tokens -/

/-- No tokens leave the text as it is. -/
theorem spells_nil_iff {text rest : List Char} : Spells [] text rest ↔ text = rest := by
  constructor
  · intro h
    obtain ⟨⟩ := h
    rfl
  · intro heq
    subst heq
    exact .nil

/-- Tokens in sequence share the text between them. -/
theorem spells_append_iff {front back : List Token} {text rest : List Char} :
    Spells (front ++ back) text rest ↔ ∃ mid, Spells front text mid ∧ Spells back mid rest := by
  induction front generalizing text with
  | nil => simp [spells_nil_iff]
  | cons token front ih =>
    constructor
    · intro h
      rcases h with _ | ⟨hskips, hlexeme, htokens⟩
      obtain ⟨mid, hfront, hback⟩ := ih.1 htokens
      exact ⟨mid, .cons hskips hlexeme hfront, hback⟩
    · intro h
      obtain ⟨mid, _ | ⟨hskips, hlexeme, hfront⟩, hback⟩ := h
      exact .cons hskips hlexeme (ih.2 ⟨mid, hfront, hback⟩)

/-- The first token and the others share the text between them. -/
theorem spells_cons_iff {token : Token} {tokens : List Token} {text rest : List Char} :
    Spells (token :: tokens) text rest ↔
      ∃ mid, Spells [token] text mid ∧ Spells tokens mid rest :=
  @spells_append_iff [token] tokens text rest

/-- The first of some tokens can be read on its own. -/
theorem spells_iff_exists_first {tokens : List Token} (hne : tokens ≠ []) {text rest : List Char} :
    Spells tokens text rest ↔
      ∃ first mid, Spells [first] text mid ∧
        ∃ more, tokens = first :: more ∧ Spells more mid rest := by
  constructor
  · intro h
    obtain ⟨first, more, rfl⟩ := List.exists_cons_of_ne_nil hne
    obtain ⟨mid, hfirst, hmore⟩ := spells_cons_iff.1 h
    exact ⟨first, mid, hfirst, more, rfl, hmore⟩
  · intro h
    obtain ⟨first, mid, hfirst, more, rfl, hmore⟩ := h
    exact spells_cons_iff.2 ⟨mid, hfirst, hmore⟩

namespace Parser

variable {α β γ δ : Type}

/-- A parser accepts exactly the texts that start with a phrase, and its results, seen without
their places, are what the phrase says. -/
structure Reads (p : Parser α) (view : α → β) (phrase : β → List Char → List Char → Prop) :
    Prop where
  sound : ∀ {c d : Cursor} {a : α}, p.run c = .ok (a, d) → phrase (view a) c.rest d.rest
  complete : ∀ {c : Cursor} {b : β} {rest : List Char}, phrase b c.rest rest →
    ∃ a d, p.run c = .ok (a, d) ∧ view a = b ∧ d.rest = rest

namespace Reads

variable {p : Parser α} {q : α → Parser γ} {view : α → β} {view' : γ → δ}
  {phrase phrase' : β → List Char → List Char → Prop}

/-- A phrase may be described in another way. -/
theorem congr (hp : Reads p view phrase)
    (h : ∀ b text rest, phrase b text rest ↔ phrase' b text rest) : Reads p view phrase' where
  sound hrun := (h _ _ _).1 (hp.sound hrun)
  complete hphrase := hp.complete ((h _ _ _).2 hphrase)

/-- A parser that reads nothing reads the empty phrase. -/
theorem pure {a : α} (h : ∀ b text rest, phrase b text rest ↔ view a = b ∧ text = rest) :
    Reads (Pure.pure a) view phrase where
  sound hrun := by
    obtain ⟨rfl, rfl⟩ := Prod.mk.inj (Except.ok.inj hrun)
    exact (h _ _ _).2 ⟨rfl, rfl⟩
  complete hphrase := by
    obtain ⟨hview, hrest⟩ := (h _ _ _).1 hphrase
    exact ⟨a, _, rfl, hview, hrest⟩

/-- A parser that gives up reads a phrase that no text starts with. -/
theorem fail {location : Position} {fault : Fault} (h : ∀ b text rest, ¬ phrase b text rest) :
    Reads (Parser.fail location fault : Parser α) view phrase where
  sound hrun := by cases hrun
  complete hphrase := absurd hphrase (h _ _ _)

/-- Parsers in sequence read phrases in sequence. What the second reads may depend on what the
first has read, but not on where. -/
theorem bind (hp : Reads p view phrase) (next : β → δ → List Char → List Char → Prop)
    (hq : ∀ a, Reads (q a) view' (next (view a))) :
    Reads (p >>= q) view' fun b text rest =>
      ∃ x mid, phrase x text mid ∧ next x b mid rest where
  sound {c d b} hrun := by
    rw [StateT.run_bind] at hrun
    cases hmid : p.run c with
    | error e =>
      rw [hmid] at hrun
      cases hrun
    | ok step =>
      rw [hmid] at hrun
      exact ⟨_, _, hp.sound hmid, (hq step.1).sound hrun⟩
  complete {c b rest} := by
    intro h
    obtain ⟨x, mid, hfirst, hsecond⟩ := h
    obtain ⟨a, d, hrun, rfl, rfl⟩ := hp.complete hfirst
    obtain ⟨a', d', hrun', hview, hrest⟩ := (hq a).complete hsecond
    refine ⟨a', d', ?_, hview, hrest⟩
    rw [StateT.run_bind, hrun]
    exact hrun'

/-- A parser whose result is put into another form reads the same texts. -/
theorem map (hp : Reads p view phrase) {f : α → γ} {g : β → δ}
    (hview : ∀ a, view' (f a) = g (view a)) :
    Reads (p >>= fun a => Pure.pure (f a)) view' fun b text rest =>
      ∃ x, g x = b ∧ phrase x text rest := by
  refine .congr (.bind hp (fun x b text rest => g x = b ∧ text = rest) fun a => ?_) ?_
  · exact .pure fun _ _ _ => by rw [hview]
  · intro b text rest
    constructor
    · intro h
      obtain ⟨x, _, hphrase, hx, rfl⟩ := h
      exact ⟨x, hx, hphrase⟩
    · intro h
      obtain ⟨x, hx, hphrase⟩ := h
      exact ⟨x, rest, hphrase, hx, rfl⟩

end Reads

/-! ## Single words -/

/-- The next token is read, whichever it is. -/
theorem token_reads (expected : Expectation) :
    Reads (token expected) PlacedToken.token fun found => Spells [found] where
  sound {c d found} hrun := by
    change token expected c = _ at hrun
    unfold token at hrun
    split at hrun
    · cases hrun
    · cases hrun
    · rename_i hnext
      obtain ⟨rfl, rfl⟩ := by simpa using hrun
      exact spells_of_nextToken hnext
  complete {c found rest} hspells := by
    obtain ⟨location, d, hnext, hrest⟩ := nextToken_of_spells hspells
    refine ⟨⟨found, location⟩, d, ?_, rfl, hrest⟩
    change token expected c = _
    simp only [token, hnext]

/-- One particular token is read. -/
theorem exactly_reads (wanted : Token) :
    Reads (exactly wanted) (fun _ => ()) fun _ => Spells [wanted] := by
  refine .congr (.bind (token_reads _)
    (fun found _ text rest => found = wanted ∧ text = rest) fun found => ?_) ?_
  · split
    · rename_i hfound
      exact .pure fun _ _ _ => by simp [hfound]
    · rename_i hfound
      exact .fail fun _ _ _ => by simp [hfound]
  · simp

/-- An identifier is read. -/
theorem identifier_reads (expected : Expectation) :
    Reads (identifier expected) Prod.fst fun name => Spells [.identifier name] := by
  refine .congr (.bind (token_reads _)
    (fun found name text rest => found = .identifier name ∧ text = rest) fun found => ?_) ?_
  · split
    · rename_i hfound
      exact .pure fun _ _ _ => by simp [hfound]
    · rename_i hfound
      exact .fail fun name _ _ hphrase => hfound name hphrase.1
  · simp

/-- A name is read that is not known yet. -/
theorem newName_reads (expected : Expectation) (known : List String) :
    Reads (newName expected known) Prod.fst fun name text rest =>
      name ∉ known ∧ Spells [.identifier name] text rest := by
  refine .congr (.bind (identifier_reads _)
    (fun found name text rest => name ∉ known ∧ found = name ∧ text = rest)
    fun found => ?_) ?_
  · dsimp only
    split
    · rename_i hknown
      exact .fail fun _ _ _ hphrase => hphrase.1 (hphrase.2.1 ▸ hknown)
    · rename_i hknown
      refine .pure fun name _ _ => and_iff_right_of_imp ?_
      intro h
      obtain ⟨rfl, -⟩ := h
      exact hknown
  · intro name text rest
    constructor
    · intro h
      obtain ⟨_, _, hspells, hknown, rfl, rfl⟩ := h
      exact ⟨hknown, hspells⟩
    · intro h
      obtain ⟨hknown, hspells⟩ := h
      exact ⟨name, rest, hspells, hknown, rfl, rfl⟩

/-- A slot is read that is within the limit of its kind and free. -/
theorem slotIndex_reads (kind : SlotKind) (taken : List Nat) :
    Reads (slotIndex kind taken) id fun slot text rest =>
      (slot < kind.capacity ∧ slot ∉ taken) ∧ Spells [.integer slot] text rest := by
  refine .congr (.bind (token_reads _)
    (fun found slot text rest =>
      (slot < kind.capacity ∧ slot ∉ taken) ∧ found = .integer slot ∧ text = rest)
    fun found => ?_) ?_
  · split
    · rename_i value hfound
      split
      · exact .fail fun _ _ _ _ => by grind
      · split
        · exact .fail fun _ _ _ _ => by grind
        · exact .pure fun _ _ _ => by grind
    · rename_i hfound
      exact .fail fun slot _ _ hphrase => hfound slot hphrase.2.1
  · intro slot text rest
    constructor
    · intro h
      obtain ⟨_, _, hspells, hfree, rfl, rfl⟩ := h
      exact ⟨hfree, hspells⟩
    · intro h
      obtain ⟨hfree, hspells⟩ := h
      exact ⟨_, rest, hspells, hfree, rfl, rfl⟩

end Parser

end ShaderPipeline.Language
