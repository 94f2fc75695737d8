import ShaderPipeline.Language.Word

/-!
# Parsers

A parser reads from a cursor and moves it on, or finds a fault. Every parser of this library only
moves forward: `Parser.Advances` says so, and is kept by sequencing. The words here are the steps
that declarations are made of. A source that ends in the middle of a declaration is a fault at the
end of its last token, not behind the blanks that follow.
-/

namespace ShaderPipeline.Language

/-- A reader of a source text from a place on. -/
abbrev Parser (α : Type) := StateT Cursor (Except CompileError) α

namespace Parser

variable {α β : Type}

/-- A parser that never goes back. -/
def Advances (p : Parser α) : Prop :=
  ∀ ⦃c d : Cursor⦄ ⦃a : α⦄, p.run c = .ok (a, d) → c.Reaches d

/-- Gives up with a fault at a place. -/
def fail (location : Position) (fault : Fault) : Parser α :=
  throw (.located location fault)

theorem Advances.pure (a : α) : Advances (Pure.pure a : Parser α) := by
  intro c d b h
  obtain ⟨-, rfl⟩ := Prod.mk.inj (Except.ok.inj h)
  exact .refl _

theorem Advances.fail (location : Position) (fault : Fault) :
    Advances (Parser.fail location fault : Parser α) := by
  intro c d b h
  cases h

theorem Advances.bind {p : Parser α} {q : α → Parser β} (hp : Advances p)
    (hq : ∀ a, Advances (q a)) : Advances (p >>= q) := by
  intro c d b h
  rw [StateT.run_bind] at h
  cases hmid : p.run c with
  | error e => rw [hmid] at h; cases h
  | ok step =>
    rw [hmid] at h
    exact .trans (hp hmid) (hq step.1 h)

/-- A parser that is the reading of a part of the text. -/
theorem Advances.of_read {f : Cursor → Except CompileError (α × Cursor)}
    (h : ∀ ⦃c d a⦄, f c = .ok (a, d) → c.Reaches d) : Advances (f : Parser α) :=
  h

/-- The next token; the end of the source is a fault. -/
def token (expected : Expectation) : Parser PlacedToken := fun c =>
  match nextToken c with
  | .error e => .error e
  | .ok (none, _) => .error (.located c.position (.unexpectedEnd expected))
  | .ok (some found, d) => .ok (found, d)

theorem token_advances (expected : Expectation) : Advances (token expected) := by
  intro c d found h
  change token expected c = _ at h
  unfold token at h
  split at h
  · cases h
  · cases h
  · rename_i hnext
    have := nextToken_reaches hnext
    grind

/-- One particular token. -/
def exactly (wanted : Token) : Parser PlacedToken := do
  let found ← token (.token wanted)
  if found.token = wanted then return found
  else fail found.location (.unexpected (.token wanted) found.token)

theorem exactly_advances (wanted : Token) : Advances (exactly wanted) :=
  (token_advances _).bind fun found => by
    split
    · exact .pure _
    · exact .fail _ _

/-- An identifier and its place. -/
def identifier (expected : Expectation) : Parser (String × Position) := do
  let found ← token expected
  match found.token with
  | .identifier name => return (name, found.location)
  | other => fail found.location (.unexpected expected other)

theorem identifier_advances (expected : Expectation) : Advances (identifier expected) :=
  (token_advances _).bind fun found => by
    split
    · exact .pure _
    · exact .fail _ _

/-- An identifier that is not among the known names. -/
def newName (expected : Expectation) (known : List String) : Parser (String × Position) := do
  let (name, location) ← identifier expected
  if name ∈ known then fail location (.redeclared name)
  else return (name, location)

theorem newName_advances (expected : Expectation) (known : List String) :
    Advances (newName expected known) :=
  (identifier_advances _).bind fun _ => by
    dsimp only
    split
    · exact .fail _ _
    · exact .pure _

/-- The index of a slot that is within the capacity of its kind and not taken yet. -/
def slotIndex (kind : SlotKind) (taken : List Nat) : Parser Nat := do
  let found ← token (.slotIndex kind)
  match found.token with
  | .integer slot =>
    if kind.capacity ≤ slot then fail found.location (.slotOutOfRange kind slot)
    else if slot ∈ taken then fail found.location (.duplicateSlot kind slot)
    else return slot
  | other => fail found.location (.unexpected (.slotIndex kind) other)

theorem slotIndex_advances (kind : SlotKind) (taken : List Nat) :
    Advances (slotIndex kind taken) :=
  (token_advances _).bind fun found => by
    split
    · split
      · exact .fail _ _
      · split
        · exact .fail _ _
        · exact .pure _
    · exact .fail _ _

end Parser

end ShaderPipeline.Language
