import ShaderPipeline.Language.Body
import ShaderPipeline.Language.Declaration

/-!
# Drafts

A source is a sequence of items in any order: properties, uniforms, attributes, varyings, outputs
and blocks. A draft is what the items read so far have declared. Each item is checked against the
draft as it is read, so of two faults the one that comes first in the source is found; what needs
the whole source (blocks that must exist, properties that are used) is checked afterwards.
-/

namespace ShaderPipeline.Language

/-- What the items read so far have declared, each kind in source order. -/
structure Draft where
  properties : List PropertyDecl := []
  uniforms : List (Nat × Declaration) := []
  attributes : List SlotDecl := []
  varyings : List Declaration := []
  outputs : List SlotDecl := []
  shared : Option Body := none
  vertex : Option Body := none
  fragment : Option Body := none
deriving DecidableEq

namespace Draft

/-- All declared names; no name may be declared twice, whatever it stands for. -/
def names (draft : Draft) : List String :=
  draft.properties.map (·.name) ++ draft.uniforms.map (·.2.name) ++
    draft.attributes.map (·.declaration.name) ++ draft.varyings.map (·.name) ++
    draft.outputs.map (·.declaration.name)

/-- The body of a block that was read. -/
def block (draft : Draft) : BlockKind → Option Body
  | .shared => draft.shared
  | .stage .vertex => draft.vertex
  | .stage .fragment => draft.fragment

/-- The draft with the body of a block. -/
def withBlock (draft : Draft) (body : Body) : BlockKind → Draft
  | .shared => { draft with shared := some body }
  | .stage .vertex => { draft with vertex := some body }
  | .stage .fragment => { draft with fragment := some body }

end Draft

/-- What an item can be. -/
inductive Directive where
  | property
  | uniform
  | attribute
  | varying
  | output
  | block (kind : BlockKind)
deriving DecidableEq

/-- The directive that a word stands for. -/
def Directive.ofKeyword? : String → Option Directive
  | "property" => some .property
  | "uniform" => some .uniform
  | "attribute" => some .attribute
  | "varying" => some .varying
  | "output" => some .output
  | "shared" => some (.block .shared)
  | "vertex" => some (.block (.stage .vertex))
  | "fragment" => some (.block (.stage .fragment))
  | _ => none

namespace Parser

/-- A property declaration after its directive. -/
def property (draft : Draft) : Parser Draft := do
  let (word, typeLocation) ← identifier .propertyType
  match PropertyType.ofKeyword? word with
  | none => fail typeLocation (.unknownPropertyType word)
  | some type =>
    let (name, location) ← newName .propertyName draft.names
    let _ ← exactly .semicolon
    return { draft with properties := draft.properties ++ [⟨name, type, location⟩] }

/-- A uniform after its directive. -/
def uniformSlot (draft : Draft) : Parser Draft := do
  let slot ← slotIndex .uniform (draft.uniforms.map (·.1))
  let (declared, after) ← declaration draft.names
  endOfDeclaration after
  return { draft with uniforms := draft.uniforms ++ [(slot, declared)] }

/-- An attribute after its directive. -/
def attributeSlot (draft : Draft) : Parser Draft := do
  let slot ← slotIndex .attribute (draft.attributes.map (·.slot))
  let (declared, after) ← declaration draft.names
  let condition ← condition after
  return { draft with attributes := draft.attributes ++ [⟨slot, declared, condition⟩] }

/-- A varying after its directive. -/
def varying (draft : Draft) : Parser Draft := do
  let (declared, after) ← declaration draft.names
  endOfDeclaration after
  return { draft with varyings := draft.varyings ++ [declared] }

/-- An output after its directive. -/
def outputSlot (draft : Draft) : Parser Draft := do
  let slot ← slotIndex .output (draft.outputs.map (·.slot))
  let (declared, after) ← declaration draft.names
  let condition ← condition after
  return { draft with outputs := draft.outputs ++ [⟨slot, declared, condition⟩] }

/-- A block after its directive, which stands at `location`. That there was such a block before is
noticed after the body has been read. -/
def block (draft : Draft) (kind : BlockKind) (location : Position) : Parser Draft := do
  let opened ← exactly .leftBrace
  let body ← readBody opened.location
  if (draft.block kind).isSome then fail location (.duplicateBlock kind)
  else return draft.withBlock body kind

/-- The rest of an item after its directive, which stands at `location`. -/
def directive (draft : Draft) (location : Position) : Directive → Parser Draft
  | .property => property draft
  | .uniform => uniformSlot draft
  | .attribute => attributeSlot draft
  | .varying => varying draft
  | .output => outputSlot draft
  | .block kind => block draft kind location

theorem property_advances (draft : Draft) : Advances (property draft) :=
  (identifier_advances _).bind fun _ => by
    dsimp only
    split
    · exact .fail _ _
    · exact (newName_advances _ _).bind fun _ => (exactly_advances _).bind fun _ => .pure _

theorem block_advances (draft : Draft) (kind : BlockKind) (location : Position) :
    Advances (block draft kind location) :=
  (exactly_advances _).bind fun opened =>
    (Advances.of_read fun _ _ _ => @readBody_reaches opened.location _ _ _).bind fun _ => by
      split
      · exact .fail _ _
      · exact .pure _

theorem directive_advances (draft : Draft) (location : Position) :
    (kind : Directive) → Advances (directive draft location kind)
  | .property => property_advances draft
  | .uniform =>
    (slotIndex_advances _ _).bind fun _ => (declaration_advances _).bind fun _ =>
      (endOfDeclaration_advances _).bind fun _ => .pure _
  | .attribute =>
    (slotIndex_advances _ _).bind fun _ => (declaration_advances _).bind fun _ =>
      (condition_advances _).bind fun _ => .pure _
  | .varying =>
    (declaration_advances _).bind fun _ => (endOfDeclaration_advances _).bind fun _ => .pure _
  | .output =>
    (slotIndex_advances _ _).bind fun _ => (declaration_advances _).bind fun _ =>
      (condition_advances _).bind fun _ => .pure _
  | .block kind => block_advances draft kind location

end Parser

/-- The next item of a source added to the draft, or nothing at the end of the source. -/
def readItem (draft : Draft) (c : Cursor) : Except CompileError (Option Draft × Cursor) :=
  match nextToken c with
  | .error e => .error e
  | .ok (none, d) => .ok (none, d)
  | .ok (some found, d) =>
    match found.token with
    | .identifier word =>
      match Directive.ofKeyword? word with
      | none => .error (.located found.location (.unknownDirective word))
      | some kind =>
        match (Parser.directive draft found.location kind).run d with
        | .error e => .error e
        | .ok (more, e) => .ok (some more, e)
    | other => .error (.located found.location (.unexpected .item other))

/-- An item takes at least one character. -/
theorem readItem_shorter {draft more : Draft} {c d : Cursor}
    (h : readItem draft c = .ok (some more, d)) : d.rest.length < c.rest.length := by
  unfold readItem at h
  split at h
  · cases h
  · grind
  · rename_i found mid hnext
    have hshort := nextToken_shorter hnext
    split at h
    · split at h
      · cases h
      · split at h
        · cases h
        · rename_i hrun
          have := (Parser.directive_advances _ _ _ hrun).length_le
          grind
    · cases h

/-- The draft of all items from a place on. -/
def readItems (draft : Draft) (c : Cursor) : Except CompileError Draft :=
  match _hitem : readItem draft c with
  | .error e => .error e
  | .ok (none, _) => .ok draft
  | .ok (some more, d) => readItems more d
termination_by c.rest.length
decreasing_by exact readItem_shorter _hitem

end ShaderPipeline.Language
