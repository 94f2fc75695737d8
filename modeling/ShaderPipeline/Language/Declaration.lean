import ShaderPipeline.Language.Parser

/-!
# Declarations

The common part of uniforms, attributes, varyings and outputs: an optional precision, a type, a
name and an optional array length. What may follow, a semicolon or a condition, is read by the
caller from the token that `declaration` gives back with its result.
-/

namespace ShaderPipeline.Language

namespace Parser

/-- The type that an identifier stands for. -/
def typeNamed (word : String × Position) : Parser GlslType :=
  match GlslType.ofKeyword? word.1 with
  | some type => return type
  | none => fail word.2 (.unknownType word.1)

theorem typeNamed_advances (word : String × Position) : Advances (typeNamed word) := by
  unfold typeNamed
  split
  · exact .pure _
  · exact .fail _ _

/-- The type of a declaration after its optional precision. -/
def precisionAndType : Parser (Option Precision × GlslType) := do
  let first ← identifier .type
  match Precision.ofKeyword? first.1 with
  | none => return (none, ← typeNamed first)
  | some precision => return (some precision, ← typeNamed (← identifier .type))

theorem precisionAndType_advances : Advances precisionAndType :=
  (identifier_advances _).bind fun first => by
    split
    · exact (typeNamed_advances _).bind fun _ => .pure _
    · exact (identifier_advances _).bind fun _ => (typeNamed_advances _).bind fun _ => .pure _

/-- The length of an array that starts with a given token. -/
def lengthFrom (found : PlacedToken) : Parser ArrayLength :=
  match found.token with
  | .integer length =>
    if length = 0 then fail found.location .emptyArray else return .fixed length
  | .dollar => do
    let (name, _) ← identifier .propertyName
    return .property ⟨name, found.location⟩
  | other => fail found.location (.unexpected .arrayLength other)

theorem lengthFrom_advances (found : PlacedToken) : Advances (lengthFrom found) := by
  unfold lengthFrom
  split
  · split
    · exact .fail _ _
    · exact .pure _
  · exact (identifier_advances _).bind fun _ => .pure _
  · exact .fail _ _

/-- The length of an array after the opening bracket, and the closing bracket. -/
def arrayLength : Parser ArrayLength := do
  let length ← lengthFrom (← token .arrayLength)
  let _ ← exactly .rightBracket
  return length

theorem arrayLength_advances : Advances arrayLength :=
  (token_advances _).bind fun _ => (lengthFrom_advances _).bind fun _ =>
    (exactly_advances _).bind fun _ => .pure _

/-- A declaration with the array length that starts with a given token, if it starts one, and the
token after it. -/
def withLength (declared : Declaration) (found : PlacedToken) :
    Parser (Declaration × PlacedToken) :=
  if found.token = .leftBracket then do
    let length ← arrayLength
    let after ← token (.token .semicolon)
    return ({ declared with array := some length }, after)
  else return (declared, found)

theorem withLength_advances (declared : Declaration) (found : PlacedToken) :
    Advances (withLength declared found) := by
  unfold withLength
  split
  · exact arrayLength_advances.bind fun _ => (token_advances _).bind fun _ => .pure _
  · exact .pure _

/-- A declaration of a name that is not known yet, with the token after it. -/
def declaration (known : List String) : Parser (Declaration × PlacedToken) := do
  let (precision, type) ← precisionAndType
  let (name, location) ← newName .name known
  let found ← token (.token .semicolon)
  withLength ⟨name, type, precision, none, location⟩ found

theorem declaration_advances (known : List String) : Advances (declaration known) :=
  precisionAndType_advances.bind fun _ => (newName_advances _ _).bind fun _ =>
    (token_advances _).bind fun _ => withLength_advances _ _

/-- Checks that a token ends a declaration. -/
def endOfDeclaration (found : PlacedToken) : Parser Unit :=
  if found.token = .semicolon then pure ()
  else fail found.location (.unexpected (.token .semicolon) found.token)

theorem endOfDeclaration_advances (found : PlacedToken) : Advances (endOfDeclaration found) := by
  unfold endOfDeclaration
  split
  · exact .pure _
  · exact .fail _ _

/-- The optional condition that starts with a given token, and the end of the declaration. -/
def condition (found : PlacedToken) : Parser (Option PropertyRef) :=
  if found.token = .identifier "if" then do
    let (name, location) ← identifier .propertyName
    let _ ← exactly .semicolon
    return some ⟨name, location⟩
  else do
    endOfDeclaration found
    return none

theorem condition_advances (found : PlacedToken) : Advances (condition found) := by
  unfold condition
  split
  · exact (identifier_advances _).bind fun _ => (exactly_advances _).bind fun _ => .pure _
  · exact (endOfDeclaration_advances _).bind fun _ => .pure _

end Parser

end ShaderPipeline.Language
