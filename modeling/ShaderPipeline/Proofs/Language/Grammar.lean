import ShaderPipeline.Language.Draft

/-!
# The grammar of shader sources

Which texts are shader sources, said without reading them. A phrase of the grammar relates the text
that is left before it to the text that is left after it, so phrases follow one another by sharing
the text between them. What a phrase asks of the text after it makes the division into phrases
unique: a line comment runs up to a line feed or the end, and a word is as long as it can be.

`Source` is the form of a source as a sequence of items. `Consistent` and `WellFormed` are the
conditions on the items of a source that are no matter of form: slots, names, blocks and the
properties that are used. Places in the source have no part in any of this.
-/

namespace ShaderPipeline.Language.Grammar

open Text

/-! ## Blanks, comments and tokens -/

/-- A comment and the text after it. A line comment is followed by a line feed or by nothing; a
block comment has its only `*/` at its end, the two characters that open it aside. -/
inductive Comment : List Char → List Char → Prop
  | line {content rest : List Char} (hcontent : '\n' ∉ content)
      (hrest : ∀ c ∈ rest.head?, c = '\n') : Comment ('/' :: '/' :: content) rest
  | block {content rest : List Char} (hcontent : ¬ ['*', '/'] <:+: content ++ ['*']) :
      Comment ('/' :: '*' :: (content ++ ['*', '/'])) rest

/-- Blanks and comments in any number may stand between the two texts. -/
inductive Skips : List Char → List Char → Prop
  | none {rest : List Char} : Skips rest rest
  | blank {c : Char} {text rest : List Char} (hc : isBlank c = true) (htext : Skips text rest) :
      Skips (c :: text) rest
  | comment {comment text rest : List Char} (hcomment : Comment comment text)
      (htext : Skips text rest) : Skips (comment ++ text) rest

/-- An identifier: word characters, of which the first can start a word. -/
def IsIdentifier (word : List Char) : Prop :=
  (∃ first ∈ word.head?, isWordStart first = true) ∧ ∀ c ∈ word, isWordChar c = true

/-- A text in front of which a word ends. -/
def EndsWord (rest : List Char) : Prop := ∀ c ∈ rest.head?, isWordChar c = false

/-- One token without anything in front of it. Words and numbers are as long as they can be, and a
number has 32 bits. -/
inductive Lexeme : Token → List Char → List Char → Prop
  | mark {c : Char} {rest : List Char} {token : Token} (hmark : Token.mark? c = some token) :
      Lexeme token (c :: rest) rest
  | identifier {word rest : List Char} (hword : IsIdentifier word) (hrest : EndsWord rest) :
      Lexeme (.identifier (String.ofList word)) (word ++ rest) rest
  | integer {digits rest : List Char} (hne : digits ≠ []) (hdigits : ∀ c ∈ digits, c.isDigit = true)
      (hrest : EndsWord rest) (hsize : Decimal.digitsValue digits < UInt32.size) :
      Lexeme (.integer (Decimal.digitsValue digits)) (digits ++ rest) rest

/-- Tokens with blanks and comments in front of each. -/
inductive Spells : List Token → List Char → List Char → Prop
  | nil {rest : List Char} : Spells [] rest rest
  | cons {token : Token} {tokens : List Token} {text start after rest : List Char}
      (hskip : Skips text start) (htoken : Lexeme token start after)
      (htokens : Spells tokens after rest) : Spells (token :: tokens) text rest

/-! ## Bodies of blocks -/

/-- A piece of a body: a comment, a dollar sign with a name, or any other character. -/
inductive Part where
  | comment (text : List Char)
  | reference (name : List Char)
  | char (c : Char)
deriving DecidableEq

/-- Two characters that open a comment stand at the start of a text. -/
def OpensComment (text : List Char) : Prop := ['/', '/'] <+: text ∨ ['/', '*'] <+: text

/-- One piece of a body. A dollar sign is always followed by a name, and what opens a comment is
always a whole comment. -/
inductive Part.Stands : Part → List Char → List Char → Prop
  | comment {text rest : List Char} (hcomment : Comment text rest) :
      Stands (.comment text) (text ++ rest) rest
  | reference {name rest : List Char} (hname : IsIdentifier name) (hrest : EndsWord rest) :
      Stands (.reference name) ('$' :: (name ++ rest)) rest
  | char {c : Char} {rest : List Char} (hc : c ≠ '$') (hopens : ¬ OpensComment (c :: rest)) :
      Stands (.char c) (c :: rest) rest

/-- A text as pieces of a body. -/
inductive Parts : List Part → List Char → List Char → Prop
  | nil {rest : List Char} : Parts [] rest rest
  | cons {part : Part} {parts : List Part} {text after rest : List Char}
      (hpart : part.Stands text after) (hparts : Parts parts after rest) :
      Parts (part :: parts) text rest

/-- How many braces a piece opens. Braces in comments do not count. -/
def Part.opened : Part → Int
  | .char '{' => 1
  | .char '}' => -1
  | _ => 0

/-- How many more braces pieces open than they close. -/
def opened : List Part → Int
  | [] => 0
  | part :: parts => part.opened + opened parts

/-- The braces of a body balance, and nowhere before its end is more closed than was opened. -/
def Balanced (parts : List Part) : Prop :=
  opened parts = 0 ∧ ∀ front, front <+: parts → 0 ≤ opened front

/-- A body and the brace that closes its block. -/
def ClosedBody (parts : List Part) (text rest : List Char) : Prop :=
  Parts parts text ('}' :: rest) ∧ Balanced parts

/-- The property that a piece refers to. -/
def Part.reference? : Part → Option String
  | .reference name => some (String.ofList name)
  | _ => none

/-! ## Items -/

/-- The length of an array as it is written. -/
inductive Length where
  | literal (length : Nat)
  | property (name : String)
deriving DecidableEq

/-- The part of an item that gives a thing its type and name. -/
structure Declarator where
  precision : Option Precision
  type : GlslType
  name : String
  length : Option Length
deriving DecidableEq

/-- An item of a source. -/
inductive Item where
  | property (type : PropertyType) (name : String)
  | uniform (slot : Nat) (declarator : Declarator)
  | attribute (slot : Nat) (declarator : Declarator) (condition : Option String)
  | varying (declarator : Declarator)
  | output (slot : Nat) (declarator : Declarator) (condition : Option String)
  | block (kind : BlockKind) (parts : List Part)
deriving DecidableEq

/-- The tokens of an array length. -/
def Length.tokens : Length → List Token
  | .literal length => [.integer length]
  | .property name => [.dollar, .identifier name]

/-- The tokens of an optional array length with its brackets. -/
def lengthTokens : Option Length → List Token
  | none => []
  | some length => .leftBracket :: (length.tokens ++ [.rightBracket])

/-- The tokens of an optional precision. -/
def precisionTokens : Option Precision → List Token
  | none => []
  | some precision => [.identifier precision.keyword]

/-- The tokens of a declarator. -/
def Declarator.tokens (declarator : Declarator) : List Token :=
  precisionTokens declarator.precision ++
    .identifier declarator.type.keyword :: .identifier declarator.name ::
      lengthTokens declarator.length

/-- The tokens of an optional condition. -/
def conditionTokens : Option String → List Token
  | none => []
  | some name => [.identifier "if", .identifier name]

/-- The directive of an item. -/
def Item.directive : Item → Directive
  | .property _ _ => .property
  | .uniform _ _ => .uniform
  | .attribute _ _ _ => .attribute
  | .varying _ => .varying
  | .output _ _ _ => .output
  | .block kind _ => .block kind

/-- The word of a directive. -/
def keyword : Directive → String
  | .property => "property"
  | .uniform => "uniform"
  | .attribute => "attribute"
  | .varying => "varying"
  | .output => "output"
  | .block kind => kind.name

/-- The tokens of an item after its directive, up to the body if it has one. -/
def Item.tokens : Item → List Token
  | .property type name => [.identifier type.keyword, .identifier name, .semicolon]
  | .uniform slot declarator => .integer slot :: (declarator.tokens ++ [.semicolon])
  | .attribute slot declarator condition =>
    .integer slot :: (declarator.tokens ++ (conditionTokens condition ++ [.semicolon]))
  | .varying declarator => declarator.tokens ++ [.semicolon]
  | .output slot declarator condition =>
    .integer slot :: (declarator.tokens ++ (conditionTokens condition ++ [.semicolon]))
  | .block _ _ => [.leftBrace]

/-- What an item has after its tokens: the body of a block, and nothing for a declaration. -/
def Item.BodyStands : Item → List Char → List Char → Prop
  | .block _ parts => ClosedBody parts
  | _ => Eq

/-- An item after its directive. -/
def Item.Follows (item : Item) (text rest : List Char) : Prop :=
  ∃ body, Spells item.tokens text body ∧ item.BodyStands body rest

/-- A whole item. -/
def Item.Stands (item : Item) (text rest : List Char) : Prop :=
  ∃ after, Spells [.identifier (keyword item.directive)] text after ∧ item.Follows after rest

/-- A source as its items, with blanks and comments after the last. -/
inductive Source : List Item → List Char → Prop
  | nil {text : List Char} (htext : Skips text []) : Source [] text
  | cons {item : Item} {items : List Item} {text rest : List Char} (hitem : item.Stands text rest)
      (hitems : Source items rest) : Source (item :: items) text

/-! ## Conditions on the items -/

namespace Item

/-- The property that an item declares. -/
def property? : Item → Option (String × PropertyType)
  | .property type name => some (name, type)
  | _ => none

/-- The declarator of an item. -/
def declarator? : Item → Option Declarator
  | .uniform _ declarator | .attribute _ declarator _ | .varying declarator
  | .output _ declarator _ => some declarator
  | .property _ _ | .block _ _ => none

/-- The name that an item declares. -/
def name? (item : Item) : Option String :=
  (item.property?.map (·.1)).or (item.declarator?.map (·.name))

/-- The slot of a kind that an item takes. -/
def slot? (kind : SlotKind) (item : Item) : Option Nat :=
  match kind, item with
  | .uniform, .uniform slot _ | .attribute, .attribute slot _ _ | .output, .output slot _ _ =>
    some slot
  | _, _ => none

/-- The property that the existence of an item depends on. -/
def condition? : Item → Option String
  | .attribute _ _ condition | .output _ _ condition => condition
  | _ => none

/-- The property that an item takes its array length from. -/
def lengthProperty? (item : Item) : Option String :=
  item.declarator?.bind fun declarator =>
    match declarator.length with
    | some (.property name) => some name
    | _ => none

/-- The pieces of the body of an item that is a block of a kind. -/
def body? (kind : BlockKind) : Item → Option (List Part)
  | .block other parts => if other = kind then some parts else none
  | _ => none

/-- The properties that the body of an item refers to. -/
def references : Item → List String
  | .block _ parts => parts.filterMap Part.reference?
  | _ => []

end Item

/-- What the items so far must satisfy, whatever follows: slots are within the limits and taken
once, no array is empty, no name is declared twice and no block stands twice. -/
structure Consistent (items : List Item) : Prop where
  slot_lt : ∀ kind, ∀ slot ∈ items.filterMap (Item.slot? kind), slot < kind.capacity
  slots_nodup : ∀ kind, (items.filterMap (Item.slot? kind)).Nodup
  length_ne : ∀ declarator ∈ items.filterMap Item.declarator?,
    declarator.length ≠ some (.literal 0)
  names_nodup : (items.filterMap Item.name?).Nodup
  blocks_le : ∀ kind, (items.filterMap (Item.body? kind)).length ≤ 1

/-- What all items of a source together must satisfy: besides, both stages have a block, and every
property that is used is declared, with the type that its use asks for. -/
structure WellFormed (items : List Item) : Prop extends Consistent items where
  stage_eq : ∀ stage, (items.filterMap (Item.body? (.stage stage))).length = 1
  length_int : ∀ name ∈ items.filterMap Item.lengthProperty?,
    (name, PropertyType.int) ∈ items.filterMap Item.property?
  condition_bool : ∀ name ∈ items.filterMap Item.condition?,
    (name, PropertyType.bool) ∈ items.filterMap Item.property?
  reference_declared : ∀ name ∈ items.flatMap Item.references,
    ∃ type, (name, type) ∈ items.filterMap Item.property?

end ShaderPipeline.Language.Grammar
