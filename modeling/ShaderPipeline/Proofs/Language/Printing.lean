import ShaderPipeline.Proofs.Decimal.Digits
import ShaderPipeline.Proofs.Language.BodyPrint

/-!
# Writing shaders

A compiled shader as a source text: its properties, uniforms by slot, attributes, varyings and
outputs, one declaration a line, and then its blocks. Declarations are written from their tokens,
with a blank where the next token is not a mark that belongs to the one before; blocks are written
from their segments.

`source_print` says that the text is a source whose items are those of the shader, if the tokens
are such that they can be written (`Writable`) and the bodies are such as can be read. Every
shader that was compiled has only such tokens and bodies, which is a matter of the next module.
-/

namespace ShaderPipeline.Language

open Grammar

/-! ## Tokens -/

namespace Token

/-- Whether a token is an identifier or an integer, and not a mark. -/
def isWord : Token → Bool
  | .identifier _ | .integer _ => true
  | _ => false

/-- Whether a blank is written between two tokens. -/
def apart (first second : Token) : Bool :=
  first != .leftBracket && first != .dollar && second != .leftBracket &&
    second != .rightBracket && second != .semicolon

/-- A token that has a spelling in sources: identifiers are words, integers have 32 bits. -/
def Writable : Token → Prop
  | .identifier name => IsIdentifier name.toList
  | .integer value => value < UInt32.size
  | _ => True

end Token

/-- Tokens as a text. -/
def spaced : List Token → List Char
  | [] => []
  | [token] => token.spelling.toList
  | first :: second :: more =>
    first.spelling.toList ++ ((if first.apart second then [' '] else []) ++ spaced (second :: more))

/-- Tokens that stand in a text have a spelling. -/
theorem writable_of_spells {tokens : List Token} {text rest : List Char}
    (h : Spells tokens text rest) : ∀ token ∈ tokens, token.Writable := by
  induction h with
  | nil => simp
  | cons hskip htoken htokens ih =>
    rw [List.forall_mem_cons]
    refine ⟨?_, ih⟩
    cases htoken with
    | @mark c _ token hmark =>
      unfold Token.mark? at hmark
      split at hmark <;> cases hmark <;> trivial
    | @identifier word _ hword hrest =>
      rw [Token.Writable, String.toList_ofList]
      exact hword
    | integer hne hdigits hrest hsize => exact hsize

/-- A token stands where its spelling is, if nothing continues it. -/
theorem lexeme_spelling {token : Token} (h : token.Writable) {rest : List Char}
    (hrest : token.isWord → EndsWord rest) : Lexeme token (token.spelling.toList ++ rest) rest := by
  cases token with
  | identifier name =>
    have hlexeme := Lexeme.identifier h (hrest rfl)
    rwa [String.ofList_toList] at hlexeme
  | integer value =>
    have hdigits : (Token.integer value).spelling.toList = Nat.toDigits 10 value := Nat.toList_repr
    have hne : Nat.toDigits 10 value ≠ [] := Nat.toDigits_ne_nil
    have hall : ∀ c ∈ Nat.toDigits 10 value, c.isDigit = true := by
      intro c hc
      exact Nat.isDigit_of_mem_toDigits (by decide) (by decide) hc
    have hsize : Decimal.digitsValue (Nat.toDigits 10 value) < UInt32.size := by
      rw [Decimal.digitsValue_toDigits]
      exact h
    have hlexeme := Lexeme.integer hne hall (hrest rfl) hsize
    rwa [Decimal.digitsValue_toDigits, ← hdigits] at hlexeme
  | _ => exact .mark rfl

/-- A mark ends a word. -/
theorem endsWord_spelling {token : Token} (h : token.isWord = false) (rest : List Char) :
    EndsWord (token.spelling.toList ++ rest) := by
  intro c hc
  cases token with
  | identifier name => cases h
  | integer value => cases h
  | _ =>
    obtain rfl := Option.some.inj hc
    decide

/-- Between two tokens nothing runs together. -/
theorem endsWord_spaced {first second : Token} (h : first.isWord) (more : List Token)
    (rest : List Char) :
    EndsWord ((if first.apart second then [' '] else []) ++ spaced (second :: more) ++ rest) := by
  by_cases hapart : first.apart second
  · rw [if_pos hapart]
    intro c hc
    obtain rfl := Option.some.inj hc
    decide
  · have hmark : second.isWord = false := by
      cases first <;> cases second <;> simp_all [Token.apart, Token.isWord]
    rw [if_neg hapart, List.nil_append]
    cases more with
    | nil => exact endsWord_spelling hmark rest
    | cons third more =>
      rw [spaced, List.append_assoc]
      exact endsWord_spelling hmark _

/-- A blank may stand in front of tokens. -/
theorem spells_blank {tokens : List Token} {text rest : List Char} (hne : tokens ≠ [])
    (h : Spells tokens text rest) {c : Char} (hc : Text.isBlank c = true) :
    Spells tokens (c :: text) rest := by
  cases h with
  | nil => exact absurd rfl hne
  | cons hskip htoken htokens => exact .cons (.blank hc hskip) htoken htokens

/-- The text of tokens that have a spelling is read as these tokens. -/
theorem spells_spaced {tokens : List Token} (h : ∀ token ∈ tokens, token.Writable)
    {rest : List Char} (hlast : ∀ last ∈ tokens.getLast?, last.isWord → EndsWord rest) :
    Spells tokens (spaced tokens ++ rest) rest := by
  induction tokens with
  | nil => exact .nil
  | cons first tokens ih =>
    obtain ⟨hfirst, hmore⟩ := List.forall_mem_cons.1 h
    cases tokens with
    | nil => exact .cons .none (lexeme_spelling hfirst (hlast first rfl)) .nil
    | cons second more =>
      have htokens : Spells (second :: more) (spaced (second :: more) ++ rest) rest :=
        ih hmore hlast
      rw [spaced, List.append_assoc]
      refine .cons .none
        (lexeme_spelling hfirst fun hword => endsWord_spaced hword more rest) ?_
      by_cases hapart : first.apart second
      · rw [if_pos hapart]
        exact spells_blank (List.cons_ne_nil _ _) htokens (by decide)
      · rw [if_neg hapart]
        exact htokens

/-! ## Declarations and blocks -/

/-- All tokens of an item, up to its body if it has one. -/
def Grammar.Item.allTokens (item : Item) : List Token :=
  .identifier (keyword item.directive) :: item.tokens

/-- A declaration as a line. -/
def line (item : Item) : List Char := spaced item.allTokens ++ ['\n']

/-- A block with its body. -/
def blockText (kind : BlockKind) (segments : Body) : List Char :=
  spaced [.identifier kind.name, .leftBrace] ++ (bodyText segments ++ ['\n', '\x7d', '\n'])

/-- The item that declares a property. -/
def PropertyDecl.item (declared : PropertyDecl) : Item := .property declared.type declared.name

/-- The item that declares an attribute. -/
def SlotDecl.attributeItem (declared : SlotDecl) : Item :=
  .attribute declared.slot declared.declaration.written (declared.condition.map (·.name))

/-- The item that declares an output. -/
def SlotDecl.outputItem (declared : SlotDecl) : Item :=
  .output declared.slot declared.declaration.written (declared.condition.map (·.name))

/-- The uniforms of a list by slot with their slots. -/
def slotted (table : List (Option Declaration)) : List (Nat × Declaration) :=
  table.zipIdx.filterMap fun entry => entry.1.map fun declared => (entry.2, declared)

namespace Shader

/-- The items that declare what a shader declares. -/
def items (shader : Shader) : List Item :=
  shader.properties.map (·.item) ++
    ((slotted shader.uniforms).map fun entry => .uniform entry.1 entry.2.written) ++
    shader.attributes.map (·.attributeItem) ++ shader.varyings.map (fun declared =>
      .varying declared.written) ++ shader.outputs.map (·.outputItem)

/-- A shader as a source text. -/
def print (shader : Shader) : String :=
  String.ofList (shader.items.flatMap line ++ ((shader.shared.map (blockText .shared)).getD [] ++
    (blockText (.stage .vertex) shader.vertex ++ blockText (.stage .fragment) shader.fragment)))

end Shader

/-- A blank may stand in front of a source. -/
theorem source_blank {items : List Item} {text : List Char} (h : Source items text) {c : Char}
    (hc : Text.isBlank c = true) : Source items (c :: text) := by
  cases h with
  | nil htext => exact .nil (.blank hc htext)
  | cons hitem hitems =>
    obtain ⟨after, hspells, hfollows⟩ := hitem
    exact .cons ⟨after, spells_blank (List.cons_ne_nil _ _) hspells hc, hfollows⟩ hitems

/-- Whether an item is a declaration, and not a block. -/
def Grammar.Item.IsDeclaration : Item → Prop
  | .block _ _ => False
  | _ => True

/-- The tokens of a declaration end with a semicolon. -/
theorem getLast?_allTokens {item : Item} (h : item.IsDeclaration) :
    item.allTokens.getLast? = some .semicolon := by
  cases item with
  | block kind parts => cases h
  | _ => simp [Item.allTokens, Item.tokens, List.getLast?_cons]

/-- A declaration and the items after it are a source. -/
theorem source_line {item : Item} (hitem : item.IsDeclaration)
    (hwritable : ∀ token ∈ item.allTokens, token.Writable) {items : List Item} {text : List Char}
    (h : Source items text) : Source (item :: items) (line item ++ text) := by
  rw [line, List.append_assoc]
  have hspells : Spells item.allTokens (spaced item.allTokens ++ '\n' :: text) ('\n' :: text) := by
    refine spells_spaced hwritable fun last hmem hword => ?_
    rw [getLast?_allTokens hitem] at hmem
    obtain rfl := Option.some.inj hmem
    cases hword
  obtain ⟨mid, hdirective, htokens⟩ := spells_cons_iff.1 hspells
  have hrest : Source items ('\n' :: text) := source_blank h (by decide)
  refine .cons ⟨mid, hdirective, '\n' :: text, htokens, ?_⟩ hrest
  cases item with
  | block kind parts => cases hitem
  | _ => rfl

/-- Declarations and the items after them are a source. -/
theorem source_lines {declarations : List Item} (hitems : ∀ item ∈ declarations, item.IsDeclaration)
    (hwritable : ∀ item ∈ declarations, ∀ token ∈ item.allTokens, token.Writable)
    {items : List Item} {text : List Char} (h : Source items text) :
    Source (declarations ++ items) (declarations.flatMap line ++ text) := by
  induction declarations with
  | nil => exact h
  | cons item declarations ih =>
    obtain ⟨hitem, hitems⟩ := List.forall_mem_cons.1 hitems
    obtain ⟨hfirst, hwritable⟩ := List.forall_mem_cons.1 hwritable
    rw [List.flatMap_cons, List.append_assoc]
    exact source_line hitem hfirst (ih hitems hwritable)

/-- The name of a block is a word. -/
theorem isIdentifier_blockName (kind : BlockKind) : IsIdentifier kind.name.toList := by
  match kind with
  | .shared => exact ⟨⟨'s', rfl, by decide⟩, List.all_eq_true.1 (by decide)⟩
  | .stage .vertex => exact ⟨⟨'v', rfl, by decide⟩, List.all_eq_true.1 (by decide)⟩
  | .stage .fragment => exact ⟨⟨'f', rfl, by decide⟩, List.all_eq_true.1 (by decide)⟩

/-- A block and the items after it are a source, if the body can be read. -/
theorem source_block (kind : BlockKind) {parts : List Part} {segments : Body}
    (hbody : ∀ tail, ClosedBody parts (bodyText segments ++ '\n' :: '\x7d' :: tail) tail)
    {items : List Item} {text : List Char} (h : Source items text) :
    Source (.block kind parts :: items) (blockText kind segments ++ text) := by
  have hwritable : ∀ token ∈ [Token.identifier kind.name, .leftBrace], token.Writable := by
    rw [List.forall_mem_cons, List.forall_mem_singleton]
    exact ⟨isIdentifier_blockName kind, trivial⟩
  have hspells (rest : List Char) := @spells_spaced _ hwritable rest (by simp [Token.isWord])
  obtain ⟨mid, hname, hbrace⟩ := spells_cons_iff.1 (hspells (bodyText segments ++
    '\n' :: '\x7d' :: '\n' :: text))
  have hrest : Source items ('\n' :: text) := source_blank h (by decide)
  have htext : blockText kind segments ++ text = spaced [.identifier kind.name, .leftBrace] ++
      (bodyText segments ++ '\n' :: '\x7d' :: '\n' :: text) := by
    simp [blockText]
  rw [htext]
  exact .cons ⟨mid, hname, _, hbrace, hbody ('\n' :: text)⟩ hrest

/-- The items of a shader are declarations. -/
theorem isDeclaration_of_mem_items {shader : Shader} {item : Item} (h : item ∈ shader.items) :
    item.IsDeclaration := by
  simp only [Shader.items, List.mem_append, List.mem_map] at h
  rcases h with (((⟨_, _, rfl⟩ | ⟨_, _, rfl⟩) | ⟨_, _, rfl⟩) | ⟨_, _, rfl⟩) | ⟨_, _, rfl⟩ <;>
    exact trivial

/-- The items of a shader with bodies for its blocks. -/
def Shader.itemsWith (shader : Shader) (shared : Option (List Part)) (vertex fragment : List Part) :
    List Item :=
  shader.items ++ ((shared.map (Item.block .shared)).toList ++
    [.block (.stage .vertex) vertex, .block (.stage .fragment) fragment])

/-- Bodies that can be read from how the blocks of a shader are written. -/
structure Printed (segments : Body) (parts : List Part) : Prop where
  body_eq : body parts = segments
  closed : ∀ tail, ClosedBody parts (bodyText segments ++ '\n' :: '\x7d' :: tail) tail

/-- The text of a shader is a source with the items of the shader. -/
theorem source_print {shader : Shader}
    (hwritable : ∀ item ∈ shader.items, ∀ token ∈ item.allTokens, token.Writable)
    {shared : Option (List Part)} {vertex fragment : List Part}
    (hshared : Option.Rel Printed shader.shared shared)
    (hvertex : Printed shader.vertex vertex) (hfragment : Printed shader.fragment fragment) :
    Source (shader.itemsWith shared vertex fragment) shader.print.toList := by
  have hempty : Source [] [] := .nil .none
  have hstages := source_block (.stage .vertex) hvertex.closed
    (source_block (.stage .fragment) hfragment.closed hempty)
  rw [List.append_nil] at hstages
  rw [Shader.print, String.toList_ofList]
  refine source_lines (fun item hitem => isDeclaration_of_mem_items hitem) hwritable ?_
  generalize shader.shared = segments? at hshared ⊢
  cases hshared with
  | none => exact hstages
  | some hprinted => exact source_block .shared hprinted.closed hstages

end ShaderPipeline.Language
