import ShaderPipeline.Proofs.Glsl.Layouts
import ShaderPipeline.Proofs.Language.Slots

/-!
# The interface of a program

A program source says three times what a shader has as its interface: in the text of the vertex
stage, in that of the fragment stage and in the tables of slots. `OneInterface` says that all three
come from the same declarations. The lines in front of the shared code are given one by one, with
the declarations of both stages written in the same way, and the tables are read off these lines:
a slot has the name that the declaration on its line names (`nameIn`).

The lines are those of declarations in the source, so nothing in the code of a block can be mistaken
for one of them. What follows them is the code of the stage, which is no concern here.
-/

namespace ShaderPipeline.Glsl

open ShaderPipeline.Language Grammar Text

/-! ## Lines -/

/-- A declaration as it is written in every stage. -/
def declarationText (dialect : Dialect) (context : PropertyContext) (declared : Declaration) :
    String :=
  (plainIn context declared).text dialect

/-- The line of a uniform. -/
def uniformLine (declaration : String) : String := "uniform " ++ declaration ++ ";\n"

/-- The line of a declaration with a slot. -/
def locationLine (direction : Direction) (slot : Nat) (declaration : String) : String :=
  "layout(location = " ++ toString slot ++ ") " ++ direction.keyword ++ " " ++ declaration ++ ";\n"

/-- The line of a varying. -/
def varyingLine (direction : Direction) (declaration : String) : String :=
  direction.keyword ++ " " ++ declaration ++ ";\n"

/-- The lines of the uniforms with their slots, in slot order. -/
def uniformLines (dialect : Dialect) (context : PropertyContext) (items : List Item) :
    List (Nat × String) :=
  (uniformsBySlot items).map fun entry =>
    (entry.1, uniformLine (declarationText dialect context entry.2))

/-- The lines of the declarations with a slot that are enabled. -/
def locationLines (dialect : Dialect) (context : PropertyContext) (direction : Direction)
    (slots : List SlotDecl) : List String :=
  (slots.filter (enabledIn context)).map fun slot =>
    locationLine direction slot.slot (declarationText dialect context slot.declaration)

/-- The lines of the varyings. -/
def varyingLines (dialect : Dialect) (context : PropertyContext) (direction : Direction)
    (declared : List Declaration) : List String :=
  declared.map fun d => varyingLine direction (declarationText dialect context d)

/-- The lines of the interface of a stage. -/
def interfaceLines (dialect : Dialect) (context : PropertyContext) (items : List Item) :
    StageKind → List String
  | .vertex =>
    locationLines dialect context .input (attributes items) ++
      varyingLines dialect context .output (varyings items)
  | .fragment =>
    varyingLines dialect context .input (varyings items) ++
      locationLines dialect context .output (outputs items)

/-- What both stages begin with. -/
def preambleText (dialect : Dialect) (context : PropertyContext) (items : List Item) : String :=
  dialect.header ++ "\n" ++
    String.join ((uniformLines dialect context items).map Prod.snd) ++ "\n"

/-- The name that the text of a declaration names: its last word in front of a bracket. -/
def nameIn (declaration : List Char) : List Char :=
  ((declaration.takeWhile (· != '[')).reverse.takeWhile (· != ' ')).reverse

/-! ## What is expected -/

/-- Both stages of a program and its tables of slots have the interface that the items declare. -/
structure OneInterface (dialect : Dialect) (context : PropertyContext) (items : List Item)
    (shader : Shader) (program : ProgramSource) : Prop where
  /-- A stage is the common preamble, the lines of its interface and its code. -/
  stage_eq : ∀ stage, program.stage stage =
    preambleText dialect context items ++
      String.join (interfaceLines dialect context items stage) ++ "\n" ++
      (layoutIn shader context stage).code
  /-- Each of the lines is one line. -/
  lines_single : ∀ stage, ∀ line ∈ (uniformLines dialect context items).map Prod.snd ++
    interfaceLines dialect context items stage,
    ∃ content, line.toList = content ++ ['\n'] ∧ '\n' ∉ content
  /-- The uniforms are in slot order. -/
  uniforms_ordered : ((uniformLines dialect context items).map Prod.fst).Pairwise (· < ·)
  /-- The lines of uniforms are those of the declared ones. -/
  uniforms_declared : ∀ slot line, (slot, line) ∈ uniformLines dialect context items ↔
    ∃ declarator, Item.uniform slot declarator ∈ items ∧
      line = uniformLine (declarationText dialect context declarator.declaration)
  /-- No two attributes are at one location. -/
  inputs_nodup : (((attributes items).filter (enabledIn context)).map (·.slot)).Nodup
  /-- No two outputs are at one location. -/
  outputs_nodup : (((outputs items).filter (enabledIn context)).map (·.slot)).Nodup
  /-- The table of attributes has an entry for every slot. -/
  attributes_length : program.attributes.length = 8
  /-- An attribute is in the table exactly if it is on the line of its location. -/
  attributes_iff : ∀ slot name, program.attributes[slot]? = some (some name) ↔
    ∃ declaration, locationLine .input slot declaration ∈
        interfaceLines dialect context items .vertex ∧
      nameIn declaration.toList = name.toList
  /-- A uniform is in the table exactly if it is on the line of its slot. -/
  uniforms_iff : ∀ slot name, program.uniforms[slot]? = some (some name) ↔
    ∃ declaration, (slot, uniformLine declaration) ∈ uniformLines dialect context items ∧
      nameIn declaration.toList = name.toList
  /-- The tables are within the limits. -/
  within_capacity : program.withinCapacity = true

/-! ## Places -/

section

variable {dialect : Dialect} {context : PropertyContext}

/-- Places have no part in a declaration as it is written. -/
theorem plainIn_unplaced (declared : Declaration) :
    plainIn context declared.unplaced = plainIn context declared := by
  obtain ⟨name, type, precision, array, location⟩ := declared
  cases array with
  | none => rfl
  | some length => cases length <;> rfl

/-- Places have no part in whether a declaration is enabled. -/
theorem enabledIn_unplaced (slot : SlotDecl) :
    enabledIn context slot.unplaced = enabledIn context slot := by
  obtain ⟨slot, declared, condition⟩ := slot
  cases condition <;> rfl

/-- Enabled declarations without their places are those that are enabled without places. -/
theorem filter_unplaced (slots : List SlotDecl) :
    (slots.map (·.unplaced)).filter (enabledIn context) =
      (slots.filter (enabledIn context)).map (·.unplaced) := by
  rw [List.filter_map]
  congr 2
  funext slot
  exact enabledIn_unplaced slot

/-- Interface variables with a slot are on the lines of their declarations. -/
theorem map_line_slotVariablesIn (direction : Direction) (slots : List SlotDecl) :
    (slotVariablesIn context direction slots).map (·.line dialect) =
      locationLines dialect context direction (slots.map (·.unplaced)) := by
  rw [slotVariablesIn, locationLines, filter_unplaced, List.map_map, List.map_map]
  apply List.map_congr_left
  intro slot hslot
  have hplain := @plainIn_unplaced context slot.declaration
  simp only [Function.comp_apply, declarationText, SlotDecl.unplaced, hplain]
  rfl

/-- Varyings are on the lines of their declarations. -/
theorem map_line_varyingsIn (direction : Direction) (shader : Shader) :
    (varyingsIn shader context direction).map (·.line dialect) =
      varyingLines dialect context direction (shader.varyings.map (·.unplaced)) := by
  rw [varyingsIn, varyingLines, List.map_map, List.map_map]
  apply List.map_congr_left
  intro declared hdeclared
  simp only [Function.comp_apply, declarationText, plainIn_unplaced, InterfaceVariable.line,
    varyingLine, String.empty_append]

end

/-! ## Names in lines -/

section

variable {dialect : Dialect} {context : PropertyContext}

/-- The words of types are words. -/
theorem isWordChar_of_mem_keyword (type : GlslType) :
    ∀ c ∈ type.keyword.toList, isWordChar c = true := by
  -- as a check of the list, since a bounded statement may be decided over all characters
  have hall : type.keyword.toList.all isWordChar = true := by cases type <;> decide
  exact List.all_eq_true.1 hall

/-- The words of precisions are words. -/
theorem isWordChar_of_mem_precision (precision : Precision) :
    ∀ c ∈ precision.keyword.toList, isWordChar c = true := by
  have hall : precision.keyword.toList.all isWordChar = true := by cases precision <;> decide
  exact List.all_eq_true.1 hall

/-- The digits of a number are characters of words. -/
theorem isWordChar_of_mem_toString (n : Nat) : ∀ c ∈ (toString n).toList, isWordChar c = true := by
  intro c hc
  have hdigits : (toString n).toList = Nat.toDigits 10 n := Nat.toList_repr
  rw [hdigits] at hc
  exact isWordChar_of_isDigit (Nat.isDigit_of_mem_toDigits (by decide) (by decide) hc)

/-- What stands in front of the name of a declaration. -/
def beforeName (dialect : Dialect) (declared : Declaration) : List Char :=
  (match declared.precision with
    | some precision => if dialect.writesPrecision then precision.keyword.toList ++ [' '] else []
    | none => []) ++
    declared.type.keyword.toList ++ [' ']

/-- What stands after the name of a declaration. -/
def afterName (context : PropertyContext) (declared : Declaration) : List Char :=
  match declared.array with
  | some length => '[' :: ((toString (lengthIn context length)).toList ++ [']'])
  | none => []

/-- A declaration is written with its name between its type and its length. -/
theorem toList_declarationText (declared : Declaration) :
    (declarationText dialect context declared).toList =
      beforeName dialect declared ++ declared.name.toList ++ afterName context declared := by
  obtain ⟨name, type, precision, array, location⟩ := declared
  have hspace : " ".toList = [' '] := rfl
  have hopen : "[".toList = ['['] := rfl
  have hclose : "]".toList = [']'] := rfl
  cases precision with
  | none =>
    cases array <;>
      simp [declarationText, plainIn, PlainDeclaration.text, beforeName, afterName, hspace, hopen,
        hclose]
  | some precision =>
    cases dialect <;> cases array <;>
      simp [declarationText, plainIn, PlainDeclaration.text, beforeName, afterName, hspace, hopen,
        hclose, Dialect.writesPrecision]

/-- In front of the name stand words with spaces after them. -/
theorem mem_beforeName {declared : Declaration} {c : Char}
    (h : c ∈ beforeName dialect declared) : isWordChar c = true ∨ c = ' ' := by
  have htype := isWordChar_of_mem_keyword declared.type
  have hprecision := isWordChar_of_mem_precision
  unfold beforeName at h
  grind

/-- A declaration names its name. -/
theorem nameIn_declarationText {declared : Declaration}
    (h : IsIdentifier declared.name.toList) :
    nameIn (declarationText dialect context declared).toList = declared.name.toList := by
  have hword (c : Char) (hc : isWordChar c = true) : (c != '[') = true ∧ (c != ' ') = true := by
    constructor
    · rw [bne_iff_ne]
      rintro rfl
      exact absurd hc (by decide)
    · rw [bne_iff_ne]
      rintro rfl
      exact absurd hc (by decide)
  have hfront : ∀ c ∈ beforeName dialect declared ++ declared.name.toList, (c != '[') = true := by
    intro c hc
    rcases List.mem_append.1 hc with hbefore | hname
    · rcases mem_beforeName hbefore with hchar | rfl
      · exact (hword c hchar).1
      · decide
    · exact (hword c (h.2 c hname)).1
  have hafter : ∀ c ∈ (afterName context declared).head?, (c != '[') = false := by
    unfold afterName
    cases declared.array <;> simp
  have hreverse : ∀ c ∈ declared.name.toList.reverse, (c != ' ') = true := by
    intro c hc
    exact (hword c (h.2 c (List.mem_reverse.1 hc))).2
  have hspace : ∀ c ∈ (beforeName dialect declared).reverse.head?, (c != ' ') = false := by
    unfold beforeName
    simp
  rw [toList_declarationText, nameIn, takeWhile_run hfront hafter, List.reverse_append,
    takeWhile_run hreverse hspace, List.reverse_reverse]

/-- A declaration is written without line breaks. -/
theorem lineBreak_not_mem_declarationText {declared : Declaration}
    (h : IsIdentifier declared.name.toList) :
    '\n' ∉ (declarationText dialect context declared).toList := by
  have hword (c : Char) (hc : isWordChar c = true) : c ≠ '\n' := by
    rintro rfl
    exact absurd hc (by decide)
  have hlength := isWordChar_of_mem_toString
  rw [toList_declarationText, List.mem_append, List.mem_append]
  rintro ((hbefore | hname) | hafter)
  · rcases mem_beforeName hbefore with hchar | hspace
    · exact hword _ hchar rfl
    · exact absurd hspace (by decide)
  · exact hword _ (h.2 _ hname) rfl
  · unfold afterName at hafter
    grind

end

/-! ## Locations in lines -/

/-- A line of a location has its number between a fixed text and a parenthesis. -/
theorem toList_locationLine (direction : Direction) (slot : Nat) (declaration : String) :
    (locationLine direction slot declaration).toList =
      "layout(location = ".toList ++ (Nat.toDigits 10 slot ++
        ')' :: (' ' :: direction.keyword.toList ++
          ' ' :: (declaration.toList ++ ";\n".toList))) := by
  have hdigits : (toString slot).toList = Nat.toDigits 10 slot := Nat.toList_repr
  have hclose : ") ".toList = [')', ' '] := rfl
  have hspace : " ".toList = [' '] := rfl
  unfold locationLine
  rw [String.toList_append, String.toList_append, String.toList_append, String.toList_append,
    String.toList_append, String.toList_append, hdigits, hclose, hspace]
  -- the fixed texts are long enough for `simp` to spend its time on their characters
  generalize "layout(location = ".toList = front
  generalize ";\n".toList = back
  simp only [List.append_assoc, List.cons_append, List.nil_append]

/-- The line of a location determines the location and the declaration. -/
theorem locationLine_inj {direction : Direction} {slot other : Nat} {declaration second : String}
    (h : locationLine direction slot declaration = locationLine direction other second) :
    slot = other ∧ declaration = second := by
  have hlists := congrArg String.toList h
  rw [toList_locationLine, toList_locationLine] at hlists
  have hnumbers := List.append_cancel_left hlists
  have hdigits (n : Nat) : ∀ c ∈ Nat.toDigits 10 n, c.isDigit = true := fun c hc =>
    Nat.isDigit_of_mem_toDigits (by decide) (by decide) hc
  have hends (rest : List Char) : ∀ c ∈ (')' :: rest).head?, c.isDigit = false := by
    rintro c ⟨rfl⟩
    decide
  have htaken := congrArg (List.takeWhile Char.isDigit) hnumbers
  rw [takeWhile_run (hdigits slot) (hends _), takeWhile_run (hdigits other) (hends _)] at htaken
  have hslot := congrArg Decimal.digitsValue htaken
  rw [Decimal.digitsValue_toDigits, Decimal.digitsValue_toDigits] at hslot
  subst hslot
  have htails := List.append_cancel_left (List.cons.inj (List.append_cancel_left hnumbers)).2
  have hdeclarations := List.append_cancel_right (List.cons.inj htails).2
  exact ⟨rfl, String.toList_inj.1 hdeclarations⟩

/-- The line of a varying is not that of a location. -/
theorem locationLine_ne_varyingLine {direction other : Direction} {slot : Nat}
    {declaration second : String} :
    locationLine direction slot declaration ≠ varyingLine other second := by
  intro h
  have hlists := congrArg String.toList h
  have hlayout : "layout(location = ".toList = 'l' :: "ayout(location = ".toList := rfl
  obtain ⟨first, rest, hkeyword, hfirst⟩ :
      ∃ first rest, other.keyword.toList = first :: rest ∧ first ≠ 'l' := by
    cases other with
    | input => exact ⟨'i', ['n'], rfl, by decide⟩
    | output => exact ⟨'o', ['u', 't'], rfl, by decide⟩
  rw [toList_locationLine, hlayout, varyingLine, String.toList_append, String.toList_append,
    String.toList_append, hkeyword] at hlists
  exact hfirst (List.cons.inj hlists).1.symm

/-! ## The table of attributes -/

/-- Writing to the table keeps its length. -/
theorem length_foldl_set (slots : List SlotDecl) (table : List (Option String)) :
    (slots.foldl (fun table slot => table.set slot.slot (some slot.declaration.name))
      table).length = table.length := by
  induction slots generalizing table with
  | nil => rfl
  | cons slot slots ih => rw [List.foldl_cons, ih, List.length_set]

/-- What the table holds is what was written there, or was there before. -/
theorem getElem?_foldl_set {slots : List SlotDecl} (h : (slots.map (·.slot)).Nodup)
    {table : List (Option String)} (hlt : ∀ slot ∈ slots, slot.slot < table.length) {i : Nat}
    {name : String} :
    (slots.foldl (fun table slot => table.set slot.slot (some slot.declaration.name)) table)[i]? =
        some (some name) ↔
      (∃ slot ∈ slots, slot.slot = i ∧ slot.declaration.name = name) ∨
        (∀ slot ∈ slots, slot.slot ≠ i) ∧ table[i]? = some (some name) := by
  induction slots generalizing table with
  | nil => simp
  | cons slot slots ih =>
    obtain ⟨hfirst, hnodup⟩ := List.nodup_cons.1 h
    have hslot : slot.slot < table.length := hlt slot List.mem_cons_self
    have hrest : ∀ other ∈ slots,
        other.slot < (table.set slot.slot (some slot.declaration.name)).length := by
      intro other hother
      rw [List.length_set]
      exact hlt other (List.mem_cons_of_mem slot hother)
    rw [List.foldl_cons, ih hnodup hrest, List.getElem?_set]
    by_cases hsame : slot.slot = i
    · have hlater : ∀ other ∈ slots, other.slot ≠ i := by
        intro other hother hslots
        exact hfirst (List.mem_map.2 ⟨other, hother, hslots.trans hsame.symm⟩)
      rw [if_pos hsame, if_pos hslot]
      simp only [List.mem_cons, exists_eq_or_imp, forall_eq_or_imp, Option.some.injEq]
      grind
    · rw [if_neg hsame]
      simp only [List.mem_cons, exists_eq_or_imp, forall_eq_or_imp]
      grind

/-- The table has an entry for every slot. -/
theorem length_attributeTable (slots : List SlotDecl) :
    (attributeTable slots).length = SlotKind.attribute.capacity := by
  rw [attributeTable, length_foldl_set, List.length_replicate]

/-- The table has the name of each attribute at its slot, and no other name. -/
theorem getElem?_attributeTable {slots : List SlotDecl} (h : (slots.map (·.slot)).Nodup)
    (hlt : ∀ slot ∈ slots, slot.slot < SlotKind.attribute.capacity) {i : Nat} {name : String} :
    (attributeTable slots)[i]? = some (some name) ↔
      ∃ slot ∈ slots, slot.slot = i ∧ slot.declaration.name = name := by
  have hempty : (List.replicate SlotKind.attribute.capacity (none : Option String))[i]? ≠
      some (some name) := by
    rw [List.getElem?_replicate]
    split <;> simp
  have hbound : ∀ slot ∈ slots,
      slot.slot < (List.replicate SlotKind.attribute.capacity (none : Option String)).length := by
    intro slot hslot
    rw [List.length_replicate]
    exact hlt slot hslot
  rw [attributeTable, getElem?_foldl_set h hbound]
  simp only [hempty, and_false, or_false]

/-- Places have no part in the table. -/
theorem attributeTable_unplaced (slots : List SlotDecl) :
    attributeTable (slots.map (·.unplaced)) = attributeTable slots := by
  rw [attributeTable, List.foldl_map]
  rfl

/-! ## Every generated program has one interface -/

section

variable {source : String} {items : List Item} {draft : Draft} {shader : Shader}
  {context : PropertyContext} {dialect : Dialect}

/-- A layout is written as the lines of the items and its code. -/
theorem text_of_origin (h : Origin source items draft shader) (stage : StageKind) :
    (layoutIn shader context stage).text dialect =
      preambleText dialect context items ++
        String.join (interfaceLines dialect context items stage) ++ "\n" ++
        (layoutIn shader context stage).code := by
  have huniforms : (layoutIn shader context stage).uniforms.map
      (fun d => "uniform " ++ d.text dialect ++ ";\n") =
        (uniformLines dialect context items).map Prod.snd := by
    have hlines : (uniformLines dialect context items).map Prod.snd =
        ((uniformsBySlot items).map Prod.snd).map
          (fun declared => uniformLine (declarationText dialect context declared)) := by
      rw [uniformLines, List.map_map, List.map_map]
      rfl
    rw [hlines, ← h.filterMap_uniforms, List.map_map]
    change ((shader.uniforms.filterMap id).map (plainIn context)).map _ = _
    rw [List.map_map]
    apply List.map_congr_left
    intro declared hdeclared
    simp only [Function.comp_apply, declarationText, plainIn_unplaced]
    rfl
  have hinterface : (layoutIn shader context stage).interface.map (·.line dialect) =
      interfaceLines dialect context items stage := by
    change (interfaceIn shader context stage).map (·.line dialect) = _
    cases stage <;>
      rw [interfaceIn, interfaceLines, List.map_append, map_line_slotVariablesIn,
        map_line_varyingsIn, h.varyings_eq] <;>
      simp only [h.attributes_eq, h.outputs_eq]
  rw [StageLayout.text, StageLayout.preamble, StageLayout.interfaceText, huniforms, hinterface,
    preambleText]
  simp only [String.append_assoc]

/-- A declaration between a text without line breaks and the end of a statement is on one line. -/
theorem exists_single {front declaration : String} (hfront : '\n' ∉ front.toList)
    (hdeclaration : '\n' ∉ declaration.toList) :
    ∃ content, (front ++ declaration ++ ";\n").toList = content ++ ['\n'] ∧ '\n' ∉ content := by
  have hend : ";\n".toList = [';'] ++ ['\n'] := rfl
  refine ⟨front.toList ++ declaration.toList ++ [';'], ?_, ?_⟩
  · rw [String.toList_append, String.toList_append, hend, List.append_assoc, List.append_assoc,
      List.append_assoc]
  · simp [hfront, hdeclaration]

/-- Lines of declarations with a slot are single. -/
theorem single_of_mem_locationLines {direction : Direction} {slots : List SlotDecl}
    (hnames : ∀ slot ∈ slots, IsIdentifier slot.declaration.name.toList) {line : String}
    (hline : line ∈ locationLines dialect context direction slots) :
    ∃ content, line.toList = content ++ ['\n'] ∧ '\n' ∉ content := by
  obtain ⟨slot, hslot, rfl⟩ := List.mem_map.1 hline
  have hname := hnames slot (List.mem_of_mem_filter hslot)
  have hnumber : '\n' ∉ (toString slot.slot).toList := by
    intro hmem
    exact absurd (isWordChar_of_mem_toString slot.slot _ hmem) (by decide)
  have hkeyword : '\n' ∉ direction.keyword.toList := by cases direction <;> decide
  have hlayout : '\n' ∉ "layout(location = ".toList := by decide
  have hclose : '\n' ∉ ") ".toList := by decide
  have hspace : '\n' ∉ " ".toList := by decide
  have hfront : '\n' ∉ ("layout(location = " ++ toString slot.slot ++ ") " ++ direction.keyword ++
      " ").toList := by
    rw [String.toList_append, String.toList_append, String.toList_append, String.toList_append]
    simp only [List.mem_append, not_or]
    exact ⟨⟨⟨⟨hlayout, hnumber⟩, hclose⟩, hkeyword⟩, hspace⟩
  exact exists_single hfront (lineBreak_not_mem_declarationText hname)

/-- Lines of varyings are single. -/
theorem single_of_mem_varyingLines {direction : Direction} {declared : List Declaration}
    (hnames : ∀ d ∈ declared, IsIdentifier d.name.toList) {line : String}
    (hline : line ∈ varyingLines dialect context direction declared) :
    ∃ content, line.toList = content ++ ['\n'] ∧ '\n' ∉ content := by
  obtain ⟨d, hd, rfl⟩ := List.mem_map.1 hline
  have hfront : '\n' ∉ (direction.keyword ++ " ").toList := by cases direction <;> decide
  exact exists_single hfront (lineBreak_not_mem_declarationText (hnames d hd))

/-- The line of a uniform determines its declaration. -/
theorem uniformLine_inj {declaration second : String}
    (h : uniformLine declaration = uniformLine second) : declaration = second := by
  have hlists := congrArg String.toList h
  rw [uniformLine, uniformLine, String.toList_append, String.toList_append, String.toList_append,
    String.toList_append] at hlists
  exact String.toList_inj.1 (List.append_cancel_left (List.append_cancel_right hlists))

/-- The lines of uniforms are those of the declared ones. -/
theorem mem_uniformLines_iff (hconsistent : Consistent items) {slot : Nat} {line : String} :
    (slot, line) ∈ uniformLines dialect context items ↔
      ∃ declared, uniformAt? items slot = some declared ∧
        line = uniformLine (declarationText dialect context declared) := by
  simp only [uniformLines, List.mem_map, Prod.mk.injEq]
  constructor
  · intro hline
    obtain ⟨⟨other, declared⟩, hlisted, rfl, rfl⟩ := hline
    exact ⟨declared, (mem_uniformsBySlot_iff hconsistent).1 hlisted, rfl⟩
  · intro hdeclared
    obtain ⟨declared, hfound, rfl⟩ := hdeclared
    exact ⟨(slot, declared), (mem_uniformsBySlot_iff hconsistent).2 hfound, rfl, rfl⟩

/-- Enabled attributes are at different slots. -/
theorem nodup_enabledAttributes (h : Consistent items) (context : PropertyContext) :
    (((attributes items).filter (enabledIn context)).map (·.slot)).Nodup := by
  refine List.Nodup.sublist (List.filter_sublist.map _) ?_
  rw [map_slot_attributes]
  exact h.slots_nodup .attribute

/-- The table of attributes has the names of the enabled ones at their slots. -/
theorem getElem?_enabledAttributes (h : Consistent items) {slot : Nat} {name : String} :
    (attributeTable ((attributes items).filter (enabledIn context)))[slot]? = some (some name) ↔
      ∃ declared ∈ (attributes items).filter (enabledIn context),
        declared.slot = slot ∧ declared.declaration.name = name := by
  refine getElem?_attributeTable (nodup_enabledAttributes h context) ?_
  intro declared hdeclared
  apply h.slot_lt .attribute
  rw [← map_slot_attributes]
  exact List.mem_map_of_mem (List.mem_of_mem_filter hdeclared)

/-- Lines of uniforms are single. -/
theorem single_of_mem_uniformLines (h : Origin source items draft shader) {slot : Nat}
    {line : String} (hline : (slot, line) ∈ uniformLines dialect context items) :
    ∃ content, line.toList = content ++ ['\n'] ∧ '\n' ∉ content := by
  have hconsistent := h.wellFormed.toConsistent
  obtain ⟨declared, hfound, rfl⟩ := (mem_uniformLines_iff hconsistent).1 hline
  have hname := isIdentifier_uniformAt? h.source_eq hconsistent hfound
  exact exists_single (by decide) (lineBreak_not_mem_declarationText hname)

/-- Lines of an interface are single. -/
theorem single_of_mem_interfaceLines (h : Origin source items draft shader) {stage : StageKind}
    {line : String} (hline : line ∈ interfaceLines dialect context items stage) :
    ∃ content, line.toList = content ++ ['\n'] ∧ '\n' ∉ content := by
  have hattributes := fun slot hslot => @isIdentifier_attributes _ _ h.source_eq slot hslot
  have hvaryings := fun d hd => @isIdentifier_varyings _ _ h.source_eq d hd
  have houtputs := fun slot hslot => @isIdentifier_outputs _ _ h.source_eq slot hslot
  cases stage with
  | vertex =>
    rcases List.mem_append.1 hline with hinput | hvarying
    · exact single_of_mem_locationLines hattributes hinput
    · exact single_of_mem_varyingLines hvaryings hvarying
  | fragment =>
    rcases List.mem_append.1 hline with hvarying | houtput
    · exact single_of_mem_varyingLines hvaryings hvarying
    · exact single_of_mem_locationLines houtputs houtput

/-- The table of attributes of a shader is that of the items. -/
theorem attributeTable_of_origin (h : Origin source items draft shader) :
    attributeTable (shader.attributes.filter (enabledIn context)) =
      attributeTable ((attributes items).filter (enabledIn context)) := by
  rw [← h.attributes_eq, filter_unplaced, attributeTable_unplaced]

/-- An attribute is in the table exactly if it is on the line of its location. -/
theorem attributes_iff_of_origin (h : Origin source items draft shader) {slot : Nat}
    {name : String} :
    (attributeTable (shader.attributes.filter (enabledIn context)))[slot]? = some (some name) ↔
      ∃ declaration, locationLine .input slot declaration ∈
          interfaceLines dialect context items .vertex ∧
        nameIn declaration.toList = name.toList := by
  rw [attributeTable_of_origin h, getElem?_enabledAttributes h.wellFormed.toConsistent]
  have hname {declared : SlotDecl}
      (hmem : declared ∈ (attributes items).filter (enabledIn context)) :
      nameIn (declarationText dialect context declared.declaration).toList =
        declared.declaration.name.toList :=
    nameIn_declarationText (isIdentifier_attributes h.source_eq (List.mem_of_mem_filter hmem))
  constructor
  · intro hdeclared
    obtain ⟨declared, hmem, rfl, rfl⟩ := hdeclared
    exact ⟨declarationText dialect context declared.declaration,
      List.mem_append_left _ (List.mem_map.2 ⟨declared, hmem, rfl⟩), hname hmem⟩
  · intro hline
    obtain ⟨declaration, hmem, hnamed⟩ := hline
    rcases List.mem_append.1 hmem with hlocation | hvarying
    · obtain ⟨declared, hdeclared, hsame⟩ := List.mem_map.1 hlocation
      obtain ⟨hslot, rfl⟩ := locationLine_inj hsame
      rw [hname hdeclared, String.toList_inj] at hnamed
      exact ⟨declared, hdeclared, hslot, hnamed⟩
    · obtain ⟨d, -, hsame⟩ := List.mem_map.1 hvarying
      exact absurd hsame.symm locationLine_ne_varyingLine

/-- A uniform is in the table exactly if it is on the line of its slot. -/
theorem uniforms_iff_of_origin (h : Origin source items draft shader) {slot : Nat} {name : String} :
    shader.uniformNames[slot]? = some (some name) ↔
      ∃ declaration, (slot, uniformLine declaration) ∈ uniformLines dialect context items ∧
        nameIn declaration.toList = name.toList := by
  have hconsistent := h.wellFormed.toConsistent
  have htable : shader.uniformNames[slot]? = some (some name) ↔
      ∃ declared, uniformAt? items slot = some declared ∧ declared.name = name := by
    rw [h.uniformNames_eq, List.getElem?_map, Option.map_eq_some_iff]
    constructor
    · intro hentry
      obtain ⟨index, hindex, hnamed⟩ := hentry
      obtain ⟨hlt, hsame⟩ := List.getElem?_eq_some_iff.1 hindex
      rw [List.getElem_range] at hsame
      subst hsame
      exact Option.map_eq_some_iff.1 hnamed
    · intro hdeclared
      obtain ⟨declared, hfound, rfl⟩ := hdeclared
      have hlt := lt_uniformCount hfound
      exact ⟨slot, by simp [hlt], by rw [hfound]; rfl⟩
  rw [htable]
  constructor
  · intro hdeclared
    obtain ⟨declared, hfound, rfl⟩ := hdeclared
    exact ⟨_, (mem_uniformLines_iff hconsistent).2 ⟨declared, hfound, rfl⟩,
      nameIn_declarationText (isIdentifier_uniformAt? h.source_eq hconsistent hfound)⟩
  · intro hline
    obtain ⟨declaration, hmem, hnamed⟩ := hline
    obtain ⟨declared, hfound, hsame⟩ := (mem_uniformLines_iff hconsistent).1 hmem
    obtain rfl := uniformLine_inj hsame
    rw [nameIn_declarationText (isIdentifier_uniformAt? h.source_eq hconsistent hfound),
      String.toList_inj] at hnamed
    exact ⟨declared, hfound, hnamed⟩

/-- The program source of a shader has the interface that the items declare. -/
theorem oneInterface_of_origin (h : Origin source items draft shader) :
    OneInterface dialect context items shader (programIn dialect shader context) where
  stage_eq stage := by
    cases stage with
    | vertex => exact text_of_origin h .vertex
    | fragment => exact text_of_origin h .fragment
  lines_single := by
    intro stage line hline
    rcases List.mem_append.1 hline with huniform | hinterface
    · obtain ⟨⟨slot, text⟩, hmem, rfl⟩ := List.mem_map.1 huniform
      exact single_of_mem_uniformLines h hmem
    · exact single_of_mem_interfaceLines h hinterface
  uniforms_ordered := by
    have hslots : (uniformLines dialect context items).map Prod.fst =
        (uniformsBySlot items).map Prod.fst := by
      rw [uniformLines, List.map_map]
      rfl
    rw [hslots]
    exact pairwise_uniformsBySlot items
  uniforms_declared := by
    intro slot line
    have hconsistent := h.wellFormed.toConsistent
    rw [mem_uniformLines_iff hconsistent]
    simp only [uniformAt?_eq_some_iff hconsistent]
    constructor
    · intro hdeclared
      obtain ⟨declared, ⟨declarator, hitem, rfl⟩, rfl⟩ := hdeclared
      exact ⟨declarator, hitem, rfl⟩
    · intro hitem
      obtain ⟨declarator, hitem, rfl⟩ := hitem
      exact ⟨_, ⟨declarator, hitem, rfl⟩, rfl⟩
  inputs_nodup := nodup_enabledAttributes h.wellFormed.toConsistent context
  outputs_nodup := by
    refine List.Nodup.sublist (List.filter_sublist.map _) ?_
    rw [map_slot_outputs]
    exact h.wellFormed.slots_nodup .output
  attributes_length := length_attributeTable _
  attributes_iff _ _ := attributes_iff_of_origin h
  uniforms_iff _ _ := uniforms_iff_of_origin h
  within_capacity := by
    have hattributes : (programIn dialect shader context).attributes.length =
        SlotKind.attribute.capacity := length_attributeTable _
    have huniforms : (programIn dialect shader context).uniforms.length = uniformCount items := by
      change shader.uniformNames.length = _
      rw [h.uniformNames_eq, List.length_map, List.length_range]
    have hle := h.uniformCount_le
    simp only [ProgramSource.withinCapacity, hattributes, huniforms, Nat.le_refl, decide_true, hle,
      Bool.and_self]

end

/-- The stages and tables of a generated program have the one interface that its source declares. -/
theorem compile_oneInterface {source : String} {shader : Shader}
    (hcompile : compile source = .ok shader) {dialect : Dialect} {context : PropertyContext}
    {program : ProgramSource} (hprogram : programSource dialect shader context = .ok program) :
    (∃ items, Source items source.toList ∧ WellFormed items) ∧
      ∀ items, Source items source.toList → WellFormed items →
        OneInterface dialect context items shader program := by
  refine ⟨exists_source_of_compile hcompile, ?_⟩
  intro items hsource hwell
  obtain ⟨draft, horigin⟩ := exists_origin_of_source hcompile hsource hwell
  rw [programSource_eq horigin.checked, outcome_eq_ok_iff] at hprogram
  obtain ⟨-, rfl⟩ := hprogram
  exact oneInterface_of_origin horigin

/-- A source with free slots, slots that are not in order and declarations that depend on a
property. -/
def gapSource : String :=
  "property bool P; property int N;
uniform 3 highp vec4 c[$N]; uniform 1 mat4 m; attribute 2 vec2 b if P; attribute 0 vec4 a;
varying lowp vec2 v; output 4 vec4 o if P; output 0 vec4 p;
vertex \x7b\x7d fragment \x7b\x7d"

/-- A context in which the conditions of that source do not hold. -/
def gapContext : PropertyContext := .ofList [("P", .bool false), ("N", .int 2)]

/-- The source with free slots has one interface. -/
theorem compile_oneInterface_gapSource : ∃ shader program items,
    compile gapSource = .ok shader ∧ programSource .gles300 shader gapContext = .ok program ∧
      OneInterface .gles300 gapContext items shader program := by
  have hok : (compile gapSource).toOption.any
      (fun shader => (programSource .gles300 shader gapContext).isOk) = true := by
    decide +kernel
  obtain ⟨shader, program, hshader, hprogram⟩ := exists_ok_of_any hok
  obtain ⟨⟨items, hsource, hwell⟩, hall⟩ := compile_oneInterface hshader hprogram
  exact ⟨shader, program, items, hshader, hprogram, hall items hsource hwell⟩

end ShaderPipeline.Glsl
