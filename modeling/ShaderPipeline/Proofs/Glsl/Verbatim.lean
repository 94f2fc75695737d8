import ShaderPipeline.Proofs.Glsl.Layouts
import ShaderPipeline.Proofs.Language.Expansion

/-!
# Blocks in generated stages

The blocks of a source reach the stages as they stand there. `Verbatim` says what a stage has as
its main part and what both stages have in front of it, in terms of the texts between the braces of
the source, and leaves nothing open (`Verbatim.unique`); `compile_verbatim` says that every stage
that is generated is built in this way. On the way from the source to the stage a block is divided
into pieces, trimmed, grouped into segments and joined again, and each of these steps keeps the
atoms of the block that are not trimmed.

A block that is empty after trimming leaves nothing in its stage, not even a line break. The shared
block is followed by an empty line in any case.
-/

namespace ShaderPipeline.Glsl

open ShaderPipeline.Language Grammar

/-! ## What is expected -/

/-- Every property that a block refers to has the literal of its value in the context, which is
promoted to the declared type. -/
def Formats (items : List Item) (context : PropertyContext) (literal : String → String) : Prop :=
  ∀ name ∈ items.flatMap Item.references, ∃ type given,
    (name, type) ∈ items.filterMap Item.property? ∧ context.get? name = some given ∧
      literal name = (promote type given).literal

/-- What is written for the blocks of a source: in front of the main functions, and in each. -/
structure Verbatim (items : List Item) (source : List Char) (literal : String → String)
    (shared : List Char) (main : StageKind → List Char) : Prop where
  /-- Every stage has a block. -/
  stage_exists : ∀ stage, ∃ text, BlockText items source (.stage stage) text
  /-- The main part of a stage is the expanded block with a line break, or nothing at all. -/
  stage_eq : ∀ stage text, BlockText items source (.stage stage) text →
    ∃ expanded, Expands literal (trimmedText text) expanded ∧
      main stage = if trimmedText text = [] then [] else expanded ++ ['\n']
  /-- The shared part is the expanded block with a line break and an empty line. -/
  shared_eq : ∀ text, BlockText items source .shared text →
    ∃ expanded, Expands literal (trimmedText text) expanded ∧ shared = expanded ++ ['\n', '\n']
  /-- Without a shared block there is no shared part. -/
  shared_absent : (∀ text, ¬ BlockText items source .shared text) → shared = []

/-- The source and the literals say all of what is written. -/
theorem Verbatim.unique {items : List Item} {source : List Char} {literal : String → String}
    {shared shared' : List Char} {main main' : StageKind → List Char}
    (h : Verbatim items source literal shared main)
    (h' : Verbatim items source literal shared' main') : shared' = shared ∧ main' = main := by
  constructor
  · by_cases hblock : ∃ text, BlockText items source .shared text
    · obtain ⟨text, htext⟩ := hblock
      obtain ⟨expanded, hexpanded, rfl⟩ := h.shared_eq text htext
      obtain ⟨other, hother, rfl⟩ := h'.shared_eq text htext
      rw [hother.unique hexpanded]
    · have hnone := not_exists.1 hblock
      rw [h.shared_absent hnone, h'.shared_absent hnone]
  · funext stage
    obtain ⟨text, htext⟩ := h.stage_exists stage
    obtain ⟨expanded, hexpanded, hmain⟩ := h.stage_eq stage text htext
    obtain ⟨other, hother, hmain'⟩ := h'.stage_eq stage text htext
    rw [hmain, hmain', hother.unique hexpanded]

/-! ## Bodies -/

section

variable {shader : Shader} {context : PropertyContext}

/-- Places have no part in the text of a body. -/
theorem bodyIn_unplaced (body : Body) :
    bodyIn shader context (Body.unplaced body) = bodyIn shader context body := by
  have hsegment : segmentIn shader context ∘ Segment.unplaced = segmentIn shader context := by
    funext segment
    cases segment <;> rfl
  rw [bodyIn, bodyIn, Body.unplaced, List.map_map]
  exact congrArg (fun written => String.join (body.map written)) hsegment

/-- Grouping characters to texts does not change what is written for a body. -/
theorem bodyIn_regroup (list : List Atom) :
    (bodyIn shader context (regroup list)).toList =
      list.flatMap (Atom.written (literalIn shader context)) := by
  induction list with
  | nil => rfl
  | cons atom list ih =>
    rw [List.flatMap_cons, ← ih]
    cases atom with
    | reference found =>
      rw [regroup, bodyIn_cons, String.toList_append]
      rfl
    | char c =>
      rw [regroup]
      cases regroup list with
      | nil => simp [prependChar, bodyIn, segmentIn, Atom.written]
      | cons segment more =>
        cases segment <;> simp [prependChar, bodyIn_cons, segmentIn, Atom.written]

/-- Something is left of a body if an atom is. -/
theorem isEmpty_regroup (list : List Atom) : (regroup list).isEmpty = list.isEmpty := by
  cases list with
  | nil => rfl
  | cons atom list =>
    cases atom with
    | reference found => rfl
    | char c =>
      rw [regroup]
      cases regroup list with
      | nil => rfl
      | cons segment more => cases segment <;> rfl

/-- A body is written as the expanded text of its block. -/
theorem expands_bodyIn {parts : List Part} {text rest : List Char}
    (h : Parts parts (text ++ rest) rest) {found : Body}
    (hbody : Body.unplaced found = body parts) :
    Expands (literalIn shader context) (trimmedText text) (bodyIn shader context found).toList := by
  have hexpands := h.expands_trimmedText (literalIn shader context)
  rw [← bodyIn_regroup, atoms, ← body_eq_regroup, ← hbody, bodyIn_unplaced] at hexpands
  exact hexpands

/-- A body is empty exactly if the trimmed text of its block is. -/
theorem isEmpty_iff_trimmedText {parts : List Part} {text rest : List Char}
    (h : Parts parts (text ++ rest) rest) {found : Body}
    (hbody : Body.unplaced found = body parts) :
    found.isEmpty = true ↔ trimmedText text = [] := by
  have hempty : found.isEmpty = (trimmed (atoms parts)).isEmpty := by
    rw [← isEmpty_regroup, atoms, ← body_eq_regroup, ← hbody, Body.unplaced, List.isEmpty_map]
  rw [hempty, List.isEmpty_iff, h.trimmed_eq_nil_iff]

/-! ## Stages -/

/-- The text of the blocks in front of the main function. -/
def sharedPart (shader : Shader) (context : PropertyContext) : List Char :=
  (shader.shared.map fun found => (bodyIn shader context found).toList ++ ['\n', '\n']).getD []

/-- The text of the block in the main function. -/
def mainPart (shader : Shader) (context : PropertyContext) (stage : StageKind) : List Char :=
  if (shader.stage stage).isEmpty then []
  else (bodyIn shader context (shader.stage stage)).toList ++ ['\n']

/-- A layout is written as its preamble, its interface and its blocks. -/
theorem text_layoutIn (dialect : Dialect) (stage : StageKind) :
    ((layoutIn shader context stage).text dialect).toList =
      ((layoutIn shader context stage).preamble dialect ++
          (layoutIn shader context stage).interfaceText dialect).toList ++
        sharedPart shader context ++ "void main(void)\n\x7b\n".toList ++
        mainPart shader context stage ++ "\x7d\n".toList := by
  have hcode : (layoutIn shader context stage).code.toList =
      sharedPart shader context ++ "void main(void)\n\x7b\n".toList ++
        mainPart shader context stage ++ "\x7d\n".toList := by
    have hempty : "\n\n".toList = ['\n', '\n'] := rfl
    have hline : "\n".toList = ['\n'] := rfl
    unfold StageLayout.code sharedPart mainPart layoutIn
    simp only [String.toList_append]
    cases shader.shared <;> cases (shader.stage stage).isEmpty <;>
      simp [hempty, hline]
  rw [StageLayout.text, String.toList_append, hcode]
  simp only [List.append_assoc]

variable {source : String} {items : List Item} {draft : Draft}

/-- The blocks of a shader are written as their source has them. -/
theorem verbatim_of_origin (h : Origin source items draft shader) :
    Verbatim items source.toList (literalIn shader context) (sharedPart shader context)
      (mainPart shader context) where
  stage_exists := by
    intro stage
    obtain ⟨parts, hitem⟩ := h.exists_stage stage
    obtain ⟨text, -, hblock, -⟩ := exists_blockText h.source_eq hitem
    exact ⟨text, hblock⟩
  stage_eq := by
    intro stage text hblock
    obtain ⟨parts, before, after, hitem, -, hparts, -⟩ := hblock
    have hbody := h.stage_eq hitem
    refine ⟨_, expands_bodyIn hparts hbody, ?_⟩
    have hempty := isEmpty_iff_trimmedText hparts hbody
    rw [mainPart]
    simp only [hempty]
  shared_eq := by
    intro text hblock
    obtain ⟨parts, before, after, hitem, -, hparts, -⟩ := hblock
    obtain ⟨found, hshared, hbody⟩ := h.exists_shared hitem
    refine ⟨_, expands_bodyIn hparts hbody, ?_⟩
    rw [sharedPart, hshared]
    rfl
  shared_absent := by
    intro hnone
    have hshared : shader.shared = none := by
      apply h.shared_eq_none
      intro parts hitem
      obtain ⟨text, -, hblock, -⟩ := exists_blockText h.source_eq hitem
      exact hnone text hblock
    rw [sharedPart, hshared]
    rfl

/-- Where a stage is generated, its references have the literals of the context. -/
theorem formats_of_origin (h : Origin source items draft shader) {known : Values}
    (hknown : values shader context = .ok known) :
    Formats items context (literalIn shader context) := by
  intro name hname
  obtain ⟨type, htype⟩ := h.wellFormed.reference_declared name hname
  have hdeclared := h.propertyType?_iff.2 htype
  have hchecked := h.checked
  obtain ⟨declared, hfound, rfl⟩ := Option.map_eq_some_iff.1 hdeclared
  obtain ⟨hmem, rfl⟩ := hchecked.property?_eq_some_iff.1 hfound
  have hvalue := valueOf_eq_of_values hknown hmem
  obtain ⟨given, hget, -⟩ := Option.map_eq_some_iff.1 hvalue
  refine ⟨declared.type, given, htype, hget, ?_⟩
  rw [literalIn, value?, hdeclared, hget]
  rfl

end

/-- The blocks of a compiled source reach every generated stage verbatim, except that references
are replaced by the literals of their values. Nothing else can be written for them. -/
theorem compile_verbatim {source : String} {shader : Shader}
    (hcompile : compile source = .ok shader) :
    (∃ items, Source items source.toList ∧ WellFormed items) ∧
    ∀ items, Source items source.toList → WellFormed items → ∀ context, ∃ literal shared main,
      Verbatim items source.toList literal shared main ∧
      (∀ shared' main', Verbatim items source.toList literal shared' main' →
        shared' = shared ∧ main' = main) ∧
      ∀ dialect stage text, stageText dialect shader context stage = .ok text →
        Formats items context literal ∧
        text.toList =
          ((layoutIn shader context stage).preamble dialect ++
              (layoutIn shader context stage).interfaceText dialect).toList ++
            shared ++ "void main(void)\n\x7b\n".toList ++ main stage ++ "\x7d\n".toList := by
  refine ⟨exists_source_of_compile hcompile, ?_⟩
  intro items hsource hwell context
  obtain ⟨draft, horigin⟩ := exists_origin_of_source hcompile hsource hwell
  refine ⟨literalIn shader context, sharedPart shader context, mainPart shader context,
    verbatim_of_origin horigin, fun _ _ => (verbatim_of_origin horigin).unique, ?_⟩
  intro dialect stage text htext
  rw [stageText_eq horigin.checked, outcome_eq_ok_iff] at htext
  obtain ⟨hfault, rfl⟩ := htext
  rcases values_cases shader context with ⟨known, hknown, -⟩ | ⟨e, -, hsome⟩
  · exact ⟨formats_of_origin horigin hknown, text_layoutIn dialect stage⟩
  · rw [stageFault?, hsome] at hfault
    cases hfault

/-- A source whose blocks have comments with dollar signs and braces, and braces of their own. -/
def dollarSource : String :=
  "property string CODE; property float F;
shared \x7b float f() \x7b return $F; \x7d // $ \x7b
 \x7d vertex \x7b
  /* $CODE \x7d */ $CODE \x7d fragment \x7b\x7d"

/-- A context for the dollar source, with an integer for a floating-point number and a text with a
dollar sign. -/
def dollarContext : PropertyContext := .ofList [("CODE", .text "$F;"), ("F", .int 1)]

/-- The vertex stage of the dollar source is generated, and its blocks are in it. -/
theorem compile_verbatim_dollarSource : ∃ shader items literal shared main text,
    compile dollarSource = .ok shader ∧
      stageText .gl330 shader dollarContext .vertex = .ok text ∧
      Verbatim items dollarSource.toList literal shared main ∧
      Formats items dollarContext literal ∧
      text.toList =
        ((layoutIn shader dollarContext .vertex).preamble .gl330 ++
            (layoutIn shader dollarContext .vertex).interfaceText .gl330).toList ++
          shared ++ "void main(void)\n\x7b\n".toList ++ main .vertex ++ "\x7d\n".toList := by
  have hok : (compile dollarSource).toOption.any
      (fun shader => (stageText .gl330 shader dollarContext .vertex).isOk) = true := by
    decide +kernel
  obtain ⟨shader, text, hshader, htext⟩ := exists_ok_of_any hok
  obtain ⟨⟨items, hsource, hwell⟩, hall⟩ := compile_verbatim hshader
  obtain ⟨literal, shared, main, hverbatim, -, htexts⟩ := hall items hsource hwell dollarContext
  exact ⟨shader, items, literal, shared, main, text, hshader, htext, hverbatim,
    htexts .gl330 .vertex text htext⟩

end ShaderPipeline.Glsl
