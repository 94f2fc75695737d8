import Mathlib.Data.List.Forall2
import ShaderPipeline.Proofs.Glsl.Layouts

/-!
# The two dialects side by side

What one dialect makes of a shader, the other makes of it too, up to the header and the precisions
of declarations; and where one fails, the other fails with the same error. The lines that declare
something are listed with what stands in front of the place of a precision and what stands behind
it (`DeclarationLine`), so both texts are made of the same lines.

That no precision of a declaration gets into a text without precisions is said of two shaders that
differ in nothing else: the plain dialect makes the same of both.

None of this needs a checked shader. Conditions and array lengths may name anything, and where
generation does not fail on them, what is enabled can still be read off the context.
-/

namespace ShaderPipeline

open ShaderPipeline.Language

/-! ## Shaders without precisions -/

namespace Language

/-- A declaration without its precision. -/
def Declaration.withoutPrecision (declared : Declaration) : Declaration :=
  { declared with precision := none }

/-- An attribute or output without its precision. -/
def SlotDecl.withoutPrecision (slot : SlotDecl) : SlotDecl :=
  { slot with declaration := slot.declaration.withoutPrecision }

/-- A shader in which nothing is declared with a precision. -/
def Shader.withoutPrecisions (shader : Shader) : Shader :=
  { shader with
    uniforms := shader.uniforms.map (Option.map (·.withoutPrecision))
    attributes := shader.attributes.map (·.withoutPrecision)
    varyings := shader.varyings.map (·.withoutPrecision)
    outputs := shader.outputs.map (·.withoutPrecision) }

/-- The uniforms of a shader without precisions. -/
theorem Shader.filterMap_uniforms_withoutPrecisions (shader : Shader) :
    shader.withoutPrecisions.uniforms.filterMap id =
      (shader.uniforms.filterMap id).map (·.withoutPrecision) := by
  simp [withoutPrecisions, List.filterMap_map, List.map_filterMap]

end Language

namespace Glsl

/-! ## Computations that end alike -/

section

variable {ε α β γ δ : Type}

/-- Two computations end with related results or with the same error. -/
inductive EndAlike (related : α → β → Prop) : Except ε α → Except ε β → Prop where
  | ok {a : α} {b : β} (h : related a b) : EndAlike related (.ok a) (.ok b)
  | error (e : ε) : EndAlike related (.error e) (.error e)

namespace EndAlike

variable {related : α → β → Prop} {after : γ → δ → Prop} {x : Except ε α} {y : Except ε β}

/-- Computations stay alike if what follows is alike for related results. -/
theorem bind {f : α → Except ε γ} {g : β → Except ε δ} (h : EndAlike related x y)
    (hnext : ∀ a b, related a b → EndAlike after (f a) (g b)) :
    EndAlike after (x >>= f) (y >>= g) := by
  cases h with
  | ok hab => exact hnext _ _ hab
  | error e => exact .error e

/-- What follows one computation in two ways is alike if it is so for every result. -/
theorem bind_same {f : α → Except ε γ} {g : α → Except ε δ}
    (h : ∀ a, EndAlike after (f a) (g a)) : EndAlike after (x >>= f) (x >>= g) := by
  cases x with
  | ok a => exact h a
  | error e => exact .error e

/-- Computations that end with the same results are the same. -/
theorem eq {x y : Except ε α} (h : EndAlike Eq x y) : x = y := by
  cases h with
  | ok hab => rw [hab]
  | error e => rfl

/-- Traversals of two lists end alike if they do so at every place. -/
theorem mapM {f : γ → Except ε α} {g : δ → Except ε β} {left : List γ} {right : List δ}
    (h : List.Forall₂ (fun c d => EndAlike related (f c) (g d)) left right) :
    EndAlike (List.Forall₂ related) (left.mapM f) (right.mapM g) := by
  induction h with
  | nil => exact .ok .nil
  | cons hfirst _ ih =>
    rw [List.mapM_cons, List.mapM_cons]
    refine hfirst.bind fun a b hab => ?_
    exact ih.bind fun as bs habs => .ok (.cons hab habs)

end EndAlike

/-- A computation in two parts ends well if both parts do. -/
theorem exists_of_bind_eq_ok {x : Except ε α} {f : α → Except ε β} {b : β}
    (h : (x >>= f) = .ok b) : ∃ a, x = .ok a ∧ f a = .ok b := by
  cases x with
  | ok a => exact ⟨a, rfl, h⟩
  | error e => cases h

/-- The results of a traversal belong to the elements of the list, place by place. -/
theorem forall₂_of_mapM {f : α → Except ε β} {as : List α} {bs : List β}
    (h : as.mapM f = .ok bs) : List.Forall₂ (fun a b => f a = .ok b) as bs := by
  induction as generalizing bs with
  | nil =>
    obtain rfl := Except.ok.inj h
    exact .nil
  | cons a as ih =>
    rw [List.mapM_cons] at h
    obtain ⟨b, hfirst, h⟩ := exists_of_bind_eq_ok h
    obtain ⟨rest, hrest, h⟩ := exists_of_bind_eq_ok h
    obtain rfl := Except.ok.inj h
    exact .cons hfirst (ih hrest)

end

/-! ## Lines of declarations -/

/-- A line that declares something, cut where a precision belongs. -/
structure DeclarationLine where
  before : String
  precision : Option Precision
  after : String

namespace DeclarationLine

/-- The line without a precision. -/
def bare (line : DeclarationLine) : String := line.before ++ line.after

/-- The line with the keyword of its precision, if it has one, and a space. -/
def qualified (line : DeclarationLine) : String :=
  let qualifier :=
    match line.precision with
    | some precision => precision.keyword ++ " "
    | none => ""
  line.before ++ qualifier ++ line.after

/-- A line declares something behind some words. It has the precision of the declaration, and the
type stands right behind the place of the precision. Only an array has a length. -/
structure IsOf (entry : String × Declaration) (line : DeclarationLine) : Prop where
  before_eq : line.before = entry.1
  precision_eq : line.precision = entry.2.precision
  after_eq : ∃ length : Option Nat, length.isSome = entry.2.array.isSome ∧
    line.after = entry.2.type.keyword ++ " " ++ entry.2.name ++
      length.elim "" (fun n => "[" ++ toString n ++ "]") ++ ";\n"

end DeclarationLine

/-- The uniforms with the word in front of them. -/
def uniformEntries (shader : Shader) : List (String × Declaration) :=
  (shader.uniforms.filterMap id).map fun declared => ("uniform ", declared)

/-- The enabled declarations with a slot and the words in front of them. -/
def slotEntries (context : PropertyContext) (direction : Direction) (slots : List SlotDecl) :
    List (String × Declaration) :=
  (slots.filter (enabledIn context)).map fun slot =>
    ("layout(location = " ++ toString slot.slot ++ ") " ++ direction.keyword ++ " ",
      slot.declaration)

/-- The varyings with the word in front of them. -/
def varyingEntries (direction : Direction) (shader : Shader) : List (String × Declaration) :=
  shader.varyings.map fun declared => (direction.keyword ++ " ", declared)

/-- What a stage reads and writes, with the words in front of it. -/
def interfaceEntries (shader : Shader) (context : PropertyContext) :
    StageKind → List (String × Declaration)
  | .vertex => slotEntries context .input shader.attributes ++ varyingEntries .output shader
  | .fragment => varyingEntries .input shader ++ slotEntries context .output shader.outputs

/-- The text of a stage with the given header and its lines written in the given way. -/
def stageWith (header : String) (write : DeclarationLine → String)
    (uniforms interface : List DeclarationLine) (code : String) : String :=
  header ++ "\n" ++ String.join (uniforms.map write) ++ "\n" ++
    String.join (interface.map write) ++ "\n" ++ code

/-- Two texts of a stage that differ in the header and in precisions only. The second has, in every
line of a uniform or of what the stage reads and writes, the precision with which that was declared,
and the first has none there. -/
def InBothDialects (shader : Shader) (context : PropertyContext) (stage : StageKind)
    (plain precise : String) : Prop :=
  ∃ uniforms interface code,
    List.Forall₂ DeclarationLine.IsOf (uniformEntries shader) uniforms ∧
    List.Forall₂ DeclarationLine.IsOf (interfaceEntries shader context stage) interface ∧
    plain = stageWith (Dialect.header .gl330) (·.bare) uniforms interface code ∧
    precise = stageWith (Dialect.header .gles300) (·.qualified) uniforms interface code

/-! ## Lines of a layout -/

/-- The line of a declaration behind some words. -/
def PlainDeclaration.lineAfter (words : String) (d : PlainDeclaration) : DeclarationLine :=
  ⟨words, d.precision, d.text .gl330 ++ ";\n"⟩

/-- The words in front of an interface variable. -/
def InterfaceVariable.words (v : InterfaceVariable) : String :=
  let layout :=
    match v.location with
    | some location => "layout(location = " ++ toString location ++ ") "
    | none => ""
  layout ++ v.direction.keyword ++ " "

namespace PlainDeclaration

/-- The plain dialect writes a line without its precision. -/
theorem bare_lineAfter (words : String) (d : PlainDeclaration) :
    (d.lineAfter words).bare = words ++ d.text .gl330 ++ ";\n" := by
  rw [DeclarationLine.bare, lineAfter, String.append_assoc]

/-- The other dialect writes a line with its precision. -/
theorem qualified_lineAfter (words : String) (d : PlainDeclaration) :
    (d.lineAfter words).qualified = words ++ d.text .gles300 ++ ";\n" := by
  obtain ⟨precision, type, name, length⟩ := d
  cases precision <;>
    simp [DeclarationLine.qualified, lineAfter, text, Dialect.writesPrecision, String.append_assoc]

/-- The plain dialect writes the type first. -/
theorem text_gl330 (d : PlainDeclaration) :
    d.text .gl330 = d.type.keyword ++ " " ++ d.name ++
      d.length.elim "" (fun n => "[" ++ toString n ++ "]") := by
  obtain ⟨precision, type, name, length⟩ := d
  cases precision <;> cases length <;> simp [text, Dialect.writesPrecision]

/-- A declaration is written in a line of its own. -/
theorem isOf_lineAfter {known : Values} {declared : Declaration} {d : PlainDeclaration}
    (h : known.plain declared = .ok d) (words : String) :
    DeclarationLine.IsOf (words, declared) (d.lineAfter words) := by
  have hcopied : d.precision = declared.precision ∧ d.type = declared.type ∧
      d.name = declared.name ∧ d.length.isSome = declared.array.isSome := by
    unfold Values.plain at h
    split at h
    · rename_i harray
      obtain rfl := Except.ok.inj h
      exact ⟨rfl, rfl, rfl, by rw [harray]; rfl⟩
    · rename_i harray
      obtain ⟨length, -, h⟩ := exists_of_bind_eq_ok h
      obtain rfl := Except.ok.inj h
      exact ⟨rfl, rfl, rfl, by rw [harray]; rfl⟩
  obtain ⟨hprecision, htype, hname, hlength⟩ := hcopied
  exact ⟨rfl, hprecision, d.length, hlength, by rw [lineAfter, text_gl330, htype, hname]⟩

end PlainDeclaration

namespace InterfaceVariable

/-- The line of an interface variable. -/
def declarationLine (v : InterfaceVariable) : DeclarationLine := v.declaration.lineAfter v.words

/-- The plain dialect writes an interface variable without its precision. -/
theorem line_gl330 (v : InterfaceVariable) : v.line .gl330 = v.declarationLine.bare := by
  rw [declarationLine, PlainDeclaration.bare_lineAfter]
  rfl

/-- The other dialect writes an interface variable with its precision. -/
theorem line_gles300 (v : InterfaceVariable) : v.line .gles300 = v.declarationLine.qualified := by
  rw [declarationLine, PlainDeclaration.qualified_lineAfter]
  rfl

end InterfaceVariable

section

variable {shader : Shader} {context : PropertyContext} {known : Values}

/-- A truth value among the values of a shader is that of the context, since no other value is
promoted to one. -/
theorem get?_eq_of_lookup_bool (hknown : values shader context = .ok known) {name : String}
    {value : Bool} (h : known.lookup name = some (.bool value)) :
    context.get? name = some (.bool value) := by
  have hall : known = (shader.properties.map fun d => (d.name, valueOf context d)).reverse := by
    rw [values_eq, outcome_eq_ok_iff] at hknown
    exact hknown.2.symm
  obtain ⟨front, back, hmem, -⟩ := List.lookup_eq_some_iff.1 h
  have hentry : (name, PropertyValue.bool value) ∈
      (shader.properties.map fun d => (d.name, valueOf context d)).reverse := by
    rw [← hall, hmem]
    simp
  obtain ⟨declared, hdeclared, heq⟩ := List.mem_map.1 (List.mem_reverse.1 hentry)
  obtain ⟨rfl, hvalue⟩ := Prod.mk.inj heq
  have hget := valueOf_eq_of_values hknown hdeclared
  rw [hvalue] at hget
  obtain ⟨given, hgiven, hpromoted⟩ := Option.map_eq_some_iff.1 hget
  rw [hgiven]
  unfold promote at hpromoted
  split at hpromoted
  · cases hpromoted
  · rw [hpromoted]

/-- Where a condition can be decided, it is decided as the context says. -/
theorem enabledIn_eq_of_holds (hknown : values shader context = .ok known) {slot : SlotDecl}
    {present : Bool} (h : known.holds slot.condition = .ok present) :
    enabledIn context slot = present := by
  unfold enabledIn
  cases hcondition : slot.condition with
  | none =>
    rw [hcondition] at h
    exact Except.ok.inj h
  | some reference =>
    rw [hcondition] at h
    obtain ⟨value, hvalue, h⟩ := exists_of_bind_eq_ok h
    have hlookup : known.lookup reference.name = some value := by
      unfold Values.get at hvalue
      split at hvalue
      · rename_i found hfound
        rw [hfound, Except.ok.inj hvalue]
      · cases hvalue
    cases value with
    | bool enabled =>
      obtain rfl : enabled = present := Except.ok.inj h
      rw [Option.all_some, get?_eq_of_lookup_bool hknown hlookup]
      cases enabled <;> rfl
    | _ => cases h

/-- Where all conditions can be decided, the enabled declarations are those that the context
enables. -/
theorem enabled_eq_filter (hknown : values shader context = .ok known) {slots found : List SlotDecl}
    (h : known.enabled slots = .ok found) : found = slots.filter (enabledIn context) := by
  induction slots generalizing found with
  | nil => exact (Except.ok.inj h).symm
  | cons slot slots ih =>
    obtain ⟨present, hpresent, h⟩ := exists_of_bind_eq_ok h
    obtain ⟨others, hothers, h⟩ := exists_of_bind_eq_ok h
    obtain rfl := Except.ok.inj h
    rw [List.filter_cons, enabledIn_eq_of_holds hknown hpresent, ih hothers]

/-- The lines of the uniforms. -/
theorem isOf_uniforms {plains : List PlainDeclaration} (h : known.uniforms shader = .ok plains) :
    List.Forall₂ DeclarationLine.IsOf (uniformEntries shader)
      (plains.map (·.lineAfter "uniform ")) := by
  rw [uniformEntries, List.forall₂_map_left_iff, List.forall₂_map_right_iff]
  exact (forall₂_of_mapM h).imp fun declared d hd => PlainDeclaration.isOf_lineAfter hd _

/-- The lines of the declarations with a slot. -/
theorem isOf_slotVariables (hknown : values shader context = .ok known) {direction : Direction}
    {slots : List SlotDecl} {vars : List InterfaceVariable}
    (h : known.slotVariables direction slots = .ok vars) :
    List.Forall₂ DeclarationLine.IsOf (slotEntries context direction slots)
      (vars.map (·.declarationLine)) := by
  obtain ⟨present, hpresent, h⟩ := exists_of_bind_eq_ok h
  obtain rfl := enabled_eq_filter hknown hpresent
  rw [slotEntries, List.forall₂_map_left_iff, List.forall₂_map_right_iff]
  refine (forall₂_of_mapM h).imp fun slot v hv => ?_
  obtain ⟨d, hd, hv⟩ := exists_of_bind_eq_ok hv
  obtain rfl := Except.ok.inj hv
  exact PlainDeclaration.isOf_lineAfter hd _

/-- The lines of the varyings. -/
theorem isOf_varyings {direction : Direction} {vars : List InterfaceVariable}
    (h : known.varyings direction shader = .ok vars) :
    List.Forall₂ DeclarationLine.IsOf (varyingEntries direction shader)
      (vars.map (·.declarationLine)) := by
  rw [varyingEntries, List.forall₂_map_left_iff, List.forall₂_map_right_iff]
  refine (forall₂_of_mapM h).imp fun declared v hv => ?_
  obtain ⟨d, hd, hv⟩ := exists_of_bind_eq_ok hv
  obtain rfl := Except.ok.inj hv
  have hwords : (InterfaceVariable.mk none direction d).words = direction.keyword ++ " " := by
    simp [InterfaceVariable.words]
  rw [InterfaceVariable.declarationLine, hwords]
  exact PlainDeclaration.isOf_lineAfter hd _

/-- The lines of what a stage reads and writes. -/
theorem isOf_interface (hknown : values shader context = .ok known) {stage : StageKind}
    {vars : List InterfaceVariable} (h : known.interface shader stage = .ok vars) :
    List.Forall₂ DeclarationLine.IsOf (interfaceEntries shader context stage)
      (vars.map (·.declarationLine)) := by
  cases stage with
  | vertex =>
    obtain ⟨inputs, hinputs, h⟩ := exists_of_bind_eq_ok h
    obtain ⟨outputs, houtputs, h⟩ := exists_of_bind_eq_ok h
    obtain rfl := Except.ok.inj h
    rw [List.map_append]
    exact List.rel_append (isOf_slotVariables hknown hinputs) (isOf_varyings houtputs)
  | fragment =>
    obtain ⟨inputs, hinputs, h⟩ := exists_of_bind_eq_ok h
    obtain ⟨outputs, houtputs, h⟩ := exists_of_bind_eq_ok h
    obtain rfl := Except.ok.inj h
    rw [List.map_append]
    exact List.rel_append (isOf_varyings hinputs) (isOf_slotVariables hknown houtputs)

/-- A layout is written in both dialects with the same lines. -/
theorem inBothDialects_of_layout {stage : StageKind} {found : StageLayout}
    (h : layout shader context stage = .ok found) :
    InBothDialects shader context stage (found.text .gl330) (found.text .gles300) := by
  obtain ⟨known, hknown, h⟩ := exists_of_bind_eq_ok h
  obtain ⟨uniforms, huniforms, h⟩ := exists_of_bind_eq_ok h
  obtain ⟨vars, hvars, h⟩ := exists_of_bind_eq_ok h
  obtain ⟨shared, -, h⟩ := exists_of_bind_eq_ok h
  obtain ⟨main, -, h⟩ := exists_of_bind_eq_ok h
  obtain rfl := Except.ok.inj h
  refine ⟨_, _, StageLayout.code ⟨uniforms, vars, shared, main⟩, isOf_uniforms huniforms,
    isOf_interface hknown hvars, ?_, ?_⟩
  · simp [StageLayout.text, StageLayout.preamble, StageLayout.interfaceText, stageWith,
      Function.comp_def, InterfaceVariable.line_gl330, PlainDeclaration.bare_lineAfter,
      String.append_assoc]
  · simp [StageLayout.text, StageLayout.preamble, StageLayout.interfaceText, stageWith,
      Function.comp_def, InterfaceVariable.line_gles300, PlainDeclaration.qualified_lineAfter,
      String.append_assoc]

end

/-! ## The plain dialect without precisions -/

/-- The plain dialect writes a declaration as if it had no precision. -/
theorem plain_withoutPrecision (known : Values) (declared : Declaration) :
    EndAlike (fun d e => d.text .gl330 = e.text .gl330) (known.plain declared.withoutPrecision)
      (known.plain declared) := by
  have htext (type : GlslType) (name : String) (length : Option Nat) :
      PlainDeclaration.text .gl330 ⟨none, type, name, length⟩ =
        PlainDeclaration.text .gl330 ⟨declared.precision, type, name, length⟩ := by
    rw [PlainDeclaration.text_gl330, PlainDeclaration.text_gl330]
  unfold Values.plain Declaration.withoutPrecision
  cases declared.array with
  | none => exact .ok (htext _ _ _)
  | some length => exact .bind_same fun n => .ok (htext _ _ _)

/-- What is enabled does not depend on precisions. -/
theorem enabled_withoutPrecision (known : Values) (slots : List SlotDecl) :
    EndAlike (fun left right => left = right.map (·.withoutPrecision))
      (known.enabled (slots.map (·.withoutPrecision))) (known.enabled slots) := by
  induction slots with
  | nil => exact .ok rfl
  | cons slot slots ih =>
    refine .bind_same fun present => ?_
    refine ih.bind fun left right hleft => ?_
    subst hleft
    refine .ok ?_
    cases present <;> rfl

/-- The uniforms without precisions. -/
theorem uniforms_withoutPrecisions (known : Values) (shader : Shader) :
    EndAlike (List.Forall₂ fun d e => d.text .gl330 = e.text .gl330)
      (known.uniforms shader.withoutPrecisions) (known.uniforms shader) := by
  refine .mapM ?_
  rw [Shader.filterMap_uniforms_withoutPrecisions, List.forall₂_map_left_iff, List.forall₂_same]
  exact fun declared _ => plain_withoutPrecision known declared

/-- The declarations with a slot without precisions. -/
theorem slotVariables_withoutPrecision (known : Values) (direction : Direction)
    (slots : List SlotDecl) :
    EndAlike (List.Forall₂ fun v w => v.line .gl330 = w.line .gl330)
      (known.slotVariables direction (slots.map (·.withoutPrecision)))
      (known.slotVariables direction slots) := by
  refine (enabled_withoutPrecision known slots).bind fun left right hleft => ?_
  subst hleft
  refine .mapM ?_
  rw [List.forall₂_map_left_iff, List.forall₂_same]
  intro slot _
  refine (plain_withoutPrecision known slot.declaration).bind fun d e hde => .ok ?_
  rw [InterfaceVariable.line, InterfaceVariable.line, hde]
  rfl

/-- The varyings without precisions. -/
theorem varyings_withoutPrecisions (known : Values) (direction : Direction) (shader : Shader) :
    EndAlike (List.Forall₂ fun v w => v.line .gl330 = w.line .gl330)
      (known.varyings direction shader.withoutPrecisions) (known.varyings direction shader) := by
  refine .mapM ?_
  rw [Shader.withoutPrecisions, List.forall₂_map_left_iff, List.forall₂_same]
  intro declared _
  refine (plain_withoutPrecision known declared).bind fun d e hde => .ok ?_
  rw [InterfaceVariable.line, InterfaceVariable.line, hde]

/-- What a stage reads and writes, without precisions. -/
theorem interface_withoutPrecisions (known : Values) (shader : Shader) (stage : StageKind) :
    EndAlike (List.Forall₂ fun v w => v.line .gl330 = w.line .gl330)
      (known.interface shader.withoutPrecisions stage) (known.interface shader stage) := by
  cases stage with
  | vertex =>
    refine (slotVariables_withoutPrecision known .input shader.attributes).bind fun _ _ hslots => ?_
    refine (varyings_withoutPrecisions known .output shader).bind fun _ _ hvaryings => ?_
    exact .ok (List.rel_append hslots hvaryings)
  | fragment =>
    refine (varyings_withoutPrecisions known .input shader).bind fun _ _ hvaryings => ?_
    refine (slotVariables_withoutPrecision known .output shader.outputs).bind fun _ _ hslots => ?_
    exact .ok (List.rel_append hvaryings hslots)

/-- Lists are written alike if their elements are. -/
theorem map_eq_of_forall₂ {α β : Type} {write : α → β} {left right : List α}
    (h : List.Forall₂ (fun a b => write a = write b) left right) :
    left.map write = right.map write := by
  rw [← List.forall₂_eq_eq_eq, List.forall₂_map_left_iff, List.forall₂_map_right_iff]
  exact h

/-- The plain dialect writes a stage as if nothing had a precision. -/
theorem stageText_withoutPrecisions (shader : Shader) (context : PropertyContext)
    (stage : StageKind) :
    stageText .gl330 shader.withoutPrecisions context stage =
      stageText .gl330 shader context stage := by
  have hstage : shader.withoutPrecisions.stage stage = shader.stage stage := by
    cases stage <;> rfl
  refine EndAlike.eq (.bind ?_ fun left right htext => .ok htext)
  refine .bind_same fun known => ?_
  refine (uniforms_withoutPrecisions known shader).bind fun _ _ huniforms => ?_
  refine (interface_withoutPrecisions known shader stage).bind fun _ _ hinterface => ?_
  refine .bind_same fun shared => ?_
  rw [hstage]
  refine .bind_same fun main => .ok ?_
  have hlines := map_eq_of_forall₂ (huniforms.imp fun d e hde =>
    congrArg (fun text => "uniform " ++ text ++ ";\n") hde)
  simp only [StageLayout.text, StageLayout.preamble, StageLayout.interfaceText, hlines,
    map_eq_of_forall₂ hinterface]
  rfl

/-! ## Both dialects -/

/-- The texts of a stage in both dialects. -/
theorem stageText_inBothDialects (shader : Shader) (context : PropertyContext)
    (stage : StageKind) :
    EndAlike (InBothDialects shader context stage) (stageText .gl330 shader context stage)
      (stageText .gles300 shader context stage) := by
  unfold stageText
  cases hlayout : layout shader context stage with
  | ok found => exact .ok (inBothDialects_of_layout hlayout)
  | error e => exact .error e

/-- The texts of both stages in both dialects. -/
theorem stageTexts_inBothDialects (shader : Shader) (context : PropertyContext) :
    EndAlike (fun plain precise => InBothDialects shader context .vertex plain.1 precise.1 ∧
        InBothDialects shader context .fragment plain.2 precise.2)
      (stageTexts .gl330 shader context) (stageTexts .gles300 shader context) := by
  refine (stageText_inBothDialects shader context .vertex).bind fun _ _ hvertex => ?_
  refine (stageText_inBothDialects shader context .fragment).bind fun _ _ hfragment => ?_
  exact .ok ⟨hvertex, hfragment⟩

/-- Two program sources of a shader that differ in the dialect of their texts only. -/
structure TwoPrograms (shader : Shader) (context : PropertyContext)
    (plain precise : ProgramSource) : Prop where
  text_differ : ∀ stage,
    InBothDialects shader context stage (plain.stage stage) (precise.stage stage)
  attributes_eq : plain.attributes = precise.attributes
  uniforms_eq : plain.uniforms = precise.uniforms

/-- The program sources of a shader in both dialects. -/
theorem programSource_inBothDialects (shader : Shader) (context : PropertyContext) :
    EndAlike (TwoPrograms shader context) (programSource .gl330 shader context)
      (programSource .gles300 shader context) := by
  refine (stageTexts_inBothDialects shader context).bind fun plain precise htexts => ?_
  refine .bind_same fun known => .bind_same fun present => .ok ⟨fun stage => ?_, rfl, rfl⟩
  cases stage with
  | vertex => exact htexts.1
  | fragment => exact htexts.2

/-- The dialects differ in the header and in precisions only. Generation ends alike in both, for
each stage, for both stages and for the program source; and where nothing but precisions is
different about two shaders, their texts in the plain dialect are the same. -/
theorem dialects_alike (shader : Shader) (context : PropertyContext) :
    (∀ stage, EndAlike (InBothDialects shader context stage)
      (stageText .gl330 shader context stage) (stageText .gles300 shader context stage)) ∧
    EndAlike (fun plain precise => InBothDialects shader context .vertex plain.1 precise.1 ∧
        InBothDialects shader context .fragment plain.2 precise.2)
      (stageTexts .gl330 shader context) (stageTexts .gles300 shader context) ∧
    EndAlike (TwoPrograms shader context) (programSource .gl330 shader context)
      (programSource .gles300 shader context) ∧
    ∀ other : Shader, other.withoutPrecisions = shader.withoutPrecisions → ∀ stage,
      stageText .gl330 other context stage = stageText .gl330 shader context stage := by
  refine ⟨stageText_inBothDialects shader context, stageTexts_inBothDialects shader context,
    programSource_inBothDialects shader context, fun other hother stage => ?_⟩
  rw [← stageText_withoutPrecisions, hother, stageText_withoutPrecisions]

end Glsl

end ShaderPipeline
