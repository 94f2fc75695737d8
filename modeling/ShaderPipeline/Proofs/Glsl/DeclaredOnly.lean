import ShaderPipeline.Glsl.Generate
import ShaderPipeline.Proofs.Language.Resolution

/-!
# Generation sees declared properties only

Two contexts give a shader the same programs if they cannot be told apart by the properties that
the shader declares. Since an integer is promoted where a floating-point number is declared, an
integer cannot be told from the number that it is promoted to if all declarations of the name ask
for a floating-point number. Nothing else in a context is looked at, so a context may gain, lose or
change any property that is not declared.

The shader is any shader, also one that no source compiles to. Names may be declared twice and
references may name what is not declared: both are looked up in the resolved values, which are the
same for the two contexts (`values_congr`).
-/

namespace ShaderPipeline

open ShaderPipeline.Language

/-! ## Looking names up in contexts -/

namespace PropertyEntry

/-- A name is looked up in the first entry, and in the others if it is not the one there. -/
theorem lookup_cons (entry : PropertyEntry) (rest : List PropertyEntry) (name : String) :
    (entry :: rest).lookup name = if name = entry.1 then some entry.2 else rest.lookup name := by
  rw [List.lookup_cons]
  by_cases hname : name = entry.1
  · simp [hname]
  · rw [beq_false_of_ne hname, if_neg hname]

/-- A name is found after an insertion with the inserted value, or as before. -/
theorem lookup_insert (name : String) (value : PropertyValue) (entries : List PropertyEntry)
    (other : String) :
    (insert name value entries).lookup other =
      if other = name then some value else entries.lookup other := by
  induction entries with
  | nil => exact lookup_cons (name, value) [] other
  | cons entry rest ih =>
    unfold insert
    split
    · exact lookup_cons (name, value) (entry :: rest) other
    · split
      · rename_i hname
        rw [lookup_cons, lookup_cons, ← hname]
        by_cases hother : other = name <;> simp [hother]
      · rename_i hname
        rw [lookup_cons, lookup_cons, ih]
        by_cases hother : other = entry.1
        · rw [if_pos hother, if_pos hother, if_neg fun heq => hname (heq.symm.trans hother)]
        · rw [if_neg hother, if_neg hother]

/-- Where no name has two entries, their order makes no difference. -/
theorem lookup_reverse {entries : List PropertyEntry} (h : (entries.map Prod.fst).Nodup)
    (name : String) : entries.reverse.lookup name = entries.lookup name := by
  have hreverse : (entries.reverse.map Prod.fst).Nodup := by
    rw [List.map_reverse, List.nodup_reverse]
    exact h
  apply Option.ext
  intro value
  rw [Draft.lookup_eq_some_iff_mem hreverse, Draft.lookup_eq_some_iff_mem h, List.mem_reverse]

end PropertyEntry

namespace PropertyContext

/-- Supplying a value gives it to its name and leaves all others. -/
theorem get?_supply (context : PropertyContext) (name : String) (value : PropertyValue)
    (other : String) :
    (context.supply name value).get? other =
      if other = name then some value else context.get? other :=
  PropertyEntry.lookup_insert name value context.entries other

/-- After entries were supplied, a name has the value of the last of them, or the one before. -/
theorem get?_supplyAll (context : PropertyContext) (entries : List PropertyEntry) (name : String) :
    (context.supplyAll entries).get? name =
      (entries.reverse.lookup name).or (context.get? name) := by
  induction entries generalizing context with
  | nil => rfl
  | cons entry rest ih =>
    have hrest : (context.supplyAll (entry :: rest)).get? name = _ :=
      ih (context.supply entry.1 entry.2)
    rw [hrest, get?_supply, List.reverse_cons, List.lookup_append, Option.or_assoc,
      PropertyEntry.lookup_cons]
    by_cases hname : name = entry.1 <;> simp [hname]

/-- No name has two entries. -/
theorem nodup_names (context : PropertyContext) : (context.toList.map Prod.fst).Nodup :=
  List.pairwise_map.2 (context.sorted.imp fun hlt => String.ne_of_lt hlt)

/-- A name has a value exactly if that is its entry. -/
theorem get?_eq_some_iff {context : PropertyContext} {name : String} {value : PropertyValue} :
    context.get? name = some value ↔ (name, value) ∈ context.toList :=
  Draft.lookup_eq_some_iff_mem context.nodup_names

/-- In merged contexts a name has the value of the overriding one, or else that of the other. -/
theorem get?_mergedWith (context overrides : PropertyContext) (name : String) :
    (context.mergedWith overrides).get? name =
      (overrides.get? name).or (context.get? name) := by
  have hreverse : overrides.entries.reverse.lookup name = overrides.get? name :=
    PropertyEntry.lookup_reverse overrides.nodup_names name
  rw [mergedWith, get?_supplyAll, hreverse]

end PropertyContext

namespace Glsl

/-! ## Contexts that a shader cannot tell apart -/

/-- A shader declares a property. -/
def Declares (shader : Shader) (name : String) : Prop :=
  ∃ declared ∈ shader.properties, declared.name = name

/-- Values of a name that the declarations of a shader cannot tell apart: the same one or none, or
an integer and its floating-point number where only the latter is asked for. -/
inductive Indistinct (shader : Shader) (name : String) :
    Option PropertyValue → Option PropertyValue → Prop where
  | same (value : Option PropertyValue) : Indistinct shader name value value
  | promoted (hfloat : ∀ declared ∈ shader.properties, declared.name = name →
      declared.type = .float) (n : Int) :
    Indistinct shader name (some (.int n)) (some (.float (.ofInt n)))
  | demoted (hfloat : ∀ declared ∈ shader.properties, declared.name = name →
      declared.type = .float) (n : Int) :
    Indistinct shader name (some (.float (.ofInt n))) (some (.int n))

/-- Contexts that the declared properties of a shader cannot tell apart. -/
def Agree (shader : Shader) (a b : PropertyContext) : Prop :=
  ∀ declared ∈ shader.properties, Indistinct shader declared.name (a.get? declared.name)
    (b.get? declared.name)

/-- Contexts that differ in entries of undeclared properties only. -/
def DifferUndeclared (shader : Shader) (a b : PropertyContext) : Prop :=
  ∀ entry : PropertyEntry, Declares shader entry.1 → (entry ∈ a.toList ↔ entry ∈ b.toList)

/-- A shader has the same programs in two contexts, or fails with the same errors. -/
structure SamePrograms (dialect : Dialect) (shader : Shader) (a b : PropertyContext) : Prop where
  stage_eq : ∀ stage, stageText dialect shader a stage = stageText dialect shader b stage
  texts_eq : stageTexts dialect shader a = stageTexts dialect shader b
  program_eq : programSource dialect shader a = programSource dialect shader b

variable {shader : Shader} {a b : PropertyContext}

/-- A declaration gets the same value from values that cannot be told apart. -/
theorem declaredValue_congr {declared : PropertyDecl} (hmem : declared ∈ shader.properties)
    (h : Indistinct shader declared.name (a.get? declared.name) (b.get? declared.name)) :
    declaredValue a declared = declaredValue b declared := by
  unfold declaredValue
  generalize a.get? declared.name = left at h
  generalize b.get? declared.name = right at h
  cases h with
  | same value => rfl
  | promoted hfloat n =>
    rw [hfloat declared hmem rfl]
    rfl
  | demoted hfloat n =>
    rw [hfloat declared hmem rfl]
    rfl

/-- Declarations one after the other get the same values, and fail at the same one. -/
theorem ofDeclarations_congr {declared : List PropertyDecl} (known : Values)
    (h : ∀ d ∈ declared, declaredValue a d = declaredValue b d) :
    Values.ofDeclarations a declared known = Values.ofDeclarations b declared known := by
  induction declared generalizing known with
  | nil => rfl
  | cons first rest ih =>
    rw [Values.ofDeclarations, Values.ofDeclarations, h first List.mem_cons_self]
    congr 1
    funext value
    exact ih _ fun d hd => h d (List.mem_cons_of_mem first hd)

/-- The values of a shader are the same in contexts that it cannot tell apart. -/
theorem values_congr (h : Agree shader a b) : values shader a = values shader b :=
  ofDeclarations_congr [] fun declared hmem => declaredValue_congr hmem (h declared hmem)

/-- All that is generated comes from the values of the shader. -/
theorem samePrograms_of_values (h : values shader a = values shader b) (dialect : Dialect) :
    SamePrograms dialect shader a b := by
  have hstage : ∀ stage, stageText dialect shader a stage = stageText dialect shader b stage := by
    intro stage
    rw [stageText, stageText, layout, layout, h]
  have htexts : stageTexts dialect shader a = stageTexts dialect shader b := by
    rw [stageTexts, stageTexts, hstage, hstage]
  exact ⟨hstage, htexts, by rw [programSource, programSource, htexts, h]⟩

/-- Contexts with the same declared properties cannot be told apart. -/
theorem agree_of_get? (h : ∀ name, Declares shader name → a.get? name = b.get? name) :
    Agree shader a b := by
  intro declared hmem
  rw [h declared.name ⟨declared, hmem, rfl⟩]
  exact .same _

/-- Entries of undeclared properties make no difference. -/
theorem agree_of_differUndeclared (h : DifferUndeclared shader a b) : Agree shader a b := by
  refine agree_of_get? fun name hname => Option.ext fun value => ?_
  rw [PropertyContext.get?_eq_some_iff, PropertyContext.get?_eq_some_iff]
  exact h (name, value) hname

/-- Generation depends on nothing but the declared properties. -/
theorem samePrograms_of_agree (dialect : Dialect) (shader : Shader) :
    (∀ a b, Agree shader a b → SamePrograms dialect shader a b) ∧
      (∀ a b, DifferUndeclared shader a b → SamePrograms dialect shader a b) ∧
      (∀ context entries, (∀ entry ∈ entries, ¬Declares shader entry.1) →
        SamePrograms dialect shader (context.supplyAll entries) context) ∧
      ∀ context defaults : PropertyContext, (∀ entry ∈ defaults.toList, ¬Declares shader entry.1) →
        SamePrograms dialect shader (defaults.mergedWith context) context := by
  have hagree : ∀ a b, Agree shader a b → SamePrograms dialect shader a b :=
    fun a b h => samePrograms_of_values (values_congr h) dialect
  refine ⟨hagree, fun a b h => hagree a b (agree_of_differUndeclared h), ?_, ?_⟩
  · intro context entries hentries
    refine hagree _ _ (agree_of_get? fun name hname => ?_)
    have hnone : entries.reverse.lookup name = none := by
      rw [List.lookup_eq_none_iff]
      intro entry hentry
      have hne : name ≠ entry.1 := by
        rintro rfl
        exact hentries entry (List.mem_reverse.1 hentry) hname
      exact bne_iff_ne.2 hne
    rw [PropertyContext.get?_supplyAll, hnone, Option.none_or]
  · intro context defaults hdefaults
    refine hagree _ _ (agree_of_get? fun name hname => ?_)
    have hnone : defaults.get? name = none := by
      rw [Option.eq_none_iff_forall_ne_some]
      intro value hvalue
      exact hdefaults _ (PropertyContext.get?_eq_some_iff.1 hvalue) hname
    rw [PropertyContext.get?_mergedWith, hnone, Option.or_none]

/-- A shader that declares a floating-point number and writes it in its vertex stage. -/
def floatShader : Shader where
  properties := [⟨"F", .float, ⟨1, 1⟩⟩]
  uniforms := []
  attributes := []
  varyings := []
  outputs := []
  shared := none
  vertex := [.property ⟨"F", ⟨1, 20⟩⟩]
  fragment := []

/-- An integer gives the programs of the number that it is promoted to. -/
theorem samePrograms_of_agree_floatShader :
    let whole := PropertyContext.ofList [("F", .int 3)]
    let promoted := PropertyContext.ofList [("F", .float (.ofInt 3))]
    whole.get? "F" ≠ promoted.get? "F" ∧ (stageText .gl330 floatShader whole .vertex).isOk ∧
      SamePrograms .gl330 floatShader whole promoted := by
  intro whole promoted
  have hagree : Agree floatShader whole promoted := by
    intro declared hmem
    obtain rfl := List.mem_singleton.1 hmem
    exact .promoted (fun other hother _ => by rw [List.mem_singleton.1 hother]) 3
  exact ⟨by decide +kernel, by decide +kernel,
    (samePrograms_of_agree .gl330 floatShader).1 whole promoted hagree⟩

end Glsl

end ShaderPipeline
