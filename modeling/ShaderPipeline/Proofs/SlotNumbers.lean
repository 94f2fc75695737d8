import ShaderPipeline.Gpu.Simulated
import ShaderPipeline.Proofs.Glsl.Interface
import ShaderPipeline.Proofs.Gpu.SlotCalls
import ShaderPipeline.Proofs.Preparation
import ShaderPipeline.Proofs.SlotFile.LastEntry

/-!
# Slot numbers of created programs

A slot number is written in a shader source or in a slot file, and is used when a program is created
on a device. In between it is the key of a draft, the place in a list with holes and the place in a
table of names, and the two forms of an asset have tables of different lengths. Each form is shown
to give tables that are functions of the slot; what becomes of such tables on a device is the same
for both (`create_of_tables`). `create_slotsArrive` puts this together, for every manager, asset and
device, as long as the device creates what it is asked for.

The caches are those of managers whose compilation is that of this library. What is done when a
creation fails is not covered.
-/

namespace ShaderPipeline

open Glsl Gpu SlotFile ShaderPipeline.Language Grammar

/-! ## Names at the slots of a source -/

section

variable {source : String} {items : List Item} {draft : Draft} {shader : Shader}
  {context : PropertyContext}

/-- The name of the uniform that items declare at a slot. -/
def uniformName? (items : List Item) (slot : Nat) : Option String :=
  (uniformAt? items slot).map (·.name)

/-- The name of the attribute that items declare at a slot, if it is enabled. -/
def attributeName? (context : PropertyContext) (items : List Item) (slot : Nat) : Option String :=
  (((attributes items).filter (enabledIn context)).find? fun declared => declared.slot == slot).map
    (·.declaration.name)

/-- A slot has the name of the uniform that is declared there. -/
theorem uniformName?_eq_some_iff (h : Consistent items) {slot : Nat} {name : String} :
    uniformName? items slot = some name ↔
      ∃ declarator, Item.uniform slot declarator ∈ items ∧ declarator.name = name := by
  rw [uniformName?, Option.map_eq_some_iff]
  simp only [uniformAt?_eq_some_iff h]
  constructor
  · intro hdeclared
    obtain ⟨declared, ⟨declarator, hitem, rfl⟩, hname⟩ := hdeclared
    exact ⟨declarator, hitem, hname⟩
  · intro hitem
    obtain ⟨declarator, hitem, hname⟩ := hitem
    exact ⟨_, ⟨declarator, hitem, rfl⟩, hname⟩

/-- A slot has the name of the enabled attribute that is declared there. -/
theorem attributeName?_eq_some_iff (h : Consistent items) {slot : Nat} {name : String} :
    attributeName? context items slot = some name ↔
      ∃ declared ∈ (attributes items).filter (enabledIn context),
        declared.slot = slot ∧ declared.declaration.name = name := by
  have hslot {found : SlotDecl}
      (hfind : ((attributes items).filter (enabledIn context)).find?
        (fun declared => declared.slot == slot) = some found) : found.slot = slot := by
    have hequal := List.find?_some hfind
    exact beq_iff_eq.1 hequal
  rw [attributeName?, Option.map_eq_some_iff]
  constructor
  · intro hfound
    obtain ⟨declared, hfind, hname⟩ := hfound
    exact ⟨declared, List.mem_of_find?_eq_some hfind, hslot hfind, hname⟩
  · intro hdeclared
    obtain ⟨declared, hmem, hdeclared, hname⟩ := hdeclared
    have hsome : (((attributes items).filter (enabledIn context)).find?
        (fun declared => declared.slot == slot)).isSome = true := by
      rw [List.find?_isSome]
      exact ⟨declared, hmem, beq_iff_eq.2 hdeclared⟩
    obtain ⟨found, hfind⟩ := Option.isSome_iff_exists.1 hsome
    have heq : found = declared := List.inj_on_of_nodup_map (nodup_enabledAttributes h context)
      (List.mem_of_find?_eq_some hfind) hmem ((hslot hfind).trans hdeclared.symm)
    exact ⟨declared, heq ▸ hfind, hname⟩

/-- No two slots have the same name. -/
theorem nodup_uniformNames (h : Consistent items) (count : Nat) :
    ((List.range count).filterMap (uniformName? items)).Nodup := by
  refine List.Nodup.filterMap ?_ List.nodup_range
  intro slot other name hname hother
  obtain ⟨first, hfirst, rfl⟩ := (uniformName?_eq_some_iff h).1 hname
  obtain ⟨second, hsecond, hsame⟩ := (uniformName?_eq_some_iff h).1 hother
  have hitems : Item.uniform slot first = Item.uniform other second :=
    eq_of_name? h hfirst hsecond rfl (congrArg some hsame)
  exact (Item.uniform.inj hitems).1

/-- The uniforms of a generated program are named by the slots of the items. -/
theorem uniforms_programIn (h : Origin source items draft shader) (dialect : Dialect) :
    (programIn dialect shader context).uniforms =
      (List.range (uniformCount items)).map (uniformName? items) :=
  h.uniformNames_eq

/-- The attributes of a generated program are named by the slots of the items. -/
theorem attributes_programIn (h : Origin source items draft shader) (dialect : Dialect) :
    (programIn dialect shader context).attributes =
      (List.range 8).map (attributeName? context items) := by
  have hconsistent := h.wellFormed.toConsistent
  change attributeTable (shader.attributes.filter (enabledIn context)) = _
  rw [attributeTable_of_origin h]
  apply List.ext_getElem
  · rw [length_attributeTable, List.length_map, List.length_range]
    rfl
  · intro slot hslot hrange
    rw [List.getElem_map, List.getElem_range]
    apply Option.ext
    intro name
    have hentry := @getElem?_enabledAttributes items context hconsistent slot name
    rw [List.getElem?_eq_getElem hslot, Option.some.injEq] at hentry
    exact hentry.trans (attributeName?_eq_some_iff hconsistent).symm

end

/-! ## Creating programs -/

section

variable {S P T σ : Type} {config : Config} {cache : Cache} {assets : AssetSource} {name : String}
  {properties : PropertyContext}

/-- A unified source is prepared by compiling it and generating its stages. -/
theorem prepare_unified (hcache : cache.Sound) {source : String} {shader : Shader}
    {generated : ProgramSource}
    (hresolved : (ProgramAsset.resolve assets name).outcome = .ok (.unified source))
    (hcompile : compile source = .ok shader)
    (hgenerated : config.shaderSource shader properties = .ok generated) :
    (config.prepare cache assets name properties).outcome = .ok generated := by
  rw [Config.outcome_prepare_eq, hresolved, Config.outcomeOf, hcache.shaderOf_eq, hcompile,
    Config.sourceOf, hgenerated]
  rfl

/-- A stage pair is prepared by reading its slot file. -/
theorem prepare_stagePair {vertex fragment slots : String} {tables : SlotTables}
    (hresolved : (ProgramAsset.resolve assets name).outcome =
      .ok (.stagePair vertex fragment slots))
    (htables : SlotTables.ofFile slots = .ok tables) :
    (config.prepare cache assets name properties).outcome =
      .ok (tables.programSource vertex fragment) := by
  rw [Config.outcome_prepare_eq, hresolved, Config.outcomeOf, Config.pairSource, htables]

/-- What is created from a prepared source is the assembly of that source. -/
theorem create_assembles {generated : ProgramSource}
    (hprepared : (config.prepare cache assets name properties).outcome = .ok generated)
    (device : Device (graphics S P T) σ) (state : σ) :
    let script := (config.create cache assets name properties).script
    ∃ events made, Assembles generated (script.exchanges device state) events made ∧
      (script.run device state).result = made.mapError .assembly := by
  obtain ⟨hrun, hexchanges⟩ := Config.run_create_of_ok device state hprepared
  exact ⟨_, _, hexchanges ▸ assembles_run generated device state, by rw [hrun]⟩

/-- The slots of a prepared source whose tables are functions of the slot arrive. -/
theorem create_of_tables {generated : ProgramSource}
    (hprepared : (config.prepare cache assets name properties).outcome = .ok generated)
    {uniformName attributeName : Nat → Option String} {count : Nat} (hcount : count ≤ 32)
    (huniforms : generated.uniforms = (List.range count).map uniformName)
    (hattributes : generated.attributes = (List.range 8).map attributeName)
    (device : Device (graphics S P T) σ) (state : σ) :
    let script := (config.create cache assets name properties).script
    (∀ exchange ∈ script.exchanges device state, exchange.refusal? = none) →
      ∃ program, (script.run device state).result = .ok program ∧
        SlotsArrive uniformName attributeName count program (script.exchanges device state) := by
  intro script hcreated
  obtain ⟨events, made, hassembles, hresult⟩ := create_assembles hprepared device state
  obtain ⟨program, rfl, harrive⟩ :=
    hassembles.slotsArrive hcreated hcount huniforms hattributes
  exact ⟨program, hresult, harrive⟩

end

/-- Slot numbers are the same in a source and on the device: those that a unified source declares,
and those that the last entries of a slot file name. -/
theorem create_slotsArrive {S P T σ : Type} (config : Config) (requested : List String)
    (assets : AssetSource) (name : String) (properties : PropertyContext)
    (device : Device (graphics S P T) σ) (state : σ) :
    let script := (config.create (.afterRequests requested) assets name properties).script
    let exchanges := script.exchanges device state
    let context := config.properties.mergedWith properties
    (∀ exchange ∈ exchanges, exchange.refusal? = none) →
      (∀ source shader generated,
        (ProgramAsset.resolve assets name).outcome = .ok (.unified source) →
        compile source = .ok shader →
        programSource config.dialect shader context = .ok generated →
        (∃ items, Source items source.toList ∧ WellFormed items) ∧
          ∀ items, Source items source.toList → WellFormed items →
            ((exchanges.filterMap Exchange.query?).map fun query => query.2.1).Nodup ∧
            ∃ program, (script.run device state).result = .ok program ∧
              SlotsArrive (uniformName? items) (attributeName? context items) (uniformCount items)
                program exchanges) ∧
      ∀ vertex fragment slots tables,
        (ProgramAsset.resolve assets name).outcome = .ok (.stagePair vertex fragment slots) →
        SlotTables.ofFile slots = .ok tables →
        ∃ program, (script.run device state).result = .ok program ∧
          SlotsArrive (lastName (entries slots.toList) .uniform)
            (lastName (entries slots.toList) .attribute) 32 program exchanges := by
  intro script exchanges context hcreated
  constructor
  · intro source shader generated hresolved hcompile hgenerated
    refine ⟨exists_source_of_compile hcompile, ?_⟩
    intro items hsource hwell
    obtain ⟨draft, horigin⟩ := exists_origin_of_source hcompile hsource hwell
    have hprepared := prepare_unified (Cache.sound_afterRequests requested) hresolved hcompile
      hgenerated
    rw [programSource_eq horigin.checked, outcome_eq_ok_iff] at hgenerated
    obtain ⟨-, rfl⟩ := hgenerated
    obtain ⟨program, hresult, harrive⟩ := create_of_tables hprepared horigin.uniformCount_le
      (uniforms_programIn horigin _) (attributes_programIn horigin _) device state hcreated
    have hnodup := nodup_uniformNames hwell.toConsistent (uniformCount items)
    rw [← harrive.names_asked] at hnodup
    exact ⟨hnodup, program, hresult, harrive⟩
  · intro vertex fragment slots tables hresolved htables
    obtain ⟨hattributes, huniforms⟩ := ofFile_eq htables
    exact create_of_tables (prepare_stagePair hresolved htables) (Nat.le_refl 32) huniforms
      hattributes device state hcreated

/-- A source with free slots, slots that are not in order and an attribute that depends on a
property. -/
def unevenSource : String :=
  "property bool P; uniform 3 float f; uniform 1 mat4 m;
attribute 2 vec2 b; attribute 4 vec2 c if P; attribute 0 vec4 a; vertex \x7b\x7d fragment \x7b\x7d"

/-- A slot file in which a slot has two entries. -/
def unevenSlots : String := "Uniform.2=n\nAttribute.1=a\nUniform.02=m\n"

/-- That source as one asset, and a stage pair with that slot file as another. -/
def unevenAssets : AssetSource :=
  .ofList [("unified.program", .ok unevenSource), ("pair.vsh", .ok ""), ("pair.fsh", .ok ""),
    ("pair.properties", .ok unevenSlots)]

/-- A configuration in which the property of that source does not hold. -/
def unevenConfig : Config := ⟨.gles300, .ofList [("P", .bool false)]⟩

/-- A device that has a place for some uniforms. -/
def placingDevice : Simulation := { behaviour := { locations := [("m", 5), ("f", 7)] } }

/-- The creation of one of these programs from a cache that has the source already. -/
def unevenCreation (name : String) : Creation Nat Nat Nat :=
  unevenConfig.create (.afterRequests [unevenSource]) unevenAssets name .empty

/-- The slots of both assets arrive. -/
theorem create_slotsArrive_unevenAssets :
    (∃ items program,
      ((unevenCreation "unified").script.run Simulation.device placingDevice).result = .ok program ∧
      SlotsArrive (uniformName? items)
        (attributeName? (unevenConfig.properties.mergedWith .empty) items) (uniformCount items)
        program ((unevenCreation "unified").script.exchanges Simulation.device placingDevice)) ∧
    ∃ program,
      ((unevenCreation "pair").script.run Simulation.device placingDevice).result = .ok program ∧
      SlotsArrive (lastName (entries unevenSlots.toList) .uniform)
        (lastName (entries unevenSlots.toList) .attribute) 32 program
        ((unevenCreation "pair").script.exchanges Simulation.device placingDevice) := by
  have hunified := create_slotsArrive unevenConfig [unevenSource] unevenAssets "unified" .empty
    Simulation.device placingDevice (by decide +kernel)
  have hpair := create_slotsArrive unevenConfig [unevenSource] unevenAssets "pair" .empty
    Simulation.device placingDevice (by decide +kernel)
  have hok : (compile unevenSource).toOption.any (fun shader =>
      (programSource unevenConfig.dialect shader
        (unevenConfig.properties.mergedWith .empty)).isOk) = true := by
    decide +kernel
  have hread : (SlotTables.ofFile unevenSlots).isOk = true := by decide +kernel
  constructor
  · obtain ⟨shader, generated, hshader, hgenerated⟩ := exists_ok_of_any hok
    obtain ⟨⟨items, hsource, hwell⟩, hall⟩ :=
      hunified.1 unevenSource shader generated (by decide +kernel) hshader hgenerated
    obtain ⟨-, program, hresult, harrive⟩ := hall items hsource hwell
    exact ⟨items, program, hresult, harrive⟩
  · obtain ⟨tables, htables⟩ := exists_ok_of_isOk hread
    exact hpair.2 "" "" unevenSlots tables (by decide +kernel) htables

example :
    ((unevenCreation "unified").script.run Simulation.device placingDevice).result.toOption.map
      (·.locations) = some [-1, 5, -1, 7] := by
  decide +kernel

end ShaderPipeline
