import ShaderPipeline.Proofs.Gpu.Cleanup
import ShaderPipeline.Proofs.Preparation
import ShaderPipeline.Proofs.SlotNumbers

/-!
# Creations that fail

A creation can fail in four phases, and a failure in any of them leaves the device as it was: no
call is made before the program source is complete, and an assembly that cannot go on deletes what
it created. `Faithful` says so, together with the order of the phases: which failure is reported is
decided by the first phase that does not succeed, and nothing else fails a creation
(`create_faithful`).

The cache may have any shaders. Where they are those of their sources, as in every cache of this
library, a failure to compile is one of the source.
-/

namespace ShaderPipeline

open Glsl Gpu SlotFile ShaderPipeline.Language

/-! ## Assemblies that fail -/

namespace Gpu

variable {S P T : Type}

/-- The stages and programs that exist, the newest first. -/
structure Alive (S P : Type) where
  stages : List S
  programs : List P

/-- Slot tables that fit are not refused. -/
theorem Assembles.ne_capacity {source : ProgramSource}
    {exchanges : List (Exchange (graphics S P T))} {events : List Event}
    {result : Except AssemblyError (LinkedProgram P)}
    (h : Assembles source exchanges events result) (hcapacity : source.withinCapacity = true)
    (attributes uniforms : Nat) : result ≠ .error (.capacity attributes uniforms) := by
  intro hresult
  cases h with
  | tooLong hlong => exact absurd (hlong.symm.trans hcapacity) (by decide)
  | _ => cases hresult

variable [DecidableEq S] [DecidableEq P]

/-- What exists after an exchange. -/
def Alive.after (alive : Alive S P) : Exchange (graphics S P T) → Alive S P
  | ⟨.createStage _, .ok stage⟩ => { alive with stages := stage :: alive.stages }
  | ⟨.createProgram, .ok program⟩ => { alive with programs := program :: alive.programs }
  | ⟨.deleteStage stage, _⟩ => { alive with stages := alive.stages.erase stage }
  | ⟨.deleteProgram program, _⟩ => { alive with programs := alive.programs.erase program }
  | _ => alive

/-- Two stages that are made and deleted leave the others, be they the same or not. -/
theorem erase_erase_cons (first second : S) (stages : List S) :
    ((second :: first :: stages).erase first).erase second = stages := by
  by_cases hsame : second = first
  · rw [hsame, List.erase_cons_head, List.erase_cons_head]
  · rw [List.erase_cons_tail (by simpa using hsame), List.erase_cons_head, List.erase_cons_head]

/-- An assembly that fails leaves what exists as it was. -/
theorem Assembles.alive_eq {source : ProgramSource} {exchanges : List (Exchange (graphics S P T))}
    {events : List Event} {result : Except AssemblyError (LinkedProgram P)}
    (h : Assembles source exchanges events result) {e : AssemblyError} (hresult : result = .error e)
    (alive : Alive S P) : exchanges.foldl Alive.after alive = alive := by
  cases h with
  | tooLong => rfl
  | vertexRefused => rfl
  | fragmentRefused =>
    exact congrArg (Alive.mk · alive.programs) (List.erase_cons_head ..)
  | programRefused =>
    exact congrArg (Alive.mk · alive.programs) (erase_erase_cons ..)
  | assembled => cases hresult

end Gpu

/-! ## What is expected -/

section

variable {S P T σ : Type} [DecidableEq S] [DecidableEq P]

/-- What is expected of a creation, given the asset, the program source and what was done on the
device. -/
structure Faithful (config : Config) (cache : Cache) (name : String) (properties : PropertyContext)
    (resolved : Except AssetError ProgramAsset) (prepared : Except ProgramError ProgramSource)
    (device : Device (graphics S P T) σ) (state : σ)
    (run : Run (graphics S P T) σ (Except ProgramError (LinkedProgram P)))
    (exchanges : List (Exchange (graphics S P T))) : Prop where
  /-- Failures before the assembly come without a call. -/
  untouched : ∀ e, run.result = .error e → (∀ failure, e ≠ .assembly failure) →
    run.calls = [] ∧ exchanges = [] ∧ run.state = state
  /-- Objects that cannot be created fail the assembly of the program source. Its calls are all, and
  they leave no stage and no program. -/
  refused : ∀ text, run.result = .error (.assembly (.backend text)) →
    ∃ source, prepared = .ok source ∧
      ((assemble source).run device state).result = .error (.backend text) ∧
      run.calls = ((assemble source).run device state).calls ∧
      exchanges = (assemble source).exchanges device state ∧
      (∀ alive : Alive S P, exchanges.foldl Alive.after alive = alive) ∧
      ∀ exchange ∈ exchanges, exchange.createdProgram? = none ∧ exchange.call.program? = none
  /-- A program is that of the assembly of the program source. -/
  made : ∀ program, run.result = .ok program →
    ∃ source, prepared = .ok source ∧
      ((assemble source).run device state).result = .ok program ∧
      run.calls = ((assemble source).run device state).calls
  /-- What is bound stays bound in any case. -/
  unbound : ∀ before after, Effects run.calls before after → after = before
  /-- The asset fails if the files do not resolve or the slot file is malformed. -/
  asset_iff : ∀ e, run.result = .error (.asset e) ↔
    resolved = .error e ∨
      ∃ vertex fragment slots cause, resolved = .ok (.stagePair vertex fragment slots) ∧
        SlotTables.ofFile slots = .error cause ∧
        e = .malformed (ProgramAsset.slotsPath name) cause
  /-- The compilation fails if there is a unified source that has to be compiled and does not. -/
  compile_iff : ∀ e, run.result = .error (.compile e) ↔
    ∃ source, resolved = .ok (.unified source) ∧ cache.find? source = none ∧
      compile source = .error e
  /-- The generation fails if there is a shader, and no program for the properties. -/
  generate_iff : ∀ e, run.result = .error (.generate e) ↔
    ∃ source shader, resolved = .ok (.unified source) ∧ cache.shaderOf source = .ok shader ∧
      config.shaderSource shader properties = .error e
  /-- The assembly is reached if none of these fails. -/
  prepared_iff : ∀ source, prepared = .ok source ↔
    (∃ vertex fragment slots tables, resolved = .ok (.stagePair vertex fragment slots) ∧
      SlotTables.ofFile slots = .ok tables ∧ tables.programSource vertex fragment = source) ∨
      ∃ text shader, resolved = .ok (.unified text) ∧ cache.shaderOf text = .ok shader ∧
        config.shaderSource shader properties = .ok source
  /-- The shaders of a sound cache are those that the sources compile to. -/
  shaderOf_eq : cache.Sound → ∀ source, cache.shaderOf source = compile source
  /-- With a sound cache the compilation fails if the unified source does not compile. -/
  compile_iff_of_sound : cache.Sound → ∀ e, run.result = .error (.compile e) ↔
    ∃ source, resolved = .ok (.unified source) ∧ compile source = .error e
  /-- With a sound cache the slot tables are never too long. -/
  fits : cache.Sound → ∀ attributes uniforms,
    run.result ≠ .error (.assembly (.capacity attributes uniforms))

end

/-! ## The phases -/

/-- What a resolved asset is prepared to, by the phase in which it ends. -/
inductive Prepares (config : Config) (cache : Cache) (name : String)
    (properties : PropertyContext) :
    Except AssetError ProgramAsset → Except ProgramError ProgramSource → Prop
  | unresolved {e : AssetError} :
      Prepares config cache name properties (.error e) (.error (.asset e))
  | malformed {vertex fragment slots : String} {cause : SlotFileError}
      (htables : SlotTables.ofFile slots = .error cause) :
      Prepares config cache name properties (.ok (.stagePair vertex fragment slots))
        (.error (.asset (.malformed (ProgramAsset.slotsPath name) cause)))
  | stagePair {vertex fragment slots : String} {tables : SlotTables}
      (htables : SlotTables.ofFile slots = .ok tables) :
      Prepares config cache name properties (.ok (.stagePair vertex fragment slots))
        (.ok (tables.programSource vertex fragment))
  | uncompiled {text : String} {e : CompileError} (hshader : cache.shaderOf text = .error e) :
      Prepares config cache name properties (.ok (.unified text)) (.error (.compile e))
  | ungenerated {text : String} {shader : Shader} {e : GenerateError}
      (hshader : cache.shaderOf text = .ok shader)
      (hsource : config.shaderSource shader properties = .error e) :
      Prepares config cache name properties (.ok (.unified text)) (.error (.generate e))
  | unified {text : String} {shader : Shader} {source : ProgramSource}
      (hshader : cache.shaderOf text = .ok shader)
      (hsource : config.shaderSource shader properties = .ok source) :
      Prepares config cache name properties (.ok (.unified text)) (.ok source)

namespace Prepares

variable {config : Config} {cache : Cache} {name : String} {properties : PropertyContext}
  {resolved : Except AssetError ProgramAsset} {outcome : Except ProgramError ProgramSource}

/-- A preparation ends in one phase only. -/
theorem unique (h : Prepares config cache name properties resolved outcome) :
    config.outcomeOf cache name properties resolved = outcome := by
  cases h with
  | unresolved => rfl
  | malformed htables => simp only [Config.outcomeOf, Config.pairSource, htables]
  | stagePair htables => simp only [Config.outcomeOf, Config.pairSource, htables]
  | uncompiled hshader => simp only [Config.outcomeOf, Config.sourceOf, hshader]
  | ungenerated hshader hsource =>
    simp only [Config.outcomeOf, Config.sourceOf, hshader, hsource, Except.mapError]
  | unified hshader hsource =>
    simp only [Config.outcomeOf, Config.sourceOf, hshader, hsource, Except.mapError]

/-- Every preparation ends in one of the phases. -/
theorem exists_outcome (config : Config) (cache : Cache) (name : String)
    (properties : PropertyContext) (resolved : Except AssetError ProgramAsset) :
    ∃ outcome, Prepares config cache name properties resolved outcome := by
  rcases resolved with e | ⟨vertex, fragment, slots⟩ | text
  · exact ⟨_, .unresolved⟩
  · cases htables : SlotTables.ofFile slots with
    | error cause => exact ⟨_, .malformed htables⟩
    | ok tables => exact ⟨_, .stagePair htables⟩
  · cases hshader : cache.shaderOf text with
    | error e => exact ⟨_, .uncompiled hshader⟩
    | ok shader =>
      cases hsource : config.shaderSource shader properties with
      | error e => exact ⟨_, .ungenerated hshader hsource⟩
      | ok source => exact ⟨_, .unified hshader hsource⟩

/-- What a preparation gives. -/
theorem prepare_iff {assets : AssetSource} :
    (config.prepare cache assets name properties).outcome = outcome ↔
      Prepares config cache name properties (ProgramAsset.resolve assets name).outcome outcome := by
  obtain ⟨reached, h⟩ :=
    exists_outcome config cache name properties (ProgramAsset.resolve assets name).outcome
  rw [Config.outcome_prepare_eq, h.unique]
  constructor
  · intro hsame
    exact hsame ▸ h
  · intro hother
    exact h.unique.symm.trans hother.unique

/-- It is not the preparation that fails in the assembly. -/
theorem ne_assembly {e : ProgramError}
    (h : Prepares config cache name properties resolved (.error e)) (failure : AssemblyError) :
    e ≠ .assembly failure := by
  cases h with
  | _ => exact ProgramError.noConfusion

/-- The first phase fails if the files do not resolve or the slot file is malformed. -/
theorem asset_iff {e : AssetError} :
    Prepares config cache name properties resolved (.error (.asset e)) ↔
      resolved = .error e ∨
        ∃ vertex fragment slots cause, resolved = .ok (.stagePair vertex fragment slots) ∧
          SlotTables.ofFile slots = .error cause ∧
          e = .malformed (ProgramAsset.slotsPath name) cause := by
  constructor
  · intro h
    cases h with
    | unresolved => exact .inl rfl
    | malformed htables => exact .inr ⟨_, _, _, _, rfl, htables, rfl⟩
  · intro h
    rcases h with rfl | ⟨vertex, fragment, slots, cause, rfl, htables, rfl⟩
    · exact .unresolved
    · exact .malformed htables

/-- The second phase fails if the cache gives no shader for the unified source. -/
theorem compile_iff {e : CompileError} :
    Prepares config cache name properties resolved (.error (.compile e)) ↔
      ∃ text, resolved = .ok (.unified text) ∧ cache.shaderOf text = .error e := by
  constructor
  · intro h
    cases h with
    | uncompiled hshader => exact ⟨_, rfl, hshader⟩
  · intro h
    obtain ⟨text, rfl, hshader⟩ := h
    exact .uncompiled hshader

/-- The third phase fails if there is a shader, and no program for the properties. -/
theorem generate_iff {e : GenerateError} :
    Prepares config cache name properties resolved (.error (.generate e)) ↔
      ∃ text shader, resolved = .ok (.unified text) ∧ cache.shaderOf text = .ok shader ∧
        config.shaderSource shader properties = .error e := by
  constructor
  · intro h
    cases h with
    | ungenerated hshader hsource => exact ⟨_, _, rfl, hshader, hsource⟩
  · intro h
    obtain ⟨text, shader, rfl, hshader, hsource⟩ := h
    exact .ungenerated hshader hsource

/-- The assembly is reached if none of these fails. -/
theorem ok_iff {source : ProgramSource} :
    Prepares config cache name properties resolved (.ok source) ↔
      (∃ vertex fragment slots tables, resolved = .ok (.stagePair vertex fragment slots) ∧
        SlotTables.ofFile slots = .ok tables ∧ tables.programSource vertex fragment = source) ∨
        ∃ text shader, resolved = .ok (.unified text) ∧ cache.shaderOf text = .ok shader ∧
          config.shaderSource shader properties = .ok source := by
  constructor
  · intro h
    cases h with
    | stagePair htables => exact .inl ⟨_, _, _, _, rfl, htables, rfl⟩
    | unified hshader hsource => exact .inr ⟨_, _, rfl, hshader, hsource⟩
  · intro h
    rcases h with ⟨vertex, fragment, slots, tables, rfl, htables, rfl⟩ |
      ⟨text, shader, rfl, hshader, hsource⟩
    · exact .stagePair htables
    · exact .unified hshader hsource

/-- What is prepared with a sound cache fits into the slot tables. -/
theorem withinCapacity (h : Prepares config cache name properties resolved outcome)
    (hcache : cache.Sound) {source : ProgramSource} (houtcome : outcome = .ok source) :
    source.withinCapacity = true := by
  rw [withinCapacity_iff]
  cases h with
  | stagePair htables =>
    cases houtcome
    obtain ⟨hattributes, huniforms⟩ := ofFile_eq htables
    rw [SlotTables.programSource, hattributes, huniforms]
    simp
  | unified hshader hsource =>
    cases houtcome
    rw [hcache.shaderOf_eq] at hshader
    obtain ⟨items, hitems, hwell⟩ := exists_source_of_compile hshader
    obtain ⟨draft, horigin⟩ := exists_origin_of_source hshader hitems hwell
    rw [Config.shaderSource, programSource_eq horigin.checked, outcome_eq_ok_iff] at hsource
    obtain ⟨-, rfl⟩ := hsource
    rw [attributes_programIn horigin, uniforms_programIn horigin, List.length_map,
      List.length_map, List.length_range, List.length_range]
    exact ⟨Nat.le_refl 8, horigin.uniformCount_le⟩
  | _ => cases houtcome

end Prepares

/-! ## Creations -/

section

variable {S P T σ : Type} {config : Config} {cache : Cache} {assets : AssetSource} {name : String}
  {properties : PropertyContext}

/-- A failure before the assembly is one of the preparation. -/
theorem result_create_eq_error_iff (device : Device (graphics S P T) σ) (state : σ)
    {e : ProgramError} (he : ∀ failure, e ≠ .assembly failure) :
    ((config.create cache assets name properties).script.run device state).result = .error e ↔
      (config.prepare cache assets name properties).outcome = .error e := by
  cases hprepared : (config.prepare cache assets name properties).outcome with
  | error failure =>
    rw [(Config.run_create_of_error device state hprepared).1, Except.error.injEq,
      Except.error.injEq]
  | ok source =>
    rw [(Config.run_create_of_ok device state hprepared).1]
    cases ((assemble source).run device state).result with
    | error failure => simp [Except.mapError, (he failure).symm]
    | ok program => simp [Except.mapError]

/-- The result of an assembly can be told from that of the creation. -/
theorem mapError_assembly_inj {made other : Except AssemblyError (LinkedProgram P)}
    (h : made.mapError ProgramError.assembly = other.mapError .assembly) : made = other := by
  cases made with
  | error failure =>
    cases other with
    | error reason => exact congrArg _ (ProgramError.assembly.inj (Except.error.inj h))
    | ok program => cases h
  | ok program =>
    cases other with
    | error reason => cases h
    | ok linked => exact congrArg _ (Except.ok.inj h)

/-- A creation with the result of an assembly has a program source, and does what the assembly of
it does. -/
theorem exists_source_of_result {device : Device (graphics S P T) σ} {state : σ}
    (made : Except AssemblyError (LinkedProgram P))
    (h : ((config.create cache assets name properties).script.run device state).result =
      made.mapError .assembly) :
    ∃ source, (config.prepare cache assets name properties).outcome = .ok source ∧
      ((assemble source).run device state).result = made ∧
      ((config.create cache assets name properties).script.run device state).calls =
        ((assemble source).run device state).calls ∧
      (config.create cache assets name properties).script.exchanges device state =
        (assemble source).exchanges device state := by
  cases hprepared : (config.prepare cache assets name properties).outcome with
  | error e =>
    rw [(Config.run_create_of_error device state hprepared).1] at h
    cases made with
    | error failure =>
      exact absurd (Except.error.inj h) ((Prepares.prepare_iff.1 hprepared).ne_assembly failure)
    | ok program => cases h
  | ok source =>
    obtain ⟨hrun, hexchanges⟩ := Config.run_create_of_ok device state hprepared
    rw [hrun] at h
    exact ⟨source, rfl, mapError_assembly_inj h, by rw [hrun], hexchanges⟩

variable [DecidableEq S] [DecidableEq P]

/-- A creation that fails leaves the device as it was, whatever the phase, and the phases come in
order. -/
theorem create_faithful (config : Config) (cache : Cache) (assets : AssetSource) (name : String)
    (properties : PropertyContext) (device : Device (graphics S P T) σ) (state : σ) :
    let script := (config.create cache assets name properties).script
    Faithful config cache name properties (ProgramAsset.resolve assets name).outcome
      (config.prepare cache assets name properties).outcome device state (script.run device state)
      (script.exchanges device state) := by
  intro script
  constructor
  case untouched =>
    intro e hresult he
    rw [result_create_eq_error_iff device state he] at hresult
    obtain ⟨hrun, hexchanges⟩ := Config.run_create_of_error device state hresult
    simp only [script, hrun, hexchanges, and_self]
  case refused =>
    intro text hresult
    obtain ⟨source, hprepared, hmade, hcalls, hexchanges⟩ :=
      exists_source_of_result (.error (.backend text)) hresult
    have hassembles := assembles_run source device state
    obtain ⟨-, -, -, -, -, -, -, hprograms⟩ := hassembles.refused hmade
    rw [← hexchanges] at hassembles hprograms
    exact ⟨source, hprepared, hmade, hcalls, hexchanges, hassembles.alive_eq hmade, hprograms⟩
  case made =>
    intro program hresult
    obtain ⟨source, hprepared, hmade, hcalls, -⟩ :=
      exists_source_of_result (.ok program) hresult
    exact ⟨source, hprepared, hmade, hcalls⟩
  case unbound =>
    intro before after heffects
    cases hprepared : (config.prepare cache assets name properties).outcome with
    | error e =>
      rw [(Config.run_create_of_error device state hprepared).1] at heffects
      exact effects_nil_iff.1 heffects
    | ok source =>
      rw [(Config.run_create_of_ok device state hprepared).1] at heffects
      exact assemble_bindings heffects
  case asset_iff =>
    intro e
    rw [result_create_eq_error_iff device state (by simp), Prepares.prepare_iff,
      Prepares.asset_iff]
  case compile_iff =>
    intro e
    rw [result_create_eq_error_iff device state (by simp), Prepares.prepare_iff,
      Prepares.compile_iff]
    simp only [Cache.shaderOf_eq_error_iff]
  case generate_iff =>
    intro e
    rw [result_create_eq_error_iff device state (by simp), Prepares.prepare_iff,
      Prepares.generate_iff]
  case prepared_iff => exact fun source => Prepares.prepare_iff.trans Prepares.ok_iff
  case shaderOf_eq => exact fun hcache => hcache.shaderOf_eq
  case compile_iff_of_sound =>
    intro hcache e
    rw [result_create_eq_error_iff device state (by simp), Prepares.prepare_iff,
      Prepares.compile_iff]
    simp only [hcache.shaderOf_eq]
  case fits =>
    intro hcache attributes uniforms hresult
    obtain ⟨source, hprepared, hmade, -⟩ :=
      exists_source_of_result (.error (.capacity attributes uniforms)) hresult
    have hfits := (Prepares.prepare_iff.1 hprepared).withinCapacity hcache rfl
    exact (assembles_run source device state).ne_capacity hfits attributes uniforms hmade

end

end ShaderPipeline
