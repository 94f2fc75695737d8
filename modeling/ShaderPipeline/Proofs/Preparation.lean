import ShaderPipeline.Manager
import ShaderPipeline.Proofs.CachedCompilation
import ShaderPipeline.Proofs.Gpu.Traces

/-!
# Preparing and creating

What a manager does, in terms of its parts: the outcome of a preparation is decided by the asset,
and for a unified source it depends on the cache only by the shader that the cache gives
(`outcomeOf`, `outcome_prepare_eq`); a creation makes no calls unless the program source is
complete, and then exactly those of the assembly (`run_create_of_error`, `run_create_of_ok`).

These are equations, so they say what happens in every case. What the parts do is no concern here.
-/

namespace ShaderPipeline

open Glsl Gpu SlotFile ShaderPipeline.Language

namespace Gpu.Script

variable {I : Interface} {α β σ : Type}

/-- The exchanges of two scripts in turn. -/
theorem exchanges_bind (device : Device I σ) (first : Script I α) (next : α → Script I β)
    (state : σ) :
    (first.bind next).exchanges device state =
      first.exchanges device state ++
        (next (first.run device state).result).exchanges device (first.run device state).state := by
  induction first generalizing state with
  | done result => rfl
  | call c reply ih => exact congrArg (_ :: ·) (ih _ _)
  | log event rest ih => exact ih state

end Gpu.Script

namespace Cache

variable {cache : Cache} {source : String}

/-- The shader that a cache gives for a source. -/
def shaderOf (cache : Cache) (source : String) : Except CompileError Shader :=
  (cache.request source).outcome.map CachedShader.shader

/-- A sound cache gives the shader that the source compiles to. -/
theorem Sound.shaderOf_eq (h : cache.Sound) (source : String) :
    cache.shaderOf source = compile source :=
  h.request_outcome source

/-- A cache gives no shader if none is stored and the source does not compile. -/
theorem shaderOf_eq_error_iff {e : CompileError} :
    cache.shaderOf source = .error e ↔ cache.find? source = none ∧ compile source = .error e := by
  unfold shaderOf
  rcases request_cases cache source with ⟨stored, hfind, hrequest⟩ |
    ⟨failure, hfind, hcompile, hrequest⟩ | ⟨shader, hfind, hcompile, hrequest⟩
  · simp [hrequest, hfind, Except.map]
  · simp [hrequest, hfind, hcompile, Except.map]
  · simp [hrequest, hcompile, Except.map]

end Cache

namespace Config

variable {S P T σ : Type} (config : Config) (cache : Cache) {assets : AssetSource} {name : String}
  (properties : PropertyContext)

/-- Reported events come before those of the script, and that is all. -/
theorem run_reporting {I : Interface} {α : Type} (events : List Event) (script : Script I α)
    (device : Device I σ) (state : σ) :
    (reporting events script).run device state =
      ⟨(script.run device state).result, (script.run device state).calls,
        events ++ (script.run device state).events, (script.run device state).state⟩ := by
  induction events with
  | nil => rfl
  | cons event events ih =>
    exact congrArg (fun run : Run I σ α => { run with events := event :: run.events }) ih

/-- Reported events make no exchanges. -/
theorem exchanges_reporting {I : Interface} {α : Type} (events : List Event) (script : Script I α)
    (device : Device I σ) (state : σ) :
    (reporting events script).exchanges device state = script.exchanges device state := by
  induction events with
  | nil => rfl
  | cons event events ih => exact ih

/-! ## Preparing -/

/-- The program source of a unified source, by what its compilation gives. -/
def sourceOf (config : Config) (properties : PropertyContext)
    (compiled : Except CompileError Shader) : Except ProgramError ProgramSource :=
  match compiled with
  | .error e => .error (.compile e)
  | .ok shader => (config.shaderSource shader properties).mapError .generate

/-- What a resolved asset is prepared to. Only a unified source needs the cache. -/
def outcomeOf (config : Config) (cache : Cache) (name : String) (properties : PropertyContext) :
    Except AssetError ProgramAsset → Except ProgramError ProgramSource
  | .error e => .error (.asset e)
  | .ok (.stagePair vertex fragment slots) => pairSource name vertex fragment slots
  | .ok (.unified source) => config.sourceOf properties (cache.shaderOf source)

section

variable (compilation : Compilation) (name source : String)

/-- A unified source is prepared by what its compilation or the cache gives. -/
theorem outcome_unifiedSource :
    (config.unifiedSource compilation cache name source properties).outcome =
      config.sourceOf properties
        ((cache.requestWith source compilation).outcome.map CachedShader.shader) := by
  dsimp only [unifiedSource]
  cases (cache.requestWith source compilation).outcome with
  | error e => rfl
  | ok cached => rfl

/-- A unified source is requested of the cache, whether its stages can be generated or not. -/
theorem cache_unifiedSource :
    (config.unifiedSource compilation cache name source properties).cache =
      (cache.requestWith source compilation).cache := by
  dsimp only [unifiedSource]
  cases (cache.requestWith source compilation).outcome with
  | error e => rfl
  | ok cached => rfl

end

/-- The outcome of a preparation is decided by the asset. -/
theorem outcome_prepare_eq (assets : AssetSource) (name : String) :
    (config.prepare cache assets name properties).outcome =
      config.outcomeOf cache name properties (ProgramAsset.resolve assets name).outcome := by
  dsimp only [prepare, prepareWith]
  rcases (ProgramAsset.resolve assets name).outcome with e | ⟨vertex, fragment, slots⟩ | source
  · rfl
  · rfl
  · exact config.outcome_unifiedSource cache properties _ name source

/-- A preparation requests the unified source of the cache, if there is one. -/
theorem cache_prepare_eq (assets : AssetSource) (name : String) :
    (config.prepare cache assets name properties).cache =
      match (ProgramAsset.resolve assets name).outcome with
      | .ok (.unified source) => (cache.request source).cache
      | _ => cache := by
  dsimp only [prepare, prepareWith]
  rcases (ProgramAsset.resolve assets name).outcome with e | ⟨vertex, fragment, slots⟩ | source
  · rfl
  · rfl
  · exact config.cache_unifiedSource cache properties _ name source

/-- The paths that are read do not depend on the cache. -/
theorem reads_prepare (assets : AssetSource) (name : String) :
    (config.prepare cache assets name properties).reads =
      (ProgramAsset.resolve assets name).reads := by
  unfold prepare prepareWith
  dsimp only
  split
  · rfl
  · rfl
  · rfl

/-! ## Creating -/

/-- What is left to be done on the device: nothing if there is no program source, and else its
assembly. -/
def assembling {S P T : Type} (name : String) (prepared : Except ProgramError ProgramSource) :
    Script (graphics S P T) (Except ProgramError (LinkedProgram P)) :=
  match prepared with
  | .error e => .done (.error e)
  | .ok source =>
    .log (.assembling name) ((assemble source).bind fun made => .done (made.mapError .assembly))

/-- A creation prepares the program source and goes on with it. -/
theorem create_eq (assets : AssetSource) (name : String) :
    (config.create cache assets name properties : Creation S P T) =
      ⟨(config.prepare cache assets name properties).cache,
        (config.prepare cache assets name properties).reads,
        reporting (config.prepare cache assets name properties).events
          (assembling name (config.prepare cache assets name properties).outcome)⟩ := rfl

variable {config cache properties} (device : Device (graphics S P T) σ) (state : σ)

/-- Nothing is done on the device if there is no program source. -/
theorem run_create_of_error {e : ProgramError}
    (h : (config.prepare cache assets name properties).outcome = .error e) :
    (config.create cache assets name properties).script.run device state =
        ⟨.error e, [], (config.prepare cache assets name properties).events, state⟩ ∧
      (config.create cache assets name properties).script.exchanges device state = [] := by
  rw [create_eq, h]
  constructor
  · rw [run_reporting]
    simp only [assembling, Script.run, List.append_nil]
  · rw [exchanges_reporting]
    rfl

/-- A program source is assembled on the device, and nothing else is done there. -/
theorem run_create_of_ok {source : ProgramSource}
    (h : (config.prepare cache assets name properties).outcome = .ok source) :
    (config.create cache assets name properties).script.run device state =
        ⟨((assemble source).run device state).result.mapError .assembly,
          ((assemble source).run device state).calls,
          (config.prepare cache assets name properties).events ++
            .assembling name :: ((assemble source).run device state).events,
          ((assemble source).run device state).state⟩ ∧
      (config.create cache assets name properties).script.exchanges device state =
        (assemble source).exchanges device state := by
  rw [create_eq, h]
  constructor
  · rw [run_reporting]
    simp only [assembling, Script.run, Script.run_bind, List.append_nil]
  · rw [exchanges_reporting]
    simp only [assembling, Script.exchanges, Script.exchanges_bind, List.append_nil]

end Config

end ShaderPipeline
