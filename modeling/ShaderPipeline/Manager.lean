import ShaderPipeline.Cache
import ShaderPipeline.Config
import ShaderPipeline.Glsl.Generate
import ShaderPipeline.Program.Error

/-!
# Shader managers

A manager makes programs of named assets: it resolves the asset, compiles a unified source through
its cache, generates the stages for the given properties over its configured ones, and assembles
the result. A stage pair needs neither the cache nor any property. Nothing is sent to the device
before the program source is complete.

A manager is its configuration; the cache, which several managers may share, is passed along.
-/

namespace ShaderPipeline

open Glsl Gpu SlotFile ShaderPipeline.Language

/-- A prepared program source or the reason why there is none, the cache afterwards, the paths that
were read and the events. -/
structure Preparation where
  outcome : Except ProgramError ProgramSource
  cache : Cache
  reads : List String
  events : List Event

/-- A creation of a program: the cache and the paths that were read, and what is left to be done on
the device. -/
structure Creation (S P T : Type) where
  cache : Cache
  reads : List String
  script : Script (graphics S P T) (Except ProgramError (LinkedProgram P))

namespace Config

/-- The program source of a stage pair. -/
def pairSource (name vertex fragment slots : String) : Except ProgramError ProgramSource :=
  match SlotTables.ofFile slots with
  | .ok tables => .ok (tables.programSource vertex fragment)
  | .error e => .error (.asset (.malformed (ProgramAsset.slotsPath name) e))

/-- The program source of a compiled shader for properties over the configured ones. -/
def shaderSource (config : Config) (shader : Shader) (properties : PropertyContext) :
    Except GenerateError ProgramSource :=
  programSource config.dialect shader (config.properties.mergedWith properties)

/-- Prepares the unified source of a program through the cache, with the compilation that runs if
the source is not stored. -/
def unifiedSource (config : Config) (compilation : Compilation) (cache : Cache)
    (name source : String) (properties : PropertyContext) :
    Served (Except ProgramError ProgramSource) :=
  let served := cache.requestWith source compilation
  match served.outcome with
  | .error e =>
    ⟨.error (.compile e), served.cache, served.events ++ [.compileFailed name e]⟩
  | .ok cached =>
    ⟨(config.shaderSource cached.shader properties).mapError .generate, served.cache, served.events⟩

/-- Prepares the program source of a named asset, where sources are compiled in a given way. -/
def prepareWith (config : Config) (compilation : String → Compilation) (cache : Cache)
    (assets : AssetSource) (name : String) (properties : PropertyContext) : Preparation :=
  let resolved := ProgramAsset.resolve assets name
  match resolved.outcome with
  | .error e => ⟨.error (.asset e), cache, resolved.reads, resolved.events⟩
  | .ok (.stagePair vertex fragment slots) =>
    ⟨pairSource name vertex fragment slots, cache, resolved.reads, resolved.events⟩
  | .ok (.unified source) =>
    let served := config.unifiedSource (compilation source) cache name source properties
    ⟨served.outcome, served.cache, resolved.reads, resolved.events ++ served.events⟩

/-- Prepares the program source of a named asset. -/
def prepare (config : Config) (cache : Cache) (assets : AssetSource) (name : String)
    (properties : PropertyContext) : Preparation :=
  config.prepareWith (fun source => .answer (compile source)) cache assets name properties

/-- A script that starts with events. -/
def reporting {I : Interface} {α : Type} (events : List Event) (script : Script I α) :
    Script I α :=
  events.foldr .log script

/-- Creates the program of a named asset. -/
def create {S P T : Type} (config : Config) (cache : Cache) (assets : AssetSource)
    (name : String) (properties : PropertyContext) : Creation S P T :=
  let prepared := config.prepare cache assets name properties
  let script : Script (graphics S P T) (Except ProgramError (LinkedProgram P)) :=
    match prepared.outcome with
    | .error e => .done (.error e)
    | .ok source =>
      .log (.assembling name) ((assemble source).bind fun made => .done (made.mapError .assembly))
  ⟨prepared.cache, prepared.reads, reporting prepared.events script⟩

end Config

end ShaderPipeline
