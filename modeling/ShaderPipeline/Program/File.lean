import ShaderPipeline.Config
import ShaderPipeline.FileTree
import ShaderPipeline.Glsl.Generate
import ShaderPipeline.Language.Compile

/-!
# Program files

The path from the text of a program file and a configuration to a program source, without a cache
and without a device. The given properties win over the configured ones.
-/

namespace ShaderPipeline

open Glsl ShaderPipeline.Language

/-- Why a configuration file gives no configuration. -/
inductive ConfigError where
  | file (error : FileError)
  | malformed
deriving DecidableEq

/-- The message of an error. -/
def ConfigError.message : ConfigError → String
  | .file error => "failed to read config: " ++ error.message
  | .malformed => "invalid config: not a configuration"

/-- The configuration of a file, given what reading the file gave. -/
def Config.ofFile (text : Except FileError String) : Except ConfigError Config :=
  match text with
  | .error e => .error (.file e)
  | .ok text =>
    match Config.ofYaml? text with
    | some config => .ok config
    | none => .error .malformed

/-- Why a program file gives no program source. -/
inductive ProgramFileError where
  | file (error : FileError)
  | compile (error : CompileError)
  | generate (error : GenerateError)
deriving DecidableEq

/-- The message of an error. -/
def ProgramFileError.message : ProgramFileError → String
  | .file error => error.message
  | .compile error => error.message
  | .generate error => error.message

/-- The compiled shader and the program source of a file, given what reading the file gave. -/
def ProgramSource.ofFile (config : Config) (properties : PropertyContext)
    (text : Except FileError String) : Except ProgramFileError (Shader × ProgramSource) := do
  let source ← text.mapError .file
  let shader ← (compile source).mapError .compile
  let merged := config.properties.mergedWith properties
  let program ← (programSource config.dialect shader merged).mapError .generate
  return (shader, program)

end ShaderPipeline
