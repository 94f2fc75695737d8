import ShaderPipeline.Asset
import ShaderPipeline.Glsl.Values
import ShaderPipeline.Gpu.Assembly

/-!
# Program errors

Why there is no program under a name, by the stage of the work that found it: the asset, the
compilation, the generation or the assembly.
-/

namespace ShaderPipeline

open ShaderPipeline.Language Glsl Gpu

/-- Why a program cannot be made. -/
inductive ProgramError where
  | asset (error : AssetError)
  | compile (error : CompileError)
  | generate (error : GenerateError)
  | assembly (error : AssemblyError)
deriving DecidableEq

/-- The message of an error. -/
def ProgramError.message : ProgramError → String
  | .asset error => error.message
  | .compile error => "failed to compile shader program: " ++ error.message
  | .generate error => "failed to generate shader program: " ++ error.message
  | .assembly error => error.message

end ShaderPipeline
