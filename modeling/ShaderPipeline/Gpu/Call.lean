import ShaderPipeline.Gpu.Script

/-!
# Graphics calls

The calls of a graphics device that programs are assembled and used with. Stages, programs and
textures are known by handles of any three types. Creations can fail with a text; a stage that does
not compile and a program that does not link are answers to queries, not failures.
-/

namespace ShaderPipeline.Gpu

/-- A call of a graphics device with handles `S` of stages, `P` of programs and `T` of textures. -/
inductive Call (S P T : Type) where
  | createStage (kind : StageKind)
  | compileStage (stage : S) (text : String)
  | stageCompiled (stage : S)
  | stageLog (stage : S)
  | deleteStage (stage : S)
  | createProgram
  | attachStage (program : P) (stage : S)
  | detachStage (program : P) (stage : S)
  | bindAttribute (program : P) (slot : Nat) (name : String)
  | linkProgram (program : P)
  | programLinked (program : P)
  | programLog (program : P)
  | uniformLocation (program : P) (name : String)
  | deleteProgram (program : P)
  | useProgram (program : Option P)
  | activeTexture (unit : Nat)
  | bindTexture (texture : Option T)
deriving DecidableEq

/-- The reply to a call. -/
def Call.Reply {S P T : Type} : Call S P T → Type
  | .createStage _ => Except String S
  | .createProgram => Except String P
  | .stageCompiled _ => Bool
  | .programLinked _ => Bool
  | .stageLog _ => String
  | .programLog _ => String
  | .uniformLocation _ _ => Option Int
  | _ => Unit

/-- The interface of a graphics device. -/
abbrev graphics (S P T : Type) : Interface := ⟨Call S P T, Call.Reply⟩

end ShaderPipeline.Gpu
