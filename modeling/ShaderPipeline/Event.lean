import ShaderPipeline.Program.Slot
import ShaderPipeline.Language.Error

/-!
# Events

What the library reports while it works: how assets are resolved, what the cache does, and what
the graphics driver says about stages and programs. An event is data; its level, its message and
its one field are functions of it.
-/

namespace ShaderPipeline

open ShaderPipeline.Language

/-- How important an event is. -/
inductive Level where
  | trace
  | debug
  | info
  | warn
  | error
deriving DecidableEq, Repr

/-- The name of a level. -/
def Level.name : Level → String
  | .trace => "TRACE"
  | .debug => "DEBUG"
  | .info => "INFO"
  | .warn => "WARN"
  | .error => "ERROR"

/-- Something worth reporting. -/
inductive Event where
  | cacheHit (source : String)
  | cacheMiss (source : String)
  | resolvedPair (asset : String)
  | resolvedUnified (asset : String)
  | compileFailed (asset : String) (error : CompileError)
  | assembling (program : String)
  | stageFailed (stage : StageKind) (log : String)
  | stageReport (stage : StageKind) (log : String)
  | linkFailed (log : String)
  | linkReport (log : String)
deriving DecidableEq

/-- The value of a field of an event. -/
inductive FieldValue where
  | text (content : String)
  | count (number : Nat)
deriving DecidableEq

namespace Event

/-- The level of an event. -/
def level : Event → Level
  | .cacheHit _ => .trace
  | .cacheMiss _ | .resolvedPair _ | .resolvedUnified _ | .assembling _ => .debug
  | .stageReport _ _ | .linkReport _ => .info
  | .stageFailed _ _ => .warn
  | .compileFailed _ _ | .linkFailed _ => .error

/-- The message of an event. -/
def message : Event → String
  | .cacheHit _ => "Shader cache hit"
  | .cacheMiss _ => "Shader cache miss, compiling"
  | .resolvedPair _ => "Resolved stage-pair shader program"
  | .resolvedUnified _ => "Resolved unified shader program"
  | .compileFailed _ error => "Failed to compile shader program: " ++ error.message
  | .assembling _ => "Assembling shader program"
  | .stageFailed _ log => "Failed to compile shader stage:\n" ++ log
  | .stageReport _ log => "Shader stage compile log:\n" ++ log
  | .linkFailed log => "Failed to link shader program:\n" ++ log
  | .linkReport log => "Shader program link log:\n" ++ log

/-- The field that an event carries beside its message. The cache counts the bytes of a source. -/
def field? : Event → Option (String × FieldValue)
  | .cacheHit source | .cacheMiss source => some ("bytes", .count source.utf8ByteSize)
  | .resolvedPair asset | .resolvedUnified asset | .compileFailed asset _ =>
    some ("asset", .text asset)
  | .assembling program => some ("program", .text program)
  | .stageFailed stage _ | .stageReport stage _ => some ("stage", .text stage.name)
  | .linkFailed _ | .linkReport _ => none

end Event

end ShaderPipeline
