import ShaderPipeline.Gpu.Call

/-!
# A simulated device

A graphics device that does what a given behaviour says: which objects cannot be created, which
stages do not compile, whether programs link, what the logs say and where uniforms are. Handles are
numbers from one counter that starts at 1 and is shared by stages and programs; only creations that
succeed count. The behaviour may be changed between calls while the counter goes on.
-/

namespace ShaderPipeline.Gpu

/-- What a simulated device does. -/
structure Behaviour where
  locations : List (String × Int) := []
  refusedStages : List StageKind := []
  refusesPrograms : Bool := false
  failingStages : List StageKind := []
  failsLink : Bool := false
  vertexLog : String := ""
  fragmentLog : String := ""
  programLog : String := ""
deriving DecidableEq

namespace Behaviour

/-- The log of a stage. -/
def stageLog (b : Behaviour) : StageKind → String
  | .vertex => b.vertexLog
  | .fragment => b.fragmentLog

end Behaviour

/-- A simulated device: its behaviour, the last handle that was given out and the kinds of the
stages that were created. -/
structure Simulation where
  behaviour : Behaviour := {}
  lastHandle : Nat := 0
  stageKinds : List (Nat × StageKind) := []
deriving DecidableEq

namespace Simulation

/-- The kind of a stage. -/
def stageKind? (s : Simulation) (stage : Nat) : Option StageKind := s.stageKinds.lookup stage

/-- Gives out a handle for a stage, unless stages of its kind cannot be created. -/
def createStage? (s : Simulation) (kind : StageKind) : Option (Nat × Simulation) :=
  if kind ∈ s.behaviour.refusedStages then none
  else
    let handle := s.lastHandle + 1
    some (handle, { s with lastHandle := handle, stageKinds := (handle, kind) :: s.stageKinds })

/-- Gives out a handle for a program, unless programs cannot be created. -/
def createProgram? (s : Simulation) : Option (Nat × Simulation) :=
  if s.behaviour.refusesPrograms then none
  else some (s.lastHandle + 1, { s with lastHandle := s.lastHandle + 1 })

/-- Whether a stage compiles. -/
def compiles (s : Simulation) (stage : Nat) : Bool :=
  (s.stageKind? stage).any fun kind => kind ∉ s.behaviour.failingStages

/-- The log of a stage. -/
def stageLog (s : Simulation) (stage : Nat) : String :=
  ((s.stageKind? stage).map s.behaviour.stageLog).getD ""

/-- The answer to a call of the graphics interface, and the device after it. -/
def answer (c : Call Nat Nat Nat) (s : Simulation) : c.Reply × Simulation :=
  match c with
  | .createStage kind =>
    match s.createStage? kind with
    | some (handle, after) => (.ok handle, after)
    | none => (.error ("out of " ++ kind.name ++ " stage objects"), s)
  | .createProgram =>
    match s.createProgram? with
    | some (handle, after) => (.ok handle, after)
    | none => (.error "out of program objects", s)
  | .stageCompiled stage => (s.compiles stage, s)
  | .programLinked _ => (!s.behaviour.failsLink, s)
  | .stageLog stage => (s.stageLog stage, s)
  | .programLog _ => (s.behaviour.programLog, s)
  | .uniformLocation _ name => (s.behaviour.locations.lookup name, s)
  | .compileStage _ _ | .deleteStage _ | .attachStage _ _ | .detachStage _ _
  | .bindAttribute _ _ _ | .linkProgram _ | .deleteProgram _ | .useProgram _ | .activeTexture _
  | .bindTexture _ => ((), s)

/-- The device that answers like a simulation. -/
def device : Device (graphics Nat Nat Nat) Simulation := ⟨answer⟩

end Simulation

end ShaderPipeline.Gpu
