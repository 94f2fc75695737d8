import ShaderPipeline.Gpu.Call
import ShaderPipeline.Program.Source
import ShaderPipeline.Text.Blank

/-!
# Program assembly

Makes a linked program of a program source: both stages are created and compiled, the program is
created, attributes are bound before the link and uniform locations are asked for after it, and the
stages are given back. What the driver has to say about stages and links is reported and never
stops the work. Only slot tables that are too long and objects that cannot be created are errors,
and then all stages are given back as well.
-/

namespace ShaderPipeline.Gpu

/-- The location of a uniform that the program does not have. -/
def unresolvedLocation : Int := -1

/-- Whether the driver could link a program. -/
inductive LinkStatus where
  | linked
  | failed
deriving DecidableEq, Repr

/-- A program after assembly. The locations are those of the uniform slots. -/
structure LinkedProgram (P : Type) where
  handle : P
  locations : List Int
  status : LinkStatus
  failedStages : List StageKind
deriving DecidableEq

namespace LinkedProgram

variable {P : Type}

/-- The location of a uniform slot; slots beyond the table are unresolved. -/
def location (program : LinkedProgram P) (slot : Nat) : Int :=
  program.locations.getD slot unresolvedLocation

/-- Whether both stages compiled and the program linked. -/
def usable (program : LinkedProgram P) : Bool :=
  program.status == .linked && program.failedStages.isEmpty

end LinkedProgram

/-- Why a program source is not assembled. -/
inductive AssemblyError where
  | capacity (attributes uniforms : Nat)
  | backend (text : String)
deriving DecidableEq

/-- The message of an error. -/
def AssemblyError.message : AssemblyError → String
  | .capacity attributes uniforms =>
    "program source has " ++ toString attributes ++ " attribute slots and " ++ toString uniforms ++
      " uniform slots, limits are " ++ toString SlotKind.attribute.capacity ++ " and " ++
      toString SlotKind.uniform.capacity
  | .backend text => "graphics backend error: " ++ text

namespace Assembly

variable {S P T : Type}

/-- A log without the blanks around it. -/
def trimmed (log : String) : String := String.ofList (Text.trim log.toList)

/-- Makes a list of calls whose replies say nothing. -/
def sendAll : List (Call S P T) → Script (graphics S P T) Unit
  | [] => .done ()
  | c :: rest => .call c fun _ => sendAll rest

/-- Uploads and compiles a stage, reports what the driver says and tells whether it compiled. -/
def compileStage (source : ProgramSource) (kind : StageKind) (stage : S) :
    Script (graphics S P T) Bool :=
  .call (.compileStage stage (source.stage kind)) fun _ =>
  .call (.stageCompiled stage) fun compiled =>
  .call (.stageLog stage) fun log =>
    if !compiled then .log (.stageFailed kind (trimmed log)) (.done compiled)
    else if trimmed log = "" then .done compiled
    else .log (.stageReport kind (trimmed log)) (.done compiled)

/-- Links a program, reports what the driver says and gives the status. -/
def linkProgram (program : P) : Script (graphics S P T) LinkStatus :=
  .call (.linkProgram program) fun _ =>
  .call (.programLinked program) fun linked =>
  .call (.programLog program) fun log =>
    if !linked then .log (.linkFailed (trimmed log)) (.done .failed)
    else if trimmed log = "" then .done .linked
    else .log (.linkReport (trimmed log)) (.done .linked)

/-- The location of each uniform slot. Only slots with a name are asked for. -/
def locations (program : P) : List (Option String) → Script (graphics S P T) (List Int)
  | [] => .done []
  | none :: rest => do return unresolvedLocation :: (← locations program rest)
  | some name :: rest =>
    .call (.uniformLocation program name) fun (location : Option Int) => do
      return location.getD unresolvedLocation :: (← locations program rest)

/-- Links a program of two compiled stages and resolves its uniforms. -/
def finish (source : ProgramSource) (vertex fragment : S) (failedStages : List StageKind)
    (program : P) : Script (graphics S P T) (LinkedProgram P) := do
  sendAll [.attachStage program vertex, .attachStage program fragment]
  sendAll (source.namedAttributes.map fun entry => .bindAttribute program entry.1 entry.2)
  let status ← linkProgram program
  let resolved ← locations program source.uniforms
  sendAll [.detachStage program vertex, .detachStage program fragment,
    .deleteStage vertex, .deleteStage fragment]
  return ⟨program, resolved, status, failedStages⟩

/-- Compiles two created stages and makes a program of them. -/
def link (source : ProgramSource) (vertex fragment : S) :
    Script (graphics S P T) (Except AssemblyError (LinkedProgram P)) := do
  let vertexCompiled ← compileStage source .vertex vertex
  let fragmentCompiled ← compileStage source .fragment fragment
  let failedStages :=
    (if vertexCompiled then [] else [.vertex]) ++ (if fragmentCompiled then [] else [.fragment])
  .call .createProgram fun (created : Except String P) =>
    match created with
    | .error text => do
      sendAll [.deleteStage vertex, .deleteStage fragment]
      return .error (.backend text)
    | .ok program => do return .ok (← finish source vertex fragment failedStages program)

end Assembly

/-- Assembles a program source. -/
def assemble {S P T : Type} (source : ProgramSource) :
    Script (graphics S P T) (Except AssemblyError (LinkedProgram P)) :=
  if source.withinCapacity then
    .call (.createStage .vertex) fun (created : Except String S) =>
      match created with
      | .error text => .done (.error (.backend text))
      | .ok vertex =>
        .call (.createStage .fragment) fun (created : Except String S) =>
          match created with
          | .error text => do
            Assembly.sendAll [.deleteStage vertex]
            return .error (.backend text)
          | .ok fragment => Assembly.link source vertex fragment
  else .done (.error (.capacity source.attributes.length source.uniforms.length))

end ShaderPipeline.Gpu
