import ShaderPipeline.Gpu.Simulated

/-!
# Graphics calls on OpenGL

How each graphics call is carried out with the functions of OpenGL. Objects are named by positive
numbers, and 0 stands for no object: a creation that gives 0 has failed. A log is read only if its
length is not 0, and a negative uniform location means that there is no such uniform. At the end of
the module, a simulated device answers the functions of OpenGL.
-/

namespace ShaderPipeline.Gpu

/-- A call of an OpenGL function that programs and bindings need. -/
inductive GlCall where
  | createShader (type : Nat)
  | shaderSource (shader : Nat) (text : String)
  | compileShader (shader : Nat)
  | getShader (shader parameter : Nat)
  | getShaderInfoLog (shader length : Nat)
  | deleteShader (shader : Nat)
  | createProgram
  | attachShader (program shader : Nat)
  | detachShader (program shader : Nat)
  | bindAttribLocation (program slot : Nat) (name : String)
  | linkProgram (program : Nat)
  | getProgram (program parameter : Nat)
  | getProgramInfoLog (program length : Nat)
  | getUniformLocation (program : Nat) (name : String)
  | deleteProgram (program : Nat)
  | useProgram (program : Nat)
  | activeTexture (unit : Nat)
  | bindTexture (target texture : Nat)
deriving DecidableEq

namespace GlCall

/-- The reply of a function. -/
def Reply : GlCall → Type
  | .createShader _ => Nat
  | .createProgram => Nat
  | .getShader _ _ => Nat
  | .getProgram _ _ => Nat
  | .getShaderInfoLog _ _ => String
  | .getProgramInfoLog _ _ => String
  | .getUniformLocation _ _ => Int
  | _ => Unit

/-- The type of vertex shaders. -/
def vertexShader : Nat := 35633

/-- The type of fragment shaders. -/
def fragmentShader : Nat := 35632

/-- The parameter that says whether a shader compiled. -/
def compileStatus : Nat := 35713

/-- The parameter that says whether a program linked. -/
def linkStatus : Nat := 35714

/-- The parameter that says how long a log is, with the mark of its end. -/
def infoLogLength : Nat := 35716

/-- The number of the first texture unit. -/
def texture0 : Nat := 33984

/-- The binding point of two-dimensional textures. -/
def texture2D : Nat := 3553

/-- The shader type of a stage. -/
def shaderType : StageKind → Nat
  | .vertex => vertexShader
  | .fragment => fragmentShader

/-- The stage of a shader type. -/
def stageKind? (type : Nat) : Option StageKind :=
  if type = vertexShader then some .vertex
  else if type = fragmentShader then some .fragment
  else none

/-- The interface of OpenGL. -/
abbrev interface : Interface := ⟨GlCall, Reply⟩

/-- One function call. -/
def send (c : GlCall) : Script interface c.Reply := Script.send (I := interface) c

/-- One function call whose reply says nothing more. -/
def order (c : GlCall) : Script interface Unit := .call c fun _ => .done ()

/-- A log, read if it is not empty. -/
def readLog (length : Nat) (read : Script interface String) : Script interface String :=
  if 0 < length then read else .done ""

/-- The functions that carry out a graphics call. -/
def carry : (c : Call Nat Nat Nat) → Script interface c.Reply
  | .createStage kind =>
    .call (.createShader (shaderType kind)) fun (shader : Nat) =>
      .done (if shader = 0 then .error "Unable to create Shader object" else .ok shader)
  | .compileStage stage text => do
    order (.shaderSource stage text)
    order (.compileShader stage)
  | .stageCompiled stage =>
    .call (.getShader stage compileStatus) fun (status : Nat) => .done (decide (status = 1))
  | .stageLog stage =>
    .call (.getShader stage infoLogLength) fun (length : Nat) =>
      readLog length (send (.getShaderInfoLog stage length))
  | .deleteStage stage => order (.deleteShader stage)
  | .createProgram =>
    .call .createProgram fun (program : Nat) =>
      .done (if program = 0 then .error "Unable to create Program object" else .ok program)
  | .attachStage program stage => order (.attachShader program stage)
  | .detachStage program stage => order (.detachShader program stage)
  | .bindAttribute program slot name => order (.bindAttribLocation program slot name)
  | .linkProgram program => order (.linkProgram program)
  | .programLinked program =>
    .call (.getProgram program linkStatus) fun (status : Nat) => .done (decide (status = 1))
  | .programLog program =>
    .call (.getProgram program infoLogLength) fun (length : Nat) =>
      readLog length (send (.getProgramInfoLog program length))
  | .uniformLocation program name =>
    .call (.getUniformLocation program name) fun (location : Int) =>
      .done (if location < 0 then none else some location)
  | .deleteProgram program => order (.deleteProgram program)
  | .useProgram program => order (.useProgram (program.getD 0))
  | .activeTexture unit => order (.activeTexture (texture0 + unit))
  | .bindTexture texture => order (.bindTexture texture2D (texture.getD 0))

end GlCall

namespace Simulation

/-- The length that OpenGL gives for a log: with the mark of its end, or 0 if it is empty. -/
def logLength (log : String) : Nat := if log = "" then 0 else log.utf8ByteSize + 1

/-- A truth value as OpenGL gives it. -/
def flag (b : Bool) : Nat := if b then 1 else 0

/-- The value of a parameter of a shader. -/
def shaderParameter (s : Simulation) (shader parameter : Nat) : Nat :=
  if parameter = GlCall.compileStatus then flag (s.compiles shader)
  else if parameter = GlCall.infoLogLength then logLength (s.stageLog shader)
  else 0

/-- The value of a parameter of a program. -/
def programParameter (s : Simulation) (parameter : Nat) : Nat :=
  if parameter = GlCall.linkStatus then flag (!s.behaviour.failsLink)
  else if parameter = GlCall.infoLogLength then logLength s.behaviour.programLog
  else 0

/-- The answer to a function of OpenGL, and the device after it. -/
def answerGl (c : GlCall) (s : Simulation) : c.Reply × Simulation :=
  match c with
  | .createShader type =>
    match (GlCall.stageKind? type).bind s.createStage? with
    | some (handle, after) => (handle, after)
    | none => ((0 : Nat), s)
  | .createProgram =>
    match s.createProgram? with
    | some (handle, after) => (handle, after)
    | none => ((0 : Nat), s)
  | .getShader shader parameter => (s.shaderParameter shader parameter, s)
  | .getProgram _ parameter => (s.programParameter parameter, s)
  | .getShaderInfoLog shader _ => (s.stageLog shader, s)
  | .getProgramInfoLog _ _ => (s.behaviour.programLog, s)
  | .getUniformLocation _ name => ((s.behaviour.locations.lookup name).getD (-1), s)
  | .shaderSource _ _ | .compileShader _ | .deleteShader _ | .attachShader _ _
  | .detachShader _ _ | .bindAttribLocation _ _ _ | .linkProgram _ | .deleteProgram _
  | .useProgram _ | .activeTexture _ | .bindTexture _ _ => ((), s)

/-- The device that answers the functions of OpenGL like a simulation. -/
def glDevice : Device GlCall.interface Simulation := ⟨answerGl⟩

end Simulation

end ShaderPipeline.Gpu
