import ShaderPipeline.Gpu.Simulated

/-!
# Recordings

A device for tests that answers as it was told to and keeps the calls that it was asked for. It
keeps the calls that change something and the queries of uniform locations; queries of statuses and
logs are not kept. The logs cannot be chosen: exactly failures have one, and always the same.
-/

namespace ShaderPipeline.Gpu

/-- The log of a stage that does not compile. -/
def failedStageLog : String := "0:1(1): error: syntax error"

/-- The log of a program that does not link. -/
def failedLinkLog : String := "error: vertex output v_uv not read by fragment stage"

/-- The behaviour in which exactly failures have a log, and always the same one. -/
def Behaviour.withFixedLogs (b : Behaviour) : Behaviour :=
  let log (kind : StageKind) := if kind ∈ b.failingStages then failedStageLog else ""
  { b with
    vertexLog := log .vertex
    fragmentLog := log .fragment
    programLog := if b.failsLink then failedLinkLog else "" }

/-- A device that keeps calls: what it kept, what it was told, the last handle that was given out
and the kinds of the stages that were created. -/
structure Recorder where
  calls : List (Call Nat Nat Nat) := []
  locations : List (String × Int) := []
  failingStages : List StageKind := []
  refusedStages : List StageKind := []
  failsLink : Bool := false
  refusesPrograms : Bool := false
  lastHandle : Nat := 0
  stageKinds : List (Nat × StageKind) := []
deriving DecidableEq

namespace Recorder

/-- Tells a recorder what to do. It has no use for the logs. -/
def withBehaviour (r : Recorder) (b : Behaviour) : Recorder :=
  { r with
    locations := b.locations
    failingStages := b.failingStages
    refusedStages := b.refusedStages
    failsLink := b.failsLink
    refusesPrograms := b.refusesPrograms }

/-- Keeps a call. -/
def record (r : Recorder) (c : Call Nat Nat Nat) : Recorder := { r with calls := r.calls ++ [c] }

/-- Gives out a handle. -/
def allocate (r : Recorder) : Nat × Recorder :=
  (r.lastHandle + 1, { r with lastHandle := r.lastHandle + 1 })

/-- The kind of a stage. -/
def stageKind? (r : Recorder) (stage : Nat) : Option StageKind := r.stageKinds.lookup stage

/-- Whether a stage compiles. -/
def compiles (r : Recorder) (stage : Nat) : Bool :=
  (r.stageKind? stage).any fun kind => kind ∉ r.failingStages

/-- The answer to a call of the graphics interface, and the device after it. -/
def answer (c : Call Nat Nat Nat) (r : Recorder) : c.Reply × Recorder :=
  match c with
  | .createStage kind =>
    let recorded := r.record (.createStage kind)
    if kind ∈ r.refusedStages then (.error ("out of " ++ kind.name ++ " stage objects"), recorded)
    else
      let (stage, after) := recorded.allocate
      (.ok stage, { after with stageKinds := (stage, kind) :: after.stageKinds })
  | .createProgram =>
    let recorded := r.record .createProgram
    if r.refusesPrograms then (.error "out of program objects", recorded)
    else
      let (program, after) := recorded.allocate
      (.ok program, after)
  | .stageCompiled stage => (r.compiles stage, r)
  | .stageLog stage => (if r.compiles stage then "" else failedStageLog, r)
  | .programLinked _ => (!r.failsLink, r)
  | .programLog _ => (if r.failsLink then failedLinkLog else "", r)
  | .uniformLocation program name =>
    (r.locations.lookup name, r.record (.uniformLocation program name))
  | .compileStage stage text => ((), r.record (.compileStage stage text))
  | .deleteStage stage => ((), r.record (.deleteStage stage))
  | .attachStage program stage => ((), r.record (.attachStage program stage))
  | .detachStage program stage => ((), r.record (.detachStage program stage))
  | .bindAttribute program slot name => ((), r.record (.bindAttribute program slot name))
  | .linkProgram program => ((), r.record (.linkProgram program))
  | .deleteProgram program => ((), r.record (.deleteProgram program))
  | .useProgram program => ((), r.record (.useProgram program))
  | .activeTexture unit => ((), r.record (.activeTexture unit))
  | .bindTexture texture => ((), r.record (.bindTexture texture))

/-- The device that answers like a recorder. -/
def device : Device (graphics Nat Nat Nat) Recorder := ⟨answer⟩

/-- The place of the first kept call of a kind. -/
def position (r : Recorder) (p : Call Nat Nat Nat → Bool) : Option Nat := r.calls.findIdx? p

/-- The number of kept calls of a kind. -/
def count (r : Recorder) (p : Call Nat Nat Nat → Bool) : Nat := r.calls.countP p

/-- The first text that was uploaded to a stage of a kind. -/
def uploadedText? (r : Recorder) (kind : StageKind) : Option String :=
  r.calls.findSome? fun
    | .compileStage stage text => if r.stageKind? stage = some kind then some text else none
    | _ => none

end Recorder

namespace Recording

/-- Whether a call is part of a recording. -/
def isRecorded : Call Nat Nat Nat → Bool
  | .stageCompiled _ | .stageLog _ | .programLinked _ | .programLog _ => false
  | _ => true

/-- The recording of a list of calls. -/
def ofCalls (calls : List (Call Nat Nat Nat)) : List (Call Nat Nat Nat) :=
  calls.filter isRecorded

end Recording

end ShaderPipeline.Gpu
