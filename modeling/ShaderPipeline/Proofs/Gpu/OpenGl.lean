import ShaderPipeline.Gpu.OpenGl
import ShaderPipeline.Proofs.Gpu.Likeness

/-!
# A device behind OpenGL

Carrying out the calls of a script with those of another interface is running the script on a device
behind that interface (`Script.run_through`). Behind OpenGL, a simulated device is like the plain
one (`lockstep_gl`): every negative location is the unresolved one, creations that fail have other
texts (`glLikeness`), and nothing else differs. The functions that are called are those of a table
(`Exchange.glCalls`), which has the numbers of OpenGL as they are.

Single calls are compared in `run_carry`. OpenGL takes no names with a NUL character; nothing is
said about what happens then.
-/

namespace ShaderPipeline.Gpu

variable {σ α : Type}

/-! ## Devices behind another interface -/

section

variable {I J : Interface}

/-- A device of an interface whose calls are carried out with those of another one. -/
def Device.through (carry : (c : I.Call) → Script J (I.Reply c)) (device : Device J σ) :
    Device I σ where
  answer c state := (((carry c).run device state).result, ((carry c).run device state).state)

/-- Carrying out the calls of a script is running it on the device behind the interface. -/
theorem Script.run_through {carry : (c : I.Call) → Script J (I.Reply c)} {device : Device J σ}
    (calls : Exchange I → List J.Call)
    (hcarry : ∀ c state, ((carry c).run device state).events = [] ∧
      ((carry c).run device state).calls = calls ⟨c, ((carry c).run device state).result⟩)
    (script : Script I α) (state : σ) :
    (script.through carry).run device state =
      ⟨(script.run (device.through carry) state).result,
        (script.exchanges (device.through carry) state).flatMap calls,
        (script.run (device.through carry) state).events,
        (script.run (device.through carry) state).state⟩ := by
  induction script generalizing state with
  | done result => rfl
  | call c next ih =>
    obtain ⟨hevents, hcalls⟩ := hcarry c state
    simp only [Script.through, Script.run_bind, ih, hevents, hcalls, List.nil_append]
    rfl
  | log event rest ih =>
    simp only [Script.through, Script.run, ih]
    rfl

end

/-! ## Through OpenGL -/

/-- The functions of OpenGL that are called for an exchange, with the numbers of OpenGL. -/
def Exchange.glCalls : Exchange (graphics Nat Nat Nat) → List GlCall
  | ⟨.createStage .vertex, _⟩ => [.createShader 35633]
  | ⟨.createStage .fragment, _⟩ => [.createShader 35632]
  | ⟨.compileStage stage text, _⟩ => [.shaderSource stage text, .compileShader stage]
  | ⟨.stageCompiled stage, _⟩ => [.getShader stage 35713]
  | ⟨.stageLog stage, (log : String)⟩ =>
    .getShader stage 35716 ::
      if log = "" then [] else [.getShaderInfoLog stage (log.utf8ByteSize + 1)]
  | ⟨.deleteStage stage, _⟩ => [.deleteShader stage]
  | ⟨.createProgram, _⟩ => [.createProgram]
  | ⟨.attachStage program stage, _⟩ => [.attachShader program stage]
  | ⟨.detachStage program stage, _⟩ => [.detachShader program stage]
  | ⟨.bindAttribute program slot name, _⟩ => [.bindAttribLocation program slot name]
  | ⟨.linkProgram program, _⟩ => [.linkProgram program]
  | ⟨.programLinked program, _⟩ => [.getProgram program 35714]
  | ⟨.programLog program, (log : String)⟩ =>
    .getProgram program 35716 ::
      if log = "" then [] else [.getProgramInfoLog program (log.utf8ByteSize + 1)]
  | ⟨.uniformLocation program name, _⟩ => [.getUniformLocation program name]
  | ⟨.deleteProgram program, _⟩ => [.deleteProgram program]
  | ⟨.useProgram none, _⟩ => [.useProgram 0]
  | ⟨.useProgram (some program), _⟩ => [.useProgram program]
  | ⟨.activeTexture unit, _⟩ => [.activeTexture (33984 + unit)]
  | ⟨.bindTexture none, _⟩ => [.bindTexture 3553 0]
  | ⟨.bindTexture (some texture), _⟩ => [.bindTexture 3553 texture]

/-- The text with which a creation fails on the plain device, and the one through OpenGL. -/
def refusalTexts : List (String × String) :=
  [("out of vertex stage objects", "Unable to create Shader object"),
    ("out of fragment stage objects", "Unable to create Shader object"),
    ("out of program objects", "Unable to create Program object")]

/-- What is different through OpenGL. -/
def glLikeness : Likeness where
  location location := if location < 0 then unresolvedLocation else location
  location_unresolved := rfl
  text text other := (text, other) ∈ refusalTexts
  logs := True

/-- A stage is created through OpenGL as on the plain device. -/
theorem run_createStage (kind : StageKind) (s : Simulation) :
    (GlCall.carry (.createStage kind)).run Simulation.glDevice s =
      match s.createStage? kind with
      | some (handle, after) => ⟨.ok handle, [.createShader (GlCall.shaderType kind)], [], after⟩
      | none =>
        ⟨.error "Unable to create Shader object", [.createShader (GlCall.shaderType kind)], [],
          s⟩ := by
  have hanswer : Simulation.answerGl (.createShader (GlCall.shaderType kind)) s =
      match s.createStage? kind with
      | some (handle, after) => (handle, after)
      | none => ((0 : Nat), s) := by
    cases kind with
    | vertex => rfl
    | fragment => rfl
  have hrun : (GlCall.carry (.createStage kind)).run Simulation.glDevice s =
      let created : Nat × Simulation :=
        Simulation.answerGl (.createShader (GlCall.shaderType kind)) s
      ⟨if created.1 = 0 then .error "Unable to create Shader object" else .ok created.1,
        [.createShader (GlCall.shaderType kind)], [], created.2⟩ := rfl
  rw [hrun, hanswer]
  unfold Simulation.createStage?
  by_cases hrefused : kind ∈ s.behaviour.refusedStages
  · rw [if_pos hrefused]
    rfl
  · rw [if_neg hrefused]
    rfl

/-- A program is created through OpenGL as on the plain device. -/
theorem run_createProgram (s : Simulation) :
    (GlCall.carry .createProgram).run Simulation.glDevice s =
      match s.createProgram? with
      | some (handle, after) => ⟨.ok handle, [.createProgram], [], after⟩
      | none => ⟨.error "Unable to create Program object", [.createProgram], [], s⟩ := by
  have hrun : (GlCall.carry .createProgram).run Simulation.glDevice s =
      let created : Nat × Simulation :=
        match s.createProgram? with
        | some (handle, after) => (handle, after)
        | none => (0, s)
      ⟨if created.1 = 0 then .error "Unable to create Program object" else .ok created.1,
        [.createProgram], [], created.2⟩ := rfl
  rw [hrun]
  unfold Simulation.createProgram?
  by_cases hrefused : s.behaviour.refusesPrograms
  · rw [if_pos hrefused]
    rfl
  · rw [if_neg hrefused]
    rfl

/-- A log is read if it is not empty. -/
theorem run_readLog (log : String) (first : GlCall) (read : Nat → GlCall)
    (script : (length : Nat) → Script GlCall.interface String) (s : Simulation)
    (hread : ∀ length, (script length).run Simulation.glDevice s = ⟨log, [read length], [], s⟩) :
    let run := (GlCall.readLog (Simulation.logLength log) (script (Simulation.logLength log))).run
      Simulation.glDevice s
    (⟨run.result, first :: run.calls, run.events, run.state⟩ : Run GlCall.interface _ _) =
      ⟨log, first :: if log = "" then [] else [read (log.utf8ByteSize + 1)], [], s⟩ := by
  unfold GlCall.readLog Simulation.logLength
  by_cases hempty : log = ""
  · subst hempty
    rfl
  · rw [if_neg hempty, if_neg hempty, if_pos (Nat.succ_pos _), hread]

/-- The log of a stage is read through OpenGL. -/
theorem run_stageLog (stage : Nat) (s : Simulation) :
    (GlCall.carry (.stageLog stage)).run Simulation.glDevice s =
      ⟨s.stageLog stage, Exchange.glCalls ⟨.stageLog stage, s.stageLog stage⟩, [], s⟩ :=
  run_readLog (s.stageLog stage) (.getShader stage GlCall.infoLogLength)
    (.getShaderInfoLog stage) (fun length => GlCall.send (.getShaderInfoLog stage length)) s
    fun _ => rfl

/-- The log of a program is read through OpenGL. -/
theorem run_programLog (program : Nat) (s : Simulation) :
    (GlCall.carry (.programLog program)).run Simulation.glDevice s =
      ⟨s.behaviour.programLog, Exchange.glCalls ⟨.programLog program, s.behaviour.programLog⟩, [],
        s⟩ :=
  run_readLog s.behaviour.programLog (.getProgram program GlCall.infoLogLength)
    (.getProgramInfoLog program) (fun length => GlCall.send (.getProgramInfoLog program length)) s
    fun _ => rfl

/-- A flag is a truth value again. -/
theorem decide_flag_eq_one (b : Bool) : decide (Simulation.flag b = 1) = b := by
  cases b with
  | false => rfl
  | true => rfl

/-- What carries out a call through OpenGL makes the calls of the table, and the reply is like that
of the plain device. -/
theorem run_carry (c : Call Nat Nat Nat) (s : Simulation) :
    let run := (GlCall.carry c).run Simulation.glDevice s
    glLikeness.Reply c (Simulation.answer c s).1 run.result ∧
      run.calls = Exchange.glCalls ⟨c, run.result⟩ ∧ run.events = [] ∧
      run.state = (Simulation.answer c s).2 := by
  intro run
  cases c with
  | createStage kind =>
    have hcalls : ∀ reply, Exchange.glCalls ⟨.createStage kind, reply⟩ =
        [.createShader (GlCall.shaderType kind)] := by
      cases kind with
      | vertex => exact fun _ => rfl
      | fragment => exact fun _ => rfl
    simp only [run, hcalls, run_createStage, Simulation.answer]
    cases s.createStage? kind with
    | none =>
      refine ⟨.error ?_, rfl, rfl, rfl⟩
      cases kind with
      | vertex => exact List.mem_cons_self
      | fragment => exact List.mem_cons_of_mem _ List.mem_cons_self
    | some made => exact ⟨.ok, rfl, rfl, rfl⟩
  | createProgram =>
    simp only [run, run_createProgram, Simulation.answer]
    cases s.createProgram? with
    | none => exact ⟨.error (by simp [glLikeness, refusalTexts]), rfl, rfl, rfl⟩
    | some made => exact ⟨.ok, rfl, rfl, rfl⟩
  | stageCompiled stage => exact ⟨decide_flag_eq_one _, rfl, rfl, rfl⟩
  | stageLog stage =>
    rw [show run = _ from run_stageLog stage s]
    exact ⟨fun _ => rfl, rfl, rfl, rfl⟩
  | programLinked program => exact ⟨decide_flag_eq_one _, rfl, rfl, rfl⟩
  | programLog program =>
    rw [show run = _ from run_programLog program s]
    exact ⟨fun _ => rfl, rfl, rfl, rfl⟩
  | uniformLocation program name =>
    refine ⟨?_, rfl, rfl, rfl⟩
    exact apply_ite (Option.getD · unresolvedLocation) ..
  | useProgram program =>
    cases program with
    | none => exact ⟨rfl, rfl, rfl, rfl⟩
    | some program => exact ⟨rfl, rfl, rfl, rfl⟩
  | bindTexture texture =>
    cases texture with
    | none => exact ⟨rfl, rfl, rfl, rfl⟩
    | some texture => exact ⟨rfl, rfl, rfl, rfl⟩
  | _ => exact ⟨rfl, rfl, rfl, rfl⟩

/-- The functions that are called for an exchange do not depend on what may be different. -/
theorem glCalls_eq (c : Call Nat Nat Nat) (reply answer : c.Reply)
    (h : glLikeness.Reply c reply answer) :
    Exchange.glCalls ⟨c, answer⟩ = Exchange.glCalls ⟨c, reply⟩ := by
  cases c with
  | createStage kind =>
    cases kind with
    | vertex => rfl
    | fragment => rfl
  | stageLog stage => rw [h trivial]
  | programLog program => rw [h trivial]
  | useProgram program =>
    cases program with
    | none => rfl
    | some program => rfl
  | bindTexture texture =>
    cases texture with
    | none => rfl
    | some texture => rfl
  | _ => rfl

/-- The device behind OpenGL is like the plain one. -/
theorem lockstep_gl :
    Lockstep glLikeness.Reply Simulation.device (Simulation.glDevice.through GlCall.carry)
      fun _ s other => other = s where
  reply := by
    intro known s other hother c _
    subst hother
    exact (run_carry c other).1
  state := by
    intro known s other hother c
    subst hother
    exact (run_carry c other).2.2.2

end ShaderPipeline.Gpu
