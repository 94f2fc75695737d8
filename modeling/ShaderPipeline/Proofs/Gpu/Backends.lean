import Mathlib.Data.List.Forall2
import ShaderPipeline.Proofs.Gpu.OpenGl
import ShaderPipeline.Proofs.Gpu.Recording

/-!
# Backends agree

The same work on three devices: a plain one that is asked directly, one that is reached through
OpenGL, and the recorder. All of them do what one behaviour says and number their objects with one
counter. A session of assemblies and bindings does the same on all of them, from any tracker and any
state of the device (`backends_agree`), with the differences that `glLikeness` and
`AgreesRecorded` name.

Sessions start anywhere, so they can follow one another, and the behaviour can change in between.
-/

namespace ShaderPipeline.Gpu

variable {S P T : Type}

/-! ## Sessions -/

/-- What is asked of a device with a tracker. -/
inductive Operation (P T : Type) where
  | assemble (source : ProgramSource)
  | activate (program : P)
  | deactivate
  | bind (unit : Nat) (texture : T)
  | delete (program : P)
  | forget (texture : T)
  | reset

/-- What an operation gives. -/
inductive Outcome (P : Type) where
  | assembled (made : Except AssemblyError (LinkedProgram P))
  | activated (called : Bool)
  | bound (called : Except UnitOutOfRange Bool)
  | done

section

variable [DecidableEq P] [DecidableEq T]

/-- Does an operation. -/
def Operation.perform (tracker : BindingTracker P T) :
    Operation P T → Script (graphics S P T) (Outcome P × BindingTracker P T)
  | .assemble source => (Gpu.assemble source).bind fun made => .done (.assembled made, tracker)
  | .activate program =>
    (tracker.activate program).bind fun (called, after) => .done (.activated called, after)
  | .deactivate => tracker.deactivate.bind fun after => .done (.done, after)
  | .bind unit texture =>
    (tracker.bind unit texture).bind fun (called, after) => .done (.bound called, after)
  | .delete program => (tracker.delete program).bind fun after => .done (.done, after)
  | .forget texture => .done (.done, tracker.forget texture)
  | .reset => .done (.done, tracker.reset)

/-- Does operations in turn. -/
def session (tracker : BindingTracker P T) :
    List (Operation P T) → Script (graphics S P T) (List (Outcome P) × BindingTracker P T)
  | [] => .done ([], tracker)
  | operation :: operations =>
    (operation.perform tracker).bind fun (outcome, after) =>
      (session after operations).bind fun (outcomes, last) => .done (outcome :: outcomes, last)

end

namespace Likeness

variable (L : Likeness)

/-- Two outcomes are alike. -/
inductive SameOutcome : Outcome P → Outcome P → Prop
  | assembled {made other : Except AssemblyError (LinkedProgram P)} (h : L.Assembled made other) :
      SameOutcome (.assembled made) (.assembled other)
  | activated {called : Bool} : SameOutcome (.activated called) (.activated called)
  | bound {called : Except UnitOutOfRange Bool} : SameOutcome (.bound called) (.bound called)
  | done : SameOutcome .done .done

/-- Two sessions have outcomes that are alike, and then the tracker knows the same. -/
structure SameSession (first second : List (Outcome P) × BindingTracker P T) : Prop where
  outcomes : List.Forall₂ L.SameOutcome first.1 second.1
  tracker : second.2 = first.2

variable {L}

/-- If neither locations nor texts differ, sessions that are alike are the same. -/
theorem SameSession.eq {first second : List (Outcome P) × BindingTracker P T}
    (h : L.SameSession first second) (hlocation : L.location = id) (htext : L.text = Eq) :
    second = first := by
  have hsame : ∀ outcome other, L.SameOutcome (P := P) outcome other → outcome = other := by
    intro outcome other hoccurred
    cases hoccurred with
    | assembled hmade =>
      cases hmade with
      | ok => rw [hlocation, LinkedProgram.relocated, List.map_id]
      | tooLong => rfl
      | refused htexts =>
        rw [htext] at htexts
        rw [htexts]
    | activated => rfl
    | bound => rfl
    | done => rfl
  have houtcomes := h.outcomes.imp hsame
  rw [List.forall₂_eq_eq_eq] at houtcomes
  exact Prod.ext houtcomes.symm h.tracker

variable [DecidableEq P] [DecidableEq T]

/-- An operation is alike to itself. -/
theorem perform_alike (tracker : BindingTracker P T) (operation : Operation P T) :
    Alike (S := S) L.Reply L.logs (fun first second => L.SameOutcome first.1 second.1 ∧ second.2 = first.2) []
      (operation.perform tracker) (operation.perform tracker) := by
  cases operation with
  | assemble source =>
    exact (assemble_alike L.bounds_reply source).bind fun _ _ h =>
      .done ⟨.assembled h.assembled, rfl⟩
  | activate program =>
    refine (tracker.activate_alike program).bind fun result _ h => .done ?_
    subst h
    exact ⟨.activated, rfl⟩
  | deactivate =>
    refine tracker.deactivate_alike.bind fun result _ h => .done ?_
    subst h
    exact ⟨.done, rfl⟩
  | bind unit texture =>
    refine (tracker.bind_alike unit texture).bind fun result _ h => .done ?_
    subst h
    exact ⟨.bound, rfl⟩
  | delete program =>
    refine (tracker.delete_alike program).bind fun result _ h => .done ?_
    subst h
    exact ⟨.done, rfl⟩
  | forget texture => exact .done ⟨.done, rfl⟩
  | reset => exact .done ⟨.done, rfl⟩

/-- A session is alike to itself. -/
theorem session_alike (tracker : BindingTracker P T) (operations : List (Operation P T)) :
    Alike (S := S) L.Reply L.logs L.SameSession [] (session tracker operations)
      (session tracker operations) := by
  induction operations generalizing tracker with
  | nil => exact .done ⟨.nil, rfl⟩
  | cons operation operations ih =>
    refine (perform_alike tracker operation).bind fun (outcome, after) (other, _) h => ?_
    obtain ⟨houtcome, rfl⟩ := h
    refine (ih _).bind fun rest last hrest => .done ?_
    exact ⟨.cons houtcome hrest.outcomes, hrest.tracker⟩

end Likeness

/-! ## Three devices -/

/-- What is the same through OpenGL. -/
structure AgreesThroughGl (exchanges : List (Exchange (graphics Nat Nat Nat)))
    (plain : Run (graphics Nat Nat Nat) Simulation (List (Outcome Nat) × BindingTracker Nat Nat))
    (gl : Run GlCall.interface Simulation (List (Outcome Nat) × BindingTracker Nat Nat)) :
    Prop where
  /-- The outcomes are alike, and the tracker knows the same. -/
  result : glLikeness.SameSession plain.result gl.result
  /-- The functions that are called are those of the table, exchange by exchange. -/
  calls : gl.calls = exchanges.flatMap Exchange.glCalls
  /-- The events are the same. -/
  events : gl.events = plain.events
  /-- The device comes as far. -/
  state : gl.state = plain.state

/-- What is the same with the recorder. -/
structure AgreesRecorded {α : Type} (plain logged : Run (graphics Nat Nat Nat) Simulation α)
    (recorded : Run (graphics Nat Nat Nat) Recorder α) : Prop where
  /-- The result is the same, whatever the logs are. -/
  result : recorded.result = plain.result
  /-- The recorder is asked for the same calls. -/
  calls : recorded.calls = plain.calls
  /-- It keeps those that are part of a recording, and comes as far. -/
  state : recorded.state = .following plain.state (Recording.ofCalls plain.calls)
  /-- The events are those of a device with the logs of the recorder. -/
  events : recorded.events = logged.events

/-- A session does the same on all devices: on a plain one, through OpenGL and on the recorder. -/
theorem backends_agree (tracker : BindingTracker Nat Nat) (operations : List (Operation Nat Nat))
    (start : Simulation) :
    let script : Script (graphics Nat Nat Nat) _ := session tracker operations
    let plain := script.run Simulation.device start
    let logged := script.run Simulation.device
      { start with behaviour := start.behaviour.withFixedLogs }
    AgreesThroughGl (script.exchanges Simulation.device start) plain
        ((script.through GlCall.carry).run Simulation.glDevice start) ∧
      AgreesRecorded plain logged (script.run Recorder.device (.following start [])) := by
  intro script plain logged
  have halike {L : Likeness} : Alike L.Reply L.logs L.SameSession [] script script :=
    Likeness.session_alike tracker operations
  constructor
  · have hthrough := Script.run_through Exchange.glCalls
      (fun c s => ⟨(run_carry c s).2.2.1, (run_carry c s).2.1⟩) script start
    have hstart : start = start := rfl
    obtain ⟨hresult, -, hevents, -, hstate⟩ := halike.run_eq lockstep_gl hstart
    rw [hthrough]
    exact ⟨hresult, halike.flatMap_exchanges lockstep_gl hstart glCalls_eq, hevents trivial,
      hstate⟩
  · have hrecorded (s : Simulation) := halike.run_eq (lockstep_recorder s.behaviour)
      ⟨rfl, ⟨[], rfl⟩, List.forall_mem_nil fun stage => ∃ kind, s.stageKind? stage = some kind⟩
    obtain ⟨hresult, hcalls, -, -, -, ⟨kept, hstate⟩, -⟩ := hrecorded start
    have hkept : kept = Recording.ofCalls plain.calls := by
      have hcount := calls_run script (.following start [])
      rw [hcalls, hstate] at hcount
      exact hcount
    obtain ⟨-, -, hevents, -⟩ :=
      hrecorded { start with behaviour := start.behaviour.withFixedLogs }
    exact ⟨hresult.eq rfl rfl, hcalls, hkept ▸ hstate, hevents rfl⟩

/-- A device that has a uniform at a negative location. -/
def sunkenDevice : Simulation := { behaviour := { locations := [("u", -5), ("v", 2)] } }

example :
    let script := assemble ⟨"", "", [], [some "u", none, some "v"]⟩
    (script.run Simulation.device sunkenDevice).result.toOption.map (·.locations) =
        some [-5, -1, 2] ∧
      ((script.through GlCall.carry).run Simulation.glDevice sunkenDevice).result.toOption.map
        (·.locations) = some [-1, -1, 2] := by
  decide +kernel

end ShaderPipeline.Gpu
