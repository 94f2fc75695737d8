import ShaderPipeline.Gpu.Call

/-!
# Binding tracker

Remembers which program is in use, which texture unit is active and which texture each unit has,
and leaves out calls that would change nothing. It knows only what went through it: after anything
else has touched the device, `reset` makes it forget everything.
-/

namespace ShaderPipeline.Gpu

/-- The number of texture units. -/
def unitCount : Nat := 32

/-- What is known to be bound. What is not known is absent. -/
structure BindingTracker (P T : Type) where
  program : Option P
  unit : Option Nat
  textures : Vector (Option T) unitCount

/-- A texture unit that does not exist. -/
structure UnitOutOfRange where
  unit : Nat
deriving DecidableEq

/-- The message of the error. -/
def UnitOutOfRange.message (e : UnitOutOfRange) : String :=
  "texture unit " ++ toString e.unit ++ " is out of range (maximum " ++
    toString (unitCount - 1) ++ ")"

namespace BindingTracker

variable {S P T : Type} [DecidableEq P] [DecidableEq T]

/-- A tracker that knows nothing. -/
def empty : BindingTracker P T := ⟨none, none, Vector.replicate unitCount none⟩

/-- The texture that is known to be bound to a unit. -/
def texture? (tracker : BindingTracker P T) (unit : Nat) : Option T :=
  (tracker.textures[unit]?).join

/-- Puts a program in use. Tells whether that took a call. -/
def activate (tracker : BindingTracker P T) (program : P) :
    Script (graphics S P T) (Bool × BindingTracker P T) :=
  if tracker.program = some program then .done (false, tracker)
  else
    .call (.useProgram (some program)) fun _ =>
      .done (true, { tracker with program := some program })

/-- Takes the program out of use that is known to be in use. -/
def deactivate (tracker : BindingTracker P T) :
    Script (graphics S P T) (BindingTracker P T) :=
  if tracker.program.isSome then
    .call (.useProgram none) fun _ => .done { tracker with program := none }
  else .done tracker

/-- Makes a unit the active one. -/
def select (tracker : BindingTracker P T) (unit : Nat) :
    Script (graphics S P T) (BindingTracker P T) :=
  if tracker.unit = some unit then .done tracker
  else .call (.activeTexture unit) fun _ => .done { tracker with unit := some unit }

/-- Binds a texture to a unit. Tells whether that took a call. -/
def bind (tracker : BindingTracker P T) (unit : Nat) (texture : T) :
    Script (graphics S P T) (Except UnitOutOfRange Bool × BindingTracker P T) :=
  if h : unit < unitCount then
    if tracker.textures[unit] = some texture then .done (.ok false, tracker)
    else
      (tracker.select unit).bind fun selected =>
        .call (.bindTexture (some texture)) fun _ =>
          .done (.ok true,
            { selected with textures := selected.textures.set unit (some texture) h })
  else .done (.error ⟨unit⟩, tracker)

/-- Deletes a program. A program that was in use is no longer known to be. -/
def delete (tracker : BindingTracker P T) (program : P) :
    Script (graphics S P T) (BindingTracker P T) :=
  .call (.deleteProgram program) fun _ =>
    .done (if tracker.program = some program then { tracker with program := none } else tracker)

/-- Forgets a texture wherever it is bound. -/
def forget (tracker : BindingTracker P T) (texture : T) : BindingTracker P T :=
  { tracker with
    textures := tracker.textures.map fun bound => if bound = some texture then none else bound }

/-- Forgets everything. -/
def reset (_tracker : BindingTracker P T) : BindingTracker P T := empty

/-- The units with the textures that are known to be bound to them. -/
def boundUnits (tracker : BindingTracker P T) : List (Nat × T) :=
  (List.range unitCount).filterMap fun unit => (tracker.texture? unit).map (unit, ·)

end BindingTracker

end ShaderPipeline.Gpu
