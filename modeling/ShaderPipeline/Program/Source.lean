import ShaderPipeline.Program.Slot

/-!
# Program sources

What the assembler of GPU programs needs: the text of both stages, and the name at each attribute
and uniform slot. Generated stages and hand-written stage pairs both end in this form, so the
assembler does not know where a program came from.
-/

namespace ShaderPipeline

/-- The texts of both stages with the names of the slots that are in use. -/
structure ProgramSource where
  vertex : String
  fragment : String
  attributes : List (Option String)
  uniforms : List (Option String)
deriving DecidableEq

namespace ProgramSource

/-- The text of a stage. -/
def stage (source : ProgramSource) : StageKind → String
  | .vertex => source.vertex
  | .fragment => source.fragment

/-- The slots of a table that have a name, from slot `first` on. -/
def namedFrom (first : Nat) : List (Option String) → List (Nat × String)
  | [] => []
  | none :: rest => namedFrom (first + 1) rest
  | some name :: rest => (first, name) :: namedFrom (first + 1) rest

/-- The attribute slots that have a name, in slot order. -/
def namedAttributes (source : ProgramSource) : List (Nat × String) :=
  namedFrom 0 source.attributes

/-- The uniform slots that have a name, in slot order. -/
def namedUniforms (source : ProgramSource) : List (Nat × String) :=
  namedFrom 0 source.uniforms

/-- Whether neither slot table is longer than the limits allow. -/
def withinCapacity (source : ProgramSource) : Bool :=
  source.attributes.length ≤ SlotKind.attribute.capacity &&
    source.uniforms.length ≤ SlotKind.uniform.capacity

end ProgramSource

end ShaderPipeline
