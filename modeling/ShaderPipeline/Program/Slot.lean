/-!
# Stages and slots

A program has two stages and three kinds of numbered slots: uniforms are shared by both stages,
attributes are the inputs of the vertex stage and outputs are the results of the fragment stage.
The number of slots of each kind is limited.
-/

namespace ShaderPipeline

/-- The stages of a program, in the order of the pipeline. -/
inductive StageKind where
  | vertex
  | fragment
deriving DecidableEq, Repr

namespace StageKind

/-- The name of a stage. -/
def name : StageKind → String
  | .vertex => "vertex"
  | .fragment => "fragment"

/-- Both stages in pipeline order. -/
def all : List StageKind := [.vertex, .fragment]

end StageKind

/-- The kinds of numbered slots. -/
inductive SlotKind where
  | uniform
  | attribute
  | output
deriving DecidableEq, Repr

namespace SlotKind

/-- The name of a slot kind. -/
def name : SlotKind → String
  | .uniform => "uniform"
  | .attribute => "attribute"
  | .output => "output"

/-- The name of a slot kind at the start of a sentence. -/
def title : SlotKind → String
  | .uniform => "Uniform"
  | .attribute => "Attribute"
  | .output => "Output"

/-- The number of slots of a kind. -/
def capacity : SlotKind → Nat
  | .uniform => 32
  | .attribute => 8
  | .output => 8

end SlotKind

end ShaderPipeline
