import ShaderPipeline.Glsl.Dialect
import ShaderPipeline.Glsl.Values

/-!
# Stage layouts

A stage in the order in which it is written: uniforms, the interface to the other stage and to the
pipeline, the shared code and the body of `main`. A layout has all values filled in and does not
depend on the dialect; the dialect is chosen when the layout is written out.
-/

namespace ShaderPipeline.Glsl

open ShaderPipeline.Language

/-- A declaration whose array length is known. -/
structure PlainDeclaration where
  precision : Option Precision
  type : GlslType
  name : String
  length : Option Nat
deriving DecidableEq

/-- The text of a declaration without the word that introduces it. -/
def PlainDeclaration.text (dialect : Dialect) (d : PlainDeclaration) : String :=
  let qualifier :=
    match d.precision with
    | some precision => if dialect.writesPrecision then precision.keyword ++ " " else ""
    | none => ""
  let brackets :=
    match d.length with
    | some length => "[" ++ toString length ++ "]"
    | none => ""
  qualifier ++ d.type.keyword ++ " " ++ d.name ++ brackets

/-- Whether a stage reads or writes an interface variable. -/
inductive Direction where
  | input
  | output
deriving DecidableEq

/-- The word that stands for a direction. -/
def Direction.keyword : Direction → String
  | .input => "in"
  | .output => "out"

/-- An interface variable, with its location if it has one. -/
structure InterfaceVariable where
  location : Option Nat
  direction : Direction
  declaration : PlainDeclaration
deriving DecidableEq

/-- The line that declares an interface variable. -/
def InterfaceVariable.line (dialect : Dialect) (v : InterfaceVariable) : String :=
  let layout :=
    match v.location with
    | some location => "layout(location = " ++ toString location ++ ") "
    | none => ""
  layout ++ v.direction.keyword ++ " " ++ v.declaration.text dialect ++ ";\n"

/-- A stage with all values filled in. The body of `main` is absent if its block is empty. -/
structure StageLayout where
  uniforms : List PlainDeclaration
  interface : List InterfaceVariable
  shared : Option String
  main : Option String
deriving DecidableEq

namespace StageLayout

/-- The header and the uniforms, which both stages begin with. -/
def preamble (dialect : Dialect) (stage : StageLayout) : String :=
  dialect.header ++ "\n" ++
    String.join (stage.uniforms.map fun d => "uniform " ++ d.text dialect ++ ";\n") ++ "\n"

/-- The lines of the interface variables. -/
def interfaceText (dialect : Dialect) (stage : StageLayout) : String :=
  String.join (stage.interface.map (·.line dialect)) ++ "\n"

/-- The shared code, followed by an empty line, and the main function. -/
def code (stage : StageLayout) : String :=
  let shared :=
    match stage.shared with
    | some text => text ++ "\n\n"
    | none => ""
  let main :=
    match stage.main with
    | some text => text ++ "\n"
    | none => ""
  shared ++ "void main(void)\n\x7b\n" ++ main ++ "\x7d\n"

/-- The text of the stage. -/
def text (dialect : Dialect) (stage : StageLayout) : String :=
  stage.preamble dialect ++ stage.interfaceText dialect ++ stage.code

end StageLayout

end ShaderPipeline.Glsl
