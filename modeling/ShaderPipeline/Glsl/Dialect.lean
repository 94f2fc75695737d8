import ShaderPipeline.Language.Shader

/-!
# Dialects

The versions of the target language. They differ in the lines at the start of a stage and in
whether declarations carry a precision.
-/

namespace ShaderPipeline.Glsl

/-- A version of the target language. -/
inductive Dialect where
  | gl330
  | gles300
deriving DecidableEq, Repr

namespace Dialect

/-- The dialect that is used where none is named. -/
def standard : Dialect := .gl330

instance : Inhabited Dialect := ⟨standard⟩

/-- The word that names a dialect in configurations. -/
def keyword : Dialect → String
  | .gl330 => "gl330"
  | .gles300 => "gles300"

/-- The dialect that a word names. -/
def ofKeyword? : String → Option Dialect
  | "gl330" => some .gl330
  | "gles300" => some .gles300
  | _ => none

theorem ofKeyword?_keyword (d : Dialect) : ofKeyword? d.keyword = some d := by
  cases d <;> rfl

/-- The lines that every stage starts with. The embedded dialect has no default precision for
samplers in vertex stages, so all three defaults are written. -/
def header : Dialect → String
  | .gl330 => "#version 330\n"
  | .gles300 =>
    "#version 300 es\nprecision highp float;\nprecision highp int;\nprecision highp sampler2D;\n"

/-- Whether declarations are written with their precision. -/
def writesPrecision : Dialect → Bool
  | .gl330 => false
  | .gles300 => true

end Dialect

end ShaderPipeline.Glsl
