import ShaderPipeline.Glsl.Dialect
import ShaderPipeline.Property.Context
import ShaderPipeline.Yaml.Resolve

/-!
# Configurations

A configuration names the dialect of generated stages and gives default values to properties. It
is written as a mapping with the optional keys `version` and `properties`; a stream without a
document is the default configuration. The reasons for which a text is no configuration are not
told apart.
-/

namespace ShaderPipeline

open Glsl Yaml

/-- The dialect and the default property values. -/
structure Config where
  dialect : Dialect
  properties : PropertyContext
deriving DecidableEq

namespace Config

/-- The configuration that is used where none is given. -/
def standard : Config := ⟨.standard, .empty⟩

instance : Inhabited Config := ⟨standard⟩

/-- The node that a node means: an alias means the node with its anchor. -/
def target? (root : Node) : Node → Option Node
  | .alias anchor => root.anchored? anchor
  | node => some node

/-- The text of a key. -/
def keyText? (root key : Node) : Option String :=
  match target? root key with
  | some (.scalar _ _ _ text) => some text
  | _ => none

/-- The dialect that a node names: by a choice on a scalar without a value, or by its text. -/
def dialect? (root node : Node) : Option Dialect :=
  match target? root node with
  | some (.scalar _ tag plain text) =>
    match tag with
    | some (.choice name) =>
      if plain && (text.isEmpty || isNull text) then Dialect.ofKeyword? name else none
    | _ => Dialect.ofKeyword? text
  | _ => none

/-- The value that a node gives to a property. -/
def value? (root node : Node) : Option PropertyValue :=
  match target? root node with
  | some (.scalar _ tag plain text) => scalarValue? tag plain text
  | _ => none

/-- The pairs of a mapping; a plain scalar with nothing in it is a mapping without pairs. -/
def pairs? (root node : Node) : Option (List (Node × Node)) :=
  match target? root node with
  | some (.mapping _ entries) => some entries.toList
  | some (.scalar _ _ true "") => some []
  | _ => none

/-- The property values that a node gives; of two values for one name the later one counts. -/
def properties? (root node : Node) : Option PropertyContext := do
  let pairs ← pairs? root node
  let entries ← pairs.mapM fun (key, value) => do
    return (← keyText? root key, ← value? root value)
  return .ofList entries

/-- The dialect and the properties that the pairs of the root give. Each may be given once. -/
def fields? (root : Node) : List (Node × Node) →
    Option (Option Dialect × Option PropertyContext)
  | [] => some (none, none)
  | (key, value) :: rest => do
    let name ← keyText? root key
    let (dialect, properties) ← fields? root rest
    match name with
    | "version" =>
      let named ← dialect? root value
      if dialect.isSome then none else return (some named, properties)
    | "properties" =>
      let given ← properties? root value
      if properties.isSome then none else return (dialect, some given)
    | _ => none

/-- Reads a configuration. -/
def ofYaml? (text : String) : Option Config := do
  match ← read? text with
  | none => return standard
  | some root =>
    let (dialect, properties) ← fields? root (← pairs? root root)
    return ⟨dialect.getD standard.dialect, properties.getD standard.properties⟩

end Config

end ShaderPipeline
