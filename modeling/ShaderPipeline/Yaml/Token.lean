import ShaderPipeline.Yaml.Source
import ShaderPipeline.Yaml.Tag

/-!
# Configuration tokens

The tokens of a YAML stream that can be part of a configuration: directives, document marks,
mappings in both styles, scalars, aliases and node properties. Sequences have no place in a
configuration, so their marks are no tokens here and end the reading. A tag without a handle stands
for itself, also if it has no octets.
-/

namespace ShaderPipeline.Yaml

/-- A token of a stream. -/
inductive Token where
  | version (major minor : Nat)
  | tagDirective (handle : String) (expansion : Octets)
  | documentStart
  | documentEnd
  | blockMappingStart
  | blockEnd
  | flowMappingStart
  | flowMappingEnd
  | flowEntry
  | key
  | value
  | alias (name : String)
  | anchor (name : String)
  | tag (handle : String) (suffix : Octets)
  | scalar (plain : Bool) (text : String)
  | streamEnd
deriving DecidableEq

end ShaderPipeline.Yaml
