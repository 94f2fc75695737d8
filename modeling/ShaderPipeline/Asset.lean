import ShaderPipeline.Event
import ShaderPipeline.FileTree
import ShaderPipeline.SlotFile.Table

/-!
# Program assets

A program is stored under a name in one of two forms: as a stage pair, with a file for each stage
and a slot file, or as one unified source. The stage pair wins if any of its files exists, and then
all of them must. The files of the pair are read first, in a fixed order; the unified source is
read only if none of them is there.
-/

namespace ShaderPipeline

open SlotFile

/-- Why an asset cannot be read. -/
inductive ReadFailure where
  | refused (text : String)
  | file (error : FileError)
deriving DecidableEq

/-- The message of a failure. -/
def ReadFailure.message : ReadFailure → String
  | .refused text => text
  | .file error => error.message

/-- Where assets are read from: for each path a text, its absence, or a failure. -/
abbrev AssetSource := String → Except ReadFailure (Option String)

namespace AssetSource

/-- The assets of a list of paths with their texts or failures. -/
def ofList (assets : List (String × Except ReadFailure String)) : AssetSource := fun path =>
  match assets.lookup path with
  | none => .ok none
  | some (.ok text) => .ok (some text)
  | some (.error failure) => .error failure

/-- The assets in the files of a tree. -/
def ofTree (tree : FileTree) : AssetSource := fun path =>
  (tree.read? path).mapError .file

end AssetSource

/-- Why there is no program under a name. -/
inductive AssetError where
  | incomplete (name : String) (missing : List String)
  | notFound (name : String)
  | unreadable (path : String) (failure : ReadFailure)
  | malformed (path : String) (error : SlotFileError)
deriving DecidableEq

/-- The message of an error. -/
def AssetError.message : AssetError → String
  | .incomplete name missing =>
    "Missing files for GLSL shader " ++ name ++ ": " ++ String.intercalate ", " missing
  | .notFound name => "No shader program found for " ++ name
  | .unreadable path failure => "failed to read " ++ path ++ ": " ++ failure.message
  | .malformed path error => "malformed " ++ path ++ ": " ++ error.message

/-- The two forms of a program. -/
inductive ProgramAsset where
  | stagePair (vertex fragment slots : String)
  | unified (source : String)
deriving DecidableEq

/-- What was found under a name, the paths that were read, in order, and the events. -/
structure Resolution where
  outcome : Except AssetError ProgramAsset
  reads : List String
  events : List Event

namespace ProgramAsset

/-- The path of the vertex stage of a program. -/
def vertexPath (name : String) : String := name ++ ".vsh"

/-- The path of the fragment stage of a program. -/
def fragmentPath (name : String) : String := name ++ ".fsh"

/-- The path of the slot file of a program. -/
def slotsPath (name : String) : String := name ++ ".properties"

/-- The path of the unified source of a program. -/
def unifiedPath (name : String) : String := name ++ ".program"

/-- The paths of a stage pair in the order in which they are read. -/
def pairPaths (name : String) : List String :=
  [vertexPath name, fragmentPath name, slotsPath name]

/-- Reads paths up to the first failure. Gives the paths that were read and the texts. -/
def readAll (assets : AssetSource) :
    List String → List String × Except AssetError (List (String × Option String))
  | [] => ([], .ok [])
  | path :: rest =>
    match assets path with
    | .error failure => ([path], .error (.unreadable path failure))
    | .ok text =>
      let (reads, texts) := readAll assets rest
      (path :: reads, texts.map ((path, text) :: ·))

/-- Finds the unified source of a program after its stage pair was found to be absent. -/
def resolveUnified (assets : AssetSource) (name : String) (reads : List String) : Resolution :=
  let path := unifiedPath name
  let reads := reads ++ [path]
  match assets path with
  | .error failure => ⟨.error (.unreadable path failure), reads, []⟩
  | .ok none => ⟨.error (.notFound name), reads, []⟩
  | .ok (some source) => ⟨.ok (.unified source), reads, [.resolvedUnified name]⟩

/-- Finds the program under a name. -/
def resolve (assets : AssetSource) (name : String) : Resolution :=
  match readAll assets (pairPaths name) with
  | (reads, .error e) => ⟨.error e, reads, []⟩
  | (reads, .ok texts) =>
    match texts.map (·.2) with
    | [some vertex, some fragment, some slots] =>
      ⟨.ok (.stagePair vertex fragment slots), reads, [.resolvedPair name]⟩
    | [none, none, none] => resolveUnified assets name reads
    | _ =>
      let missing := texts.filterMap fun entry => if entry.2.isNone then some entry.1 else none
      ⟨.error (.incomplete name missing), reads, []⟩

end ProgramAsset

end ShaderPipeline
