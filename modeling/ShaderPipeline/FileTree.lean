/-!
# File trees

Files below a directory, and why reading one can fail. A path is followed step by step: every step
but the last must be a directory that exists, `.` stays where it is and `..` goes up. The
directories above the tree exist, but nothing in them can be reached.
-/

namespace ShaderPipeline

/-- Why a file cannot be read as text. Failures that a tree does not have keep their text. -/
inductive FileError where
  | notFound
  | isADirectory
  | notADirectory
  | invalidData
  | invalidInput
  | other (text : String)
deriving DecidableEq, Repr

/-- The message of an error. -/
def FileError.message : FileError → String
  | .notFound => "No such file or directory (os error 2)"
  | .isADirectory => "Is a directory (os error 21)"
  | .notADirectory => "Not a directory (os error 20)"
  | .invalidData => "stream did not contain valid UTF-8"
  | .invalidInput => "file name contained an unexpected NUL byte"
  | .other text => text

/-- What stands at a place of a tree. -/
inductive FileNode where
  | file (bytes : ByteArray)
  | directory

/-- The steps that lead to a place inside a tree. -/
abbrev Place := List String

/-- The nodes of a tree with their places, the latest first. The root is a directory in any case. -/
structure FileTree where
  nodes : List (Place × FileNode)

/-- Where following a path leads: to a place inside the tree, above the tree, or to something above
the tree that is not known to exist. -/
inductive Whereabouts where
  | inside (place : Place)
  | above
  | unknown
deriving DecidableEq

/-- Where one step leads from a directory. -/
def Whereabouts.step (name : String) : Whereabouts → Whereabouts
  | .inside place =>
    if name = ".." then (if place.isEmpty then .above else .inside place.dropLast)
    else .inside (place ++ [name])
  | .above => if name = ".." then .above else .unknown
  | .unknown => .unknown

namespace FileTree

/-- The steps of a path. An empty step and a single point stay in place. -/
def steps (path : String) : List String :=
  (path.splitOn "/").filter fun step => step != "" && step != "."

/-- The nodes that are made when a node is stored at the end of some steps: directories on the way,
and the node itself. -/
def storedFrom (node : FileNode) : Whereabouts → List String → List (Place × FileNode)
  | .inside place, [] => [(place, node)]
  | .inside place, name :: rest =>
    (place, .directory) :: storedFrom node (Whereabouts.step name (.inside place)) rest
  | .above, name :: rest => storedFrom node (Whereabouts.step name .above) rest
  | _, _ => []

/-- The tree of a list of paths with their nodes, stored in turn. -/
def ofList (nodes : List (String × FileNode)) : FileTree :=
  ⟨(nodes.flatMap fun node => storedFrom node.2 (.inside []) (steps node.1)).reverse⟩

/-- What stands somewhere. -/
def node? (tree : FileTree) : Whereabouts → Option FileNode
  | .inside [] => some .directory
  | .inside place => tree.nodes.lookup place
  | .above => some .directory
  | .unknown => none

/-- Follows steps through a tree. The last step may lead to anything or nothing. -/
def follow (tree : FileTree) : Whereabouts → List String → Except FileError Whereabouts
  | found, [] => .ok found
  | found, name :: rest =>
    match tree.node? found with
    | none => .error .notFound
    | some (.file _) => .error .notADirectory
    | some .directory => follow tree (found.step name) rest

/-- Where a path starts. -/
def origin (path : String) : Whereabouts :=
  if path.startsWith "/" then .above else .inside []

/-- Reads the text of a file. -/
def read (tree : FileTree) (path : String) : Except FileError String := do
  if path.toList.any (· == '\x00') then throw .invalidInput
  if path.isEmpty then throw .notFound
  let found ← tree.follow (origin path) (steps path)
  match tree.node? found with
  | none => throw .notFound
  | some .directory => throw .isADirectory
  | some (.file bytes) =>
    if path.endsWith "/" || path.endsWith "/." then throw .notADirectory
    else
      match String.fromUTF8? bytes with
      | some text => return text
      | none => throw .invalidData

/-- Reads the text of a file that may be absent. -/
def read? (tree : FileTree) (path : String) : Except FileError (Option String) :=
  match tree.read path with
  | .ok text => .ok (some text)
  | .error .notFound => .ok none
  | .error e => .error e

end FileTree

end ShaderPipeline
