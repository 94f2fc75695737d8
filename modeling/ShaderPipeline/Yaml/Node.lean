import ShaderPipeline.Yaml.Scan

/-!
# Configuration nodes

The document of a configuration stream as a tree of scalars, mappings and aliases. A stream holds
at most one document. Anchors are numbered by how many different anchor names came before them, and
an alias takes the number that its name has where the alias stands; it means the last node of the
document whose anchor has that number.
-/

namespace ShaderPipeline.Yaml

mutual

/-- A node of a document. -/
inductive Node where
  | alias (anchor : Nat)
  | scalar (anchor : Option Nat) (tag : Option Tag) (plain : Bool) (text : String)
  | mapping (anchor : Option Nat) (entries : Entries)

/-- The keys of a mapping with their values, in document order. -/
inductive Entries where
  | nil
  | cons (key value : Node) (rest : Entries)

end

/-- The pairs of keys and values. -/
def Entries.toList : Entries → List (Node × Node)
  | .nil => []
  | .cons key value rest => (key, value) :: rest.toList

/-- A node with nothing in it. -/
def Node.empty : Node := .scalar none none true ""

/-- Tokens that are left, the numbers of the anchors so far and what tag handles stand for. -/
structure Reading where
  tokens : List Token
  anchors : List (String × Nat) := []
  handles : List (String × Octets) := []

/-- A reader of a part of a document. -/
abbrev Grammar (α : Type) := StateT Reading Option α

namespace Grammar

/-- The next token, which stays. -/
def peek : Grammar Token := do
  (← get).tokens.head?

/-- Passes over the next token. -/
def advance : Grammar Unit :=
  modify fun r => { r with tokens := r.tokens.tail }

/-- Gives the next number to an anchor name. -/
def number (name : String) : Grammar Nat := do
  let anchors := (← get).anchors
  let id := anchors.length
  modify fun r => { r with anchors := (name, id) :: anchors.filter (·.1 != name) }
  return id

/-- An anchor, if there is one. -/
def anchor? : Grammar (Option Nat) := do
  match ← peek with
  | .anchor name =>
    advance
    return some (← number name)
  | _ => return none

/-- A tag with its handle replaced, if there is one. -/
def tag? : Grammar (Option Tag) := do
  match ← peek with
  | .tag handle suffix =>
    advance
    if handle.isEmpty then return some (.ofOctets suffix)
    else
      let some expansion := (← get).handles.lookup handle | failure
      return some (.ofOctets (expansion ++ suffix))
  | _ => return none

/-- The anchor and the tag of a node, in any order. -/
def properties : Grammar (Option Nat × Option Tag) := do
  let before ← anchor?
  let tag ← tag?
  if before.isSome then return (before, tag)
  else return (← anchor?, tag)

mutual

/-- A node, which may be a block mapping if `block` says so. -/
def node (block : Bool) : Nat → Grammar Node
  | 0 => failure
  | fuel + 1 => do
    if let .alias name := ← peek then
      advance
      let some id := (← get).anchors.lookup name | failure
      return .alias id
    let (anchor, tag) ← properties
    match ← peek with
    | .scalar plain text =>
      advance
      return .scalar anchor tag plain text
    | .flowMappingStart =>
      advance
      return .mapping anchor (← flowEntries true fuel)
    | .blockMappingStart =>
      if block then
        advance
        return .mapping anchor (← blockEntries fuel)
      else failure
    | _ =>
      if anchor.isSome || tag.isSome then return .scalar anchor tag true ""
      else failure

/-- The entries of a block mapping after its start. -/
def blockEntries : Nat → Grammar Entries
  | 0 => failure
  | fuel + 1 => do
    match ← peek with
    | .blockEnd =>
      advance
      return .nil
    | .key =>
      advance
      let key ← blockNode fuel
      let value ←
        if (← peek) = .value then do
          advance
          blockNode fuel
        else pure .empty
      return .cons key value (← blockEntries fuel)
    | _ => failure

/-- A key or value of a block mapping, which may be absent. -/
def blockNode : Nat → Grammar Node
  | 0 => failure
  | fuel + 1 => do
    match ← peek with
    | .key | .value | .blockEnd => return .empty
    | _ => node true fuel

/-- The entries of a flow mapping; `first` says that no comma has to come before the next one. -/
def flowEntries (first : Bool) : Nat → Grammar Entries
  | 0 => failure
  | fuel + 1 => do
    if (← peek) = .flowMappingEnd then
      advance
      return .nil
    unless first do
      if (← peek) = .flowEntry then advance else failure
    match ← peek with
    | .flowMappingEnd =>
      advance
      return .nil
    | .key =>
      advance
      let key ← flowNode true fuel
      let value ←
        if (← peek) = .value then do
          advance
          flowNode false fuel
        else pure .empty
      return .cons key value (← flowEntries false fuel)
    | _ =>
      let key ← node false fuel
      return .cons key .empty (← flowEntries false fuel)

/-- A key or value of a flow mapping, which may be absent. -/
def flowNode (isKey : Bool) : Nat → Grammar Node
  | 0 => failure
  | fuel + 1 => do
    match ← peek with
    | .flowEntry | .flowMappingEnd => return .empty
    | .value => if isKey then return .empty else node false fuel
    | _ => node false fuel

end

/-- The directives before a document: at most one version, which must be 1.1 or 1.2, and at most
one meaning for each handle. -/
def directives (versionSeen : Bool) : Nat → Grammar Unit
  | 0 => failure
  | fuel + 1 => do
    match ← peek with
    | .version major minor =>
      if versionSeen || major != 1 || (minor != 1 && minor != 2) then failure
      advance
      directives true fuel
    | .tagDirective handle expansion =>
      if ((← get).handles.lookup handle).isSome then failure
      advance
      modify fun r => { r with handles := (handle, expansion) :: r.handles }
      directives versionSeen fuel
    | _ => return ()

/-- What tag handles stand for where no directive says so. -/
def defaultHandles : List (String × Octets) :=
  [("!", .ofAscii ['!']), ("!!", Tag.core)]

/-- The root of the document after its start mark, which may be absent. -/
def root (fuel : Nat) : Grammar Node := do
  match ← peek with
  | .version _ _ | .tagDirective _ _ | .documentStart | .documentEnd | .streamEnd => return .empty
  | _ => node true fuel

/-- The document of a stream, if there is one. -/
def document (fuel : Nat) : Grammar (Option Node) := do
  if (← peek) = .streamEnd then return none
  let explicit :=
    match ← peek with
    | .version _ _ | .tagDirective _ _ | .documentStart => true
    | _ => false
  if explicit then directives false fuel
  modify fun r => { r with handles := r.handles ++ defaultHandles }
  if explicit then
    if (← peek) = .documentStart then advance else failure
    return some (← root fuel)
  else
    return some (← node true fuel)

/-- The document of a stream and its end. -/
def stream (fuel : Nat) : Grammar (Option Node) := do
  let found ← document fuel
  modify fun r => { r with tokens := r.tokens.dropWhile (· == .documentEnd) }
  if (← peek) = .streamEnd then return found else failure

end Grammar

/-- Reads the document of a stream. The outer option says whether the stream is well-formed, the
inner one whether it has a document. -/
def read? (text : String) : Option (Option Node) := do
  let tokens ← scan text.toList
  ((Grammar.stream (2 * tokens.length + 2)).run { tokens }).map (·.1)

mutual

/-- The node below and including another one whose anchor has a number, the last such one. -/
def Node.anchored? (id : Nat) : Node → Option Node
  | .alias _ => none
  | .scalar anchor tag plain text =>
    if anchor == some id then some (.scalar anchor tag plain text) else none
  | .mapping anchor entries =>
    match entries.anchored? id with
    | some found => some found
    | none => if anchor == some id then some (.mapping anchor entries) else none

/-- The last node among entries whose anchor has a number. -/
def Entries.anchored? (id : Nat) : Entries → Option Node
  | .nil => none
  | .cons key value rest =>
    match rest.anchored? id with
    | some found => some found
    | none =>
      match value.anchored? id with
      | some found => some found
      | none => key.anchored? id

end

end ShaderPipeline.Yaml
