import ShaderPipeline.Decimal.Reading
import ShaderPipeline.Program.Source
import ShaderPipeline.SlotFile.Entry

/-!
# Slot tables

A slot file names the slots of a hand-written stage pair. The keys `Attribute.` and `Uniform.`
followed by a number give a name to a slot; all other keys are ignored. Entries are read in order,
the first wrong one is reported, and of two entries for one slot the later one counts.
-/

namespace ShaderPipeline.SlotFile

open Decimal

/-- Why a slot file is refused, with the line and key of the entry. -/
inductive SlotFileError where
  | invalidSlot (line : Nat) (key : String)
  | slotOutOfRange (line : Nat) (key : String) (slot maximum : Nat)
  | emptyName (line : Nat) (key : String)
deriving DecidableEq

/-- The message of an error. -/
def SlotFileError.message : SlotFileError → String
  | .invalidSlot line key => s!"line {line}: invalid slot in key '{key}'"
  | .slotOutOfRange line key slot maximum =>
    s!"line {line}: slot {slot} in key '{key}' is out of range (maximum {maximum})"
  | .emptyName line key => s!"line {line}: no symbol name given for '{key}'"

/-- The names of the slots. -/
structure SlotTables where
  attributes : List (Option String)
  uniforms : List (Option String)
deriving DecidableEq

namespace SlotTables

/-- Tables of full length without any name. -/
def empty : SlotTables where
  attributes := List.replicate SlotKind.attribute.capacity none
  uniforms := List.replicate SlotKind.uniform.capacity none

/-- The tables with a name given to a slot. -/
def withName (tables : SlotTables) (kind : SlotKind) (slot : Nat) (name : String) : SlotTables :=
  match kind with
  | .attribute => { tables with attributes := tables.attributes.set slot (some name) }
  | .uniform => { tables with uniforms := tables.uniforms.set slot (some name) }
  | .output => tables

/-- The program source of a stage pair with these slot tables. -/
def programSource (tables : SlotTables) (vertex fragment : String) : ProgramSource where
  vertex := vertex
  fragment := fragment
  attributes := tables.attributes
  uniforms := tables.uniforms

end SlotTables

/-- The kind of slot that a key names, and the text of the slot's number. A key with a line feed
names no slot. -/
def slotKey? (key : List Char) : Option (SlotKind × List Char) :=
  match "Attribute.".toList.isPrefixOf? key, "Uniform.".toList.isPrefixOf? key with
  | some number, _ => if '\n' ∈ number then none else some (.attribute, number)
  | none, some number => if '\n' ∈ number then none else some (.uniform, number)
  | none, none => none

/-- The greatest slot number that a message can show. -/
def greatestShown : Nat := UInt64.size - 1

/-- The slot that a number text names within a kind. -/
def slotNumber (entry : Entry) (kind : SlotKind) (number : List Char) : Except SlotFileError Nat :=
  let key := String.ofList entry.key
  match natural? number with
  | none => .error (.invalidSlot entry.line key)
  | some slot =>
    if slot < kind.capacity then .ok slot
    else .error (.slotOutOfRange entry.line key (min slot greatestShown) (kind.capacity - 1))

/-- The tables after one more entry. -/
def addEntry (tables : SlotTables) (entry : Entry) : Except SlotFileError SlotTables :=
  match slotKey? entry.key with
  | none => .ok tables
  | some (kind, number) => do
    let slot ← slotNumber entry kind number
    if entry.value.isEmpty then throw (.emptyName entry.line (String.ofList entry.key))
    else return tables.withName kind slot (String.ofList entry.value)

/-- Reads the slot tables of a file. -/
def SlotTables.ofFile (file : String) : Except SlotFileError SlotTables :=
  (entries file.toList).foldlM addEntry .empty

end ShaderPipeline.SlotFile
