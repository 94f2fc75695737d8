import ShaderPipeline.Property.Value

/-!
# Property contexts

A property context gives values to names: a finite map from names to values, listed in the order
of the names. Texts are ordered by their code points, which is also the order of their UTF-8
bytes. Supplying a value replaces an earlier one of the same name, and merging lets the overriding
context win. The properties that an engine supplies for every program, the sizes of its viewport,
are at the end of the module.
-/

namespace ShaderPipeline

/-- A name with its value. -/
abbrev PropertyEntry := String × PropertyValue

namespace PropertyEntry

/-- Gives a value to a name in a list of entries that is ordered by name. -/
def insert (name : String) (value : PropertyValue) : List PropertyEntry → List PropertyEntry
  | [] => [(name, value)]
  | entry :: rest =>
    if name < entry.1 then (name, value) :: entry :: rest
    else if name = entry.1 then (name, value) :: rest
    else entry :: insert name value rest

/-- The names after an insertion are the inserted one and those before it. -/
theorem mem_insert_name {name : String} {value : PropertyValue} {entries : List PropertyEntry}
    {entry : PropertyEntry} (h : entry ∈ insert name value entries) :
    entry.1 = name ∨ entry ∈ entries := by
  induction entries with
  | nil => simp_all [insert]
  | cons first rest ih => grind [insert]

/-- Insertion keeps the order of the names. -/
theorem insert_sorted (name : String) (value : PropertyValue) {entries : List PropertyEntry}
    (h : entries.Pairwise (·.1 < ·.1)) : (insert name value entries).Pairwise (·.1 < ·.1) := by
  induction entries with
  | nil => simp [insert]
  | cons first rest ih =>
    obtain ⟨hfirst, hrest⟩ := List.pairwise_cons.1 h
    unfold insert
    split
    · rename_i hlt
      refine List.pairwise_cons.2 ⟨fun entry hmem => ?_, h⟩
      rcases List.mem_cons.1 hmem with rfl | hmem
      · exact hlt
      · exact String.lt_trans hlt (hfirst entry hmem)
    · split
      · rename_i heq
        exact List.pairwise_cons.2 ⟨fun entry hmem => heq ▸ hfirst entry hmem, hrest⟩
      · rename_i hlt hne
        refine List.pairwise_cons.2 ⟨fun entry hmem => ?_, ih hrest⟩
        rcases mem_insert_name hmem with heq | hmem
        · rw [heq]
          grind
        · exact hfirst entry hmem

end PropertyEntry

/-- A finite map from names to values, in the order of the names. -/
structure PropertyContext where
  entries : List PropertyEntry
  sorted : entries.Pairwise (·.1 < ·.1)
deriving DecidableEq

namespace PropertyContext

/-- The context without any property. -/
def empty : PropertyContext := ⟨[], .nil⟩

instance : Inhabited PropertyContext := ⟨empty⟩

/-- The context in which `name` has `value` and all other names are as before. -/
def supply (context : PropertyContext) (name : String) (value : PropertyValue) : PropertyContext :=
  ⟨PropertyEntry.insert name value context.entries,
    PropertyEntry.insert_sorted name value context.sorted⟩

/-- The context with all entries of a list supplied in turn, so that later entries win. -/
def supplyAll (context : PropertyContext) (entries : List PropertyEntry) : PropertyContext :=
  entries.foldl (fun known entry => known.supply entry.1 entry.2) context

/-- The context of a list of entries; of two entries with one name the later one counts. -/
def ofList (entries : List PropertyEntry) : PropertyContext :=
  empty.supplyAll entries

/-- The names with their values, in the order of the names. -/
def toList (context : PropertyContext) : List PropertyEntry := context.entries

/-- The value of a name. -/
def get? (context : PropertyContext) (name : String) : Option PropertyValue :=
  context.entries.lookup name

/-- Whether a name has a value. -/
def contains (context : PropertyContext) (name : String) : Bool :=
  (context.get? name).isSome

/-- The number of names that have a value. -/
def size (context : PropertyContext) : Nat := context.entries.length

/-- Whether no name has a value. -/
def isEmpty (context : PropertyContext) : Bool := context.entries.isEmpty

/-- Both contexts in one, where a name in both has its value in `overrides`. -/
def mergedWith (context overrides : PropertyContext) : PropertyContext :=
  context.supplyAll overrides.entries

/-- Whether two contexts have the same names with the same values, numbers compared as numbers. -/
def sameValues (a b : PropertyContext) : Bool :=
  a.size == b.size &&
    (a.entries.zip b.entries).all fun (x, y) => x.1 == y.1 && x.2.sameValue y.2

end PropertyContext

/-- A size in pixels. -/
structure Extent where
  width : Nat
  height : Nat
deriving DecidableEq, Repr

/-- The sizes that an engine knows when it draws. -/
structure Viewport where
  scene : Extent
  container : Extent
  content : Extent
deriving DecidableEq, Repr

namespace Viewport

/-- The properties that describe a viewport. -/
def properties (v : Viewport) : List PropertyEntry :=
  [("SCENE_WIDTH", .int v.scene.width), ("SCENE_HEIGHT", .int v.scene.height),
    ("CONTAINER_WIDTH", .int v.container.width), ("CONTAINER_HEIGHT", .int v.container.height),
    ("CONTENT_WIDTH", .int v.content.width), ("CONTENT_HEIGHT", .int v.content.height)]

end Viewport

namespace PropertyContext

/-- The names of the properties that an engine supplies for every program. -/
def engineNames : List String :=
  ["SCENE_WIDTH", "SCENE_HEIGHT", "CONTAINER_WIDTH", "CONTAINER_HEIGHT", "CONTENT_WIDTH",
    "CONTENT_HEIGHT"]

/-- The context with the properties of a viewport supplied. -/
def supplyViewport (context : PropertyContext) (viewport : Viewport) : PropertyContext :=
  context.supplyAll viewport.properties

/-- The context of a viewport alone. -/
def ofViewport (viewport : Viewport) : PropertyContext :=
  empty.supplyViewport viewport

end PropertyContext

end ShaderPipeline
