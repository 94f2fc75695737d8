import ShaderPipeline.Proofs.SlotFile.LineGroups

/-!
# Written slot files are read back

Reading a written slot file gives exactly the tables it was written for (`ofFile_written`), whatever
freedom was used in writing it. The proof goes along the layout of the file: a passed-over line
gives no entry or one that names no slot (`PassedOver.gives`), and the lines of an entry give
exactly this entry, however they are broken (`EntryLines.gives`). So the entries give the names that
were written (`Layout.gives`), and all of them are accepted. As no slot has two names in the tables,
the last name of each slot is the one it has there (`lastName_eq`).
-/

namespace ShaderPipeline.SlotFile

open Text Decimal

/-! ## The entries of lines -/

/-- The name that an entry gives to a slot. -/
def Entry.named? (entry : Entry) : Option SlotName :=
  entry.slot?.map fun (kind, slot) => ⟨kind, slot, String.ofList entry.value⟩

/-- The entries of lines, of which the first one has the given number. -/
def entriesFrom (number : Nat) (lines : List (List Char)) : List Entry :=
  (logicalLinesFrom number 0 lines).map (·.entry)

/-- A skipped line gives no entry. -/
theorem entriesFrom_skipped {line : List Char} (h : isSkipped line = true) (number : Nat)
    (rest : List (List Char)) :
    entriesFrom number (line :: rest) = entriesFrom (number + 1) rest := by
  rw [entriesFrom, logicalLinesFrom, if_pos h]
  rfl

/-- A line that is not skipped gives one entry together with the lines that are joined to it. -/
theorem entriesFrom_joined {line text : List Char} {own : List (List Char)}
    (hskip : isSkipped line = false) {rest : List (List Char)}
    (hjoin : joinLines (trimStart line) (own ++ rest) = (text, own.length)) (number : Nat) :
    entriesFrom number (line :: (own ++ rest)) =
      LogicalLine.entry ⟨number, text⟩ :: entriesFrom (number + 1 + own.length) rest := by
  rw [entriesFrom, logicalLinesFrom, hskip, hjoin]
  simp only [Bool.false_eq_true, if_false, List.map_cons, logicalLinesFrom_append]
  rfl

/-! ## One line or entry -/

/-- What a name needs to be read back: it is not empty and does not end in a blank. -/
def IsReadable (name : String) : Prop :=
  name ≠ "" ∧ ∀ c ∈ name.toList.getLast?, isBlank c = false

/-- A name of a slot that exists, which can be read back. -/
structure SlotName.Valid (named : SlotName) : Prop where
  kind_ne : named.kind ≠ .output
  slot_lt : named.slot < named.kind.capacity
  readable : IsReadable named.name

/-- Some entries are accepted into all tables, and these are the names that they give. -/
structure Gives (entries : List Entry) (names : List SlotName) : Prop where
  named_eq : entries.filterMap Entry.named? = names
  accepted : ∀ entry ∈ entries, ∀ tables, ∃ after, addEntry tables entry = .ok after

/-- No entries give no names. -/
theorem gives_nil : Gives [] [] := ⟨rfl, nofun⟩

/-- An entry that names no slot adds no name. -/
theorem Gives.cons_of_none {entry : Entry} {entries : List Entry} {names : List SlotName}
    (hkey : slotKey? entry.key = none) (h : Gives entries names) :
    Gives (entry :: entries) names where
  named_eq := by
    rw [List.filterMap_cons_none (by simp [Entry.named?, Entry.slot?, hkey]), h.named_eq]
  accepted := List.forall_mem_cons.2 ⟨fun tables => ⟨tables, addEntry_of_none hkey⟩, h.accepted⟩

/-- An entry with the key and the name of a slot adds this name. -/
theorem Gives.cons {named : SlotName} (hvalid : named.Valid) {entries : List Entry}
    {names : List SlotName} (h : Gives entries names) (line : Nat) :
    Gives (⟨line, named.key, named.name.toList⟩ :: entries) (named :: names) := by
  have hdigits : ∀ c ∈ Nat.toDigits 10 named.slot, c.isDigit = true := fun c hc =>
    Nat.isDigit_of_mem_toDigits (by decide) (by decide) hc
  have hkey : slotKey? named.key = some (named.kind, Nat.toDigits 10 named.slot) := by
    refine slotKey?_eq_some_iff.2 ⟨hvalid.kind_ne, rfl, fun hfeed => ?_⟩
    exact absurd (hdigits _ hfeed) (by decide)
  constructor
  · have hnamed : Entry.named? ⟨line, named.key, named.name.toList⟩ = some named := by
      rw [Entry.named?, slot?_of_number hkey (natural?_toDigits named.slot), Option.map_some,
        String.ofList_toList]
    rw [List.filterMap_cons_some hnamed, h.named_eq]
  · refine List.forall_mem_cons.2 ⟨fun tables => ?_, h.accepted⟩
    refine ⟨_, (addEntry_eq_ok_iff hkey).2 ⟨?_, rfl⟩⟩
    refine ⟨Nat.toDigits_ne_nil, hdigits, ?_, ?_⟩
    · rw [digitsValue_toDigits]
      exact hvalid.slot_lt
    · exact fun hempty => hvalid.readable.1 (String.toList_eq_nil_iff.1 hempty)

/-- A passed-over line adds no name. -/
theorem PassedOver.gives {line : List Char} (h : PassedOver line) {number : Nat}
    {rest : List (List Char)} {names : List SlotName}
    (hrest : Gives (entriesFrom (number + 1) rest) names) :
    Gives (entriesFrom number (line :: rest)) names := by
  cases h with
  | blank hblank => rwa [entriesFrom_skipped (isSkipped_iff.2 (.blank hblank))]
  | comment hindent hmark => rwa [entriesFrom_skipped (isSkipped_iff.2 (.comment hindent hmark))]
  | other hkey hend =>
    cases hskip : isSkipped line with
    | true => rwa [entriesFrom_skipped hskip]
    | false =>
      have hjoin : joinLines (trimStart line) ([] ++ rest) = (trimStart line, 0) :=
        joinLines_of_not (by rw [isContinued_trimStart, hend]) rest
      have hentry := entriesFrom_joined hskip hjoin number
      have hslot : slotKey? (splitKey (trimStart line)).1 = none := by
        rw [Option.eq_none_iff_forall_ne_some]
        rintro ⟨kind, number⟩ hslot
        obtain ⟨hkind, happend, -⟩ := slotKey?_eq_some_iff.1 hslot
        exact hkey kind hkind ⟨number, happend.symm⟩
      rw [List.nil_append] at hentry
      rw [hentry]
      exact hrest.cons_of_none hslot

/-- A key starts with a letter. -/
theorem SlotName.key_eq_cons (named : SlotName) : ∃ first rest, named.key = first :: rest ∧
    isBlank first = false ∧ first ≠ '#' ∧ first ≠ '!' := by
  unfold SlotName.key
  cases named.kind
  all_goals exact ⟨_, _, rfl, by decide, by decide, by decide⟩

/-- The entry of a logical line that is a key, a separator and the pieces of a name. -/
theorem SlotName.entry_eq {named : SlotName} (hname : IsReadable named.name) {separator : List Char}
    (hseparator : Separator separator) (number : Nat) :
    LogicalLine.entry ⟨number, named.key ++ (separator ++ (pieces named.name.toList).flatten)⟩ =
      ⟨number, named.key, named.name.toList⟩ := by
  have htrim : trimEnd named.name.toList = named.name.toList := by
    have hne : named.name.toList ≠ [] := fun hempty => hname.1 (String.toList_eq_nil_iff.1 hempty)
    obtain ⟨front, last, heq⟩ := List.eq_nil_or_concat' named.name.toList |>.resolve_left hne
    rw [heq]
    exact dropTrailing_append_cons (hname.2 last (by simp [heq]))
  rw [LogicalLine.entry, named.splitKey_eq hseparator]
  simp only [afterSeparator_separator hseparator (endsKey_head_pieces _), unescape_pieces, htrim]

/-- The lines of an entry add its name. -/
theorem EntryLines.gives {named : SlotName} {own : List (List Char)} (h : EntryLines named own)
    (hvalid : named.Valid) {number : Nat} {rest : List (List Char)} {names : List SlotName}
    (hrest : Gives (entriesFrom (number + own.length) rest) names) :
    Gives (entriesFrom number (own ++ rest)) (named :: names) := by
  obtain @⟨indent, separator, line, more, hindent, hseparator, hname⟩ := h
  obtain ⟨first, key, hkey, hblank, hcomment⟩ := named.key_eq_cons
  have htrim : trimStart (indent ++ (named.key ++ (separator ++ line))) =
      named.key ++ (separator ++ line) :=
    dropWhile_run hindent (by simp [hkey, hblank])
  have hskip : isSkipped (indent ++ (named.key ++ (separator ++ line))) = false := by
    rw [isSkipped, htrim, hkey]
    simp [hcomment]
  have hjoin : joinLines (named.key ++ (separator ++ line)) (more ++ rest) =
      (named.key ++ (separator ++ (pieces named.name.toList).flatten), more.length) := by
    rw [← List.append_assoc, hname.joinLines_eq (fun _ => whole_of_mem_pieces)
      (named.isContinued_eq hseparator), List.append_assoc]
  rw [List.cons_append, entriesFrom_joined hskip (by rw [htrim, hjoin]),
    named.entry_eq hvalid.readable hseparator]
  refine Gives.cons hvalid ?_ number
  rwa [Nat.add_assoc, Nat.add_comm 1]

/-- The entries of laid out lines give the names that were written. -/
theorem Layout.gives {names : List SlotName} {lines : List (List Char)} (h : Layout names lines)
    (hvalid : ∀ named ∈ names, named.Valid) (number : Nat) :
    Gives (entriesFrom number lines) names := by
  induction h generalizing number with
  | nil => exact gives_nil
  | passedOver hline _ ih => exact hline.gives (ih hvalid (number + 1))
  | entry hown _ ih =>
    rw [List.forall_mem_cons] at hvalid
    exact hown.gives hvalid.1 (ih hvalid.2 _)

/-! ## The tables -/

/-- Entries that are accepted into all tables are all read. -/
theorem exists_foldlM_ok {entries : List Entry}
    (h : ∀ entry ∈ entries, ∀ tables, ∃ after, addEntry tables entry = .ok after)
    (tables : SlotTables) : ∃ final, entries.foldlM addEntry tables = .ok final := by
  induction entries generalizing tables with
  | nil => exact ⟨tables, rfl⟩
  | cons entry entries ih =>
    rw [List.forall_mem_cons] at h
    obtain ⟨after, hafter⟩ := h.1 tables
    rw [List.foldlM_cons, hafter]
    exact ih h.2 after

/-- The last name of a slot is the only name that the entries give to it. -/
theorem lastName_eq {entries : List Entry} {kind : SlotKind} {slot : Nat} {name? : Option String}
    (h : ∀ name, ⟨kind, slot, name⟩ ∈ entries.filterMap Entry.named? ↔ name? = some name) :
    lastName entries kind slot = name? := by
  have hgiven {entry : Entry} (hmem : entry ∈ entries) (hslot : entry.slot? = some (kind, slot)) :
      name? = some (String.ofList entry.value) := by
    refine (h _).1 (List.mem_filterMap.2 ⟨entry, hmem, ?_⟩)
    rw [Entry.named?, hslot]
    rfl
  -- An entry that was found has the name of the slot, and the entry with that name would be found.
  cases hlast : lastName entries kind slot with
  | some name =>
    obtain ⟨entry, hfind, rfl⟩ := Option.map_eq_some_iff.1 hlast
    have hmem : entry ∈ entries := List.mem_reverse.1 (List.mem_of_find?_eq_some hfind)
    have hslot := List.find?_some hfind
    exact (hgiven hmem (of_decide_eq_true hslot)).symm
  | none =>
    cases name? with
    | none => rfl
    | some name =>
      obtain ⟨entry, hmem, hnamed⟩ := List.mem_filterMap.1 ((h name).2 rfl)
      obtain ⟨⟨_, _⟩, hslot, heq⟩ := Option.map_eq_some_iff.1 hnamed
      obtain ⟨rfl, rfl, -⟩ := SlotName.mk.inj heq
      have hfind := List.find?_eq_none.1 (Option.map_eq_none_iff.1 hlast) entry
        (List.mem_reverse.2 hmem)
      exact absurd (decide_eq_true hslot) hfind

/-- The named slots of a kind are those with a name in the table. -/
theorem SlotTables.mem_namedOf {tables : SlotTables} {kind : SlotKind} {named : SlotName} :
    named ∈ tables.namedOf kind ↔
      named.kind = kind ∧ tables.name? kind named.slot = some named.name := by
  obtain ⟨found, slot, name⟩ := named
  have hname : tables.name? kind slot = some name ↔ (tables.table kind)[slot]? = some (some name) :=
    Option.join_eq_some_iff
  rw [hname, namedOf, List.mem_filterMap]
  constructor
  · rintro ⟨⟨name?, index⟩, hmem, heq⟩
    obtain ⟨given, rfl, hgiven⟩ := Option.map_eq_some_iff.1 heq
    obtain ⟨rfl, rfl, rfl⟩ := SlotName.mk.inj hgiven
    exact ⟨rfl, List.mem_zipIdx_iff_getElem?.1 hmem⟩
  · rintro ⟨rfl, hget⟩
    exact ⟨(some name, slot), List.mem_zipIdx_iff_getElem?.2 hget, rfl⟩

/-- The named slots of tables are those with a name. -/
theorem SlotTables.mem_named {tables : SlotTables} {named : SlotName} :
    named ∈ tables.named ↔ tables.name? named.kind named.slot = some named.name := by
  rw [SlotTables.named, List.mem_append, mem_namedOf, mem_namedOf]
  constructor
  · rintro (⟨hkind, hname⟩ | ⟨hkind, hname⟩)
    · rwa [hkind]
    · rwa [hkind]
  · intro hname
    match hkind : named.kind with
    | .attribute => exact .inl ⟨rfl, hkind ▸ hname⟩
    | .uniform => exact .inr ⟨rfl, hkind ▸ hname⟩
    | .output =>
      rw [hkind] at hname
      cases hname

/-- Full tables are determined by the names of their slots. -/
theorem SlotTables.Full.ext {tables other : SlotTables} (h : tables.Full) (hother : other.Full)
    (hname : ∀ kind ≠ SlotKind.output, ∀ slot, tables.name? kind slot = other.name? kind slot) :
    tables = other := by
  have hattributes : tables.attributes = other.attributes :=
    (@eq_map_of_name? tables .attribute _ h.attributes_length _ (hname _ (by decide))).trans
      (@eq_map_of_name? other .attribute _ hother.attributes_length _ fun _ => rfl).symm
  have huniforms : tables.uniforms = other.uniforms :=
    (@eq_map_of_name? tables .uniform _ h.uniforms_length _ (hname _ (by decide))).trans
      (@eq_map_of_name? other .uniform _ hother.uniforms_length _ fun _ => rfl).symm
  cases tables
  cases other
  cases hattributes
  cases huniforms
  rfl

/-! ## Writing and reading back -/

/-- Tables that can be written: they are full, and their names can be read back. -/
structure SlotTables.Writable (tables : SlotTables) : Prop where
  full : tables.Full
  readable : ∀ name, some name ∈ tables.attributes ++ tables.uniforms → IsReadable name

/-- The named slots of tables that can be written are valid. -/
theorem SlotTables.Writable.valid {tables : SlotTables} (h : tables.Writable) {named : SlotName}
    (hmem : named ∈ tables.named) : named.Valid := by
  have hget : (tables.table named.kind)[named.slot]? = some (some named.name) :=
    Option.join_eq_some_iff.1 (SlotTables.mem_named.1 hmem)
  obtain ⟨hlt, -⟩ := List.getElem?_eq_some_iff.1 hget
  have hname : some named.name ∈ tables.table named.kind := List.mem_of_getElem? hget
  match hkind : named.kind with
  | .attribute =>
    rw [hkind] at hlt hname
    exact ⟨by simp [hkind], by rwa [hkind, ← h.full.attributes_length],
      h.readable _ (List.mem_append_left _ hname)⟩
  | .uniform =>
    rw [hkind] at hlt hname
    exact ⟨by simp [hkind], by rwa [hkind, ← h.full.uniforms_length],
      h.readable _ (List.mem_append_right _ hname)⟩
  | .output =>
    rw [hkind] at hlt
    exact absurd hlt (Nat.not_lt_zero _)

/-- A file that is written for tables is read back as these tables. -/
theorem Written.read_eq {tables : SlotTables} (hwritable : tables.Writable) {file : String}
    (h : Written tables file) : SlotTables.ofFile file = .ok tables := by
  obtain ⟨names, lines, hperm, hlayout, hmade⟩ := h
  have hvalid : ∀ named ∈ names, named.Valid := fun named hmem =>
    hwritable.valid (hperm.mem_iff.1 hmem)
  obtain ⟨hgiven, haccepted⟩ := hlayout.gives hvalid 1
  -- The layout is in the order of the file, the tables have their own; only membership is compared.
  have hentries : entries file.toList = entriesFrom 1 lines := by
    rw [entries, logicalLines, hmade.lines_eq]
    rfl
  obtain ⟨final, hfinal⟩ := exists_foldlM_ok haccepted .empty
  have hnames : ∀ kind slot name,
      ⟨kind, slot, name⟩ ∈ (entriesFrom 1 lines).filterMap Entry.named? ↔
        tables.name? kind slot = some name := by
    intro kind slot name
    rw [hgiven, hperm.mem_iff, SlotTables.mem_named]
  obtain ⟨hfull, hread⟩ := name?_foldlM SlotTables.full_empty hfinal
  have hsame : final = tables := by
    refine hfull.ext hwritable.full fun kind hkind slot => ?_
    rw [hread kind hkind, lastName_eq (hnames kind slot), SlotTables.name?_empty, Option.or_none]
  rw [SlotTables.ofFile, hentries, hfinal, hsame]

/-- Tables whose names are not empty and do not end in a blank can be written as a file, and every
file that is written for them is read back as these tables. -/
theorem ofFile_written {tables : SlotTables} (h : tables.Writable) :
    Written tables tables.plainFile ∧
      ∀ file, Written tables file → SlotTables.ofFile file = .ok tables :=
  ⟨written_plainFile tables, fun _ hwritten => hwritten.read_eq h⟩

/-- A file with passed-over lines, broken and escaped names and both line breaks is read back. -/
theorem ofFile_written_broken :
    SlotTables.ofFile "# \\\r\n  Uniform.31 :\\ \\\n   x\nv=2\nAttribute.0\t\\=a\\\\\\\n b\\n c" =
      .ok ((SlotTables.empty.withName .attribute 0 "=a\\b\n c").withName .uniform 31 " x") := by
  have hwritable : ((SlotTables.empty.withName .attribute 0 "=a\\b\n c").withName
      .uniform 31 " x").Writable := by
    refine ⟨(SlotTables.full_empty.withName ..).withName .., fun name hmem => ?_⟩
    have hname : name = "=a\\b\n c" ∨ name = " x" := by
      simpa [SlotTables.empty, SlotTables.withName, SlotKind.capacity, List.replicate] using hmem
    rcases hname with rfl | rfl
    · have hlast : "=a\\b\n c".toList.getLast? = some 'c' := by decide +kernel
      exact ⟨by decide, fun c hc => Option.some.inj (hlast.symm.trans hc) ▸ by decide⟩
    · have hlast : " x".toList.getLast? = some 'x' := by decide +kernel
      exact ⟨by decide, fun c hc => Option.some.inj (hlast.symm.trans hc) ▸ by decide⟩
  have hx : EntryLines ⟨.uniform, 31, " x"⟩ ["  Uniform.31 :\\ \\".toList, "   x".toList] := by
    have hlines : ["  Uniform.31 :\\ \\".toList, "   x".toList] =
        ([' ', ' '] ++ (SlotName.key ⟨.uniform, 31, " x"⟩ ++ (([' '] ++ ':' :: []) ++
          (['\\', ' '] ++ ['\\'])))) :: [[' ', ' ', ' '] ++ (['x'] ++ [])] := by decide +kernel
    have hpieces : pieces " x".toList = [['\\', ' '], ['x']] := by decide +kernel
    rw [hlines]
    have hseparator : Separator ([' '] ++ ':' :: []) :=
      .mark (.inr rfl) (List.all_eq_true.1 rfl) (List.forall_mem_nil _)
    refine .mk (List.all_eq_true.1 rfl) hseparator ?_
    rw [hpieces]
    exact .piece (.broken (List.all_eq_true.1 rfl) rfl (.piece .nil))
  have ha : EntryLines ⟨.attribute, 0, "=a\\b\n c"⟩
      ["Attribute.0\t\\=a\\\\\\".toList, " b\\n c".toList] := by
    have hlines : ["Attribute.0\t\\=a\\\\\\".toList, " b\\n c".toList] =
        ([] ++ (SlotName.key ⟨.attribute, 0, "=a\\b\n c"⟩ ++ (['\t'] ++
          (['\\', '='] ++ (['a'] ++ (['\\', '\\'] ++ ['\\'])))))) ::
            [[' '] ++ (['b'] ++ (['\\', 'n'] ++ ([' '] ++ (['c'] ++ []))))] := by decide +kernel
    have hpieces : pieces "=a\\b\n c".toList =
        [['\\', '='], ['a'], ['\\', '\\'], ['b'], ['\\', 'n'], [' '], ['c']] := by
      decide +kernel
    rw [hlines]
    refine .mk (List.forall_mem_nil _) (.blanks (List.cons_ne_nil _ _) (List.all_eq_true.1 rfl)) ?_
    rw [hpieces]
    exact .piece (.piece (.piece (.broken (List.all_eq_true.1 rfl) rfl
      (.piece (.piece (.piece (.piece .nil)))))))
  have hcomment : PassedOver "# \\".toList := by
    have hline : "# \\".toList = [] ++ '#' :: " \\".toList := by decide +kernel
    rw [hline]
    exact .comment (List.forall_mem_nil _) (.inl rfl)
  have hother : PassedOver "v=2".toList := .other
    (fun kind _ => by cases kind <;> decide +kernel) (by decide +kernel)
  have hlayout := Layout.passedOver hcomment (.entry hx (.passedOver hother (.entry ha .nil)))
  refine (ofFile_written hwritable).2 _ ⟨_, _, by decide +kernel, hlayout, ?_⟩
  have hfile : "# \\\r\n  Uniform.31 :\\ \\\n   x\nv=2\nAttribute.0\t\\=a\\\\\\\n b\\n c".toList =
      "# \\".toList ++ '\r' :: '\n' :: ("  Uniform.31 :\\ \\".toList ++ '\n' ::
        ("   x".toList ++ '\n' :: ("v=2".toList ++ '\n' ::
          ("Attribute.0\t\\=a\\\\\\".toList ++ '\n' :: " b\\n c".toList)))) := by
    decide +kernel
  rw [hfile]
  refine .returnFeed (by decide +kernel) (.feed (by decide +kernel) (by decide +kernel)
    (.feed (by decide +kernel) (by decide +kernel) (.feed (by decide +kernel) (by decide +kernel)
      (.feed (by decide +kernel) (by decide +kernel) (.last (by decide +kernel)
        (by decide +kernel))))))

end ShaderPipeline.SlotFile
