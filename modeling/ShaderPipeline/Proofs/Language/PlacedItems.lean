import ShaderPipeline.Proofs.Language.BlockReading

/-!
# Places of what is declared

Everything that is read from a source carries the place where it stands. What stands there is said
for each kind of thing: a declared name is spelled out, a condition is spelled out behind the word
that introduces it, and where a property is used with a dollar sign, that sign stands at the place
and the name behind it. `Draft.Placed` says so of all that the items so far have declared; each
item keeps it, whether the item is read to its end or not.
-/

namespace ShaderPipeline.Language

open Text Grammar

/-! ## What stands at a place -/

/-- A name is spelled out at a place. -/
def NameAt (source : List Char) (name : String) (place : Position) : Prop :=
  ∃ text rest, StandsAt source place text ∧ SpelledBy name text rest

/-- A condition is spelled out at its place, behind the word that introduces it. -/
def ConditionAt (source : List Char) (reference : PropertyRef) : Prop :=
  ∃ place text after rest, StandsAt source place text ∧ SpelledBy "if" text after ∧
    WordAt source after (reference.name, reference.location) rest

/-- An array length has a dollar sign at its place and the name of its property behind it. -/
def LengthAt (source : List Char) (reference : PropertyRef) : Prop :=
  ∃ after start rest, StandsAt source reference.location ('$' :: after) ∧ Skips after start ∧
    SpelledBy reference.name start rest

/-- A reference in a body has a dollar sign at its place and directly behind it the name. -/
def ReferenceAt (source : List Char) (reference : PropertyRef) : Prop :=
  ∃ after rest, StandsAt source reference.location ('$' :: after) ∧
    SpelledBy reference.name after rest

/-- The places of an array length are right. -/
def ArrayLength.Placed (source : List Char) : ArrayLength → Prop
  | .fixed _ => True
  | .property reference => LengthAt source reference

/-- The places of a declaration are right. -/
structure Declaration.Placed (source : List Char) (declared : Declaration) : Prop where
  name_at : NameAt source declared.name declared.location
  length_at : ∀ length ∈ declared.array, length.Placed source

/-- The places of an attribute or output are right. -/
structure SlotDecl.Placed (source : List Char) (slot : SlotDecl) : Prop where
  declaration_at : slot.declaration.Placed source
  condition_at : ∀ reference ∈ slot.condition, ConditionAt source reference

/-- The places of a body are right. -/
def Body.Placed (source : List Char) (body : Body) : Prop :=
  ∀ reference ∈ Body.propertyRefs body, ReferenceAt source reference

/-- The places of all that was declared so far are right. -/
structure Draft.Placed (source : List Char) (draft : Draft) : Prop where
  property_at : ∀ declared ∈ draft.properties, NameAt source declared.name declared.location
  uniform_at : ∀ entry ∈ draft.uniforms, entry.2.Placed source
  attribute_at : ∀ slot ∈ draft.attributes, slot.Placed source
  varying_at : ∀ declared ∈ draft.varyings, declared.Placed source
  output_at : ∀ slot ∈ draft.outputs, slot.Placed source
  block_at : ∀ kind, ∀ body ∈ draft.block kind, Body.Placed source body

variable {source : List Char}

/-- A word stands at its place. -/
theorem WordAt.nameAt {text rest : List Char} {word : String × Position}
    (h : WordAt source text word rest) : NameAt source word.1 word.2 := by
  obtain ⟨start, -, hstands, hspelled⟩ := h
  exact ⟨start, rest, hstands, hspelled⟩

/-- A dollar sign stands in front of what is left behind it. -/
theorem standsAt_of_dollar {found : PlacedToken} {rest : List Char}
    (h : TokenAt source found rest) (hfound : found.token = .dollar) :
    StandsAt source found.location ('$' :: rest) := by
  obtain ⟨text, hstands, hlexeme⟩ := h
  rw [hfound] at hlexeme
  cases hlexeme with
  | mark hmark =>
    unfold Token.mark? at hmark
    split at hmark <;> cases hmark
    exact hstands

/-! ## Declarations -/

namespace Parser

variable {c : Cursor}

/-- An unknown type is found where its word stands. -/
theorem typeNamed_leads (hc : StandsAt source c.position c.rest) {word : String × Position}
    (hword : IsPlace source word.2) : Leads source c (typeNamed word) fun _ _ => True := by
  unfold typeNamed
  split
  · exact .pure hc trivial
  · exact .fail hword rfl

/-- What is wrong with a type is found where it stands. -/
theorem precisionAndType_leads (hc : StandsAt source c.position c.rest) :
    Leads source c precisionAndType fun _ _ => True := by
  refine .bind (identifier_leads hc _) fun first d hd hfirst => ?_
  split
  · exact .bind (typeNamed_leads hd hfirst.isPlace) fun _ _ hend _ => .pure hend trivial
  · refine .bind (identifier_leads hd _) fun second e he hsecond => ?_
    exact .bind (typeNamed_leads he hsecond.isPlace) fun _ _ hend _ => .pure hend trivial

/-- An array length stands at the place of its first token. -/
theorem lengthFrom_leads (hc : StandsAt source c.position c.rest) {found : PlacedToken}
    (hfound : TokenAt source found c.rest) :
    Leads source c (lengthFrom found) fun length _ => length.Placed source := by
  unfold lengthFrom
  split
  · split
    · exact .fail hfound.isPlace rfl
    · exact .pure hc trivial
  · rename_i hdollar
    refine .bind (identifier_leads hc _) fun word d hd hword => ?_
    obtain ⟨start, hskips, -, hspelled⟩ := hword
    exact .pure hd ⟨c.rest, start, d.rest, standsAt_of_dollar hfound hdollar, hskips, hspelled⟩
  · exact .fail hfound.isPlace rfl

/-- An array length stands at its place. -/
theorem arrayLength_leads (hc : StandsAt source c.position c.rest) :
    Leads source c arrayLength fun length _ => length.Placed source := by
  refine .bind (token_leads hc _) fun found d hd hfound => ?_
  obtain ⟨text, -, hfound⟩ := hfound
  refine .bind (lengthFrom_leads hd ⟨text, hfound⟩) fun length e he hlength => ?_
  exact .bind (exactly_leads he _) fun _ _ hend _ => .pure hend hlength

/-- A declaration stands at its place, and so does the token behind it. -/
theorem withLength_leads (hc : StandsAt source c.position c.rest) {declared : Declaration}
    (hdeclared : declared.Placed source) {found : PlacedToken}
    (hfound : TokenAt source found c.rest) :
    Leads source c (withLength declared found) fun result rest =>
      result.1.Placed source ∧ TokenAt source result.2 rest := by
  unfold withLength
  split
  · refine .bind (arrayLength_leads hc) fun length d hd hlength => ?_
    refine .bind (token_leads hd _) fun after e he hafter => ?_
    obtain ⟨text, -, hafter⟩ := hafter
    refine .pure he ⟨⟨hdeclared.name_at, fun other hother => ?_⟩, text, hafter⟩
    obtain rfl := Option.some.inj hother
    exact hlength
  · exact .pure hc ⟨hdeclared, hfound⟩

/-- A declaration stands at its place, and so does the token behind it. -/
theorem declaration_leads (hc : StandsAt source c.position c.rest) (known : List String) :
    Leads source c (declaration known) fun result rest =>
      result.1.Placed source ∧ TokenAt source result.2 rest := by
  refine .bind (precisionAndType_leads hc) fun head d hd _ => ?_
  refine .bind (newName_leads hd _ _) fun name e he hname => ?_
  refine .bind (token_leads he _) fun found f hf hfound => ?_
  obtain ⟨text, -, hfound⟩ := hfound
  exact withLength_leads hf ⟨hname.nameAt, by simp⟩ ⟨text, hfound⟩

/-- Where a semicolon is missing, something else stands. -/
theorem endOfDeclaration_leads (hc : StandsAt source c.position c.rest) {found : PlacedToken}
    (hfound : IsPlace source found.location) :
    Leads source c (endOfDeclaration found) fun _ _ => True := by
  unfold endOfDeclaration
  split
  · exact .pure hc trivial
  · exact .fail hfound rfl

/-- A condition stands at its place. -/
theorem condition_leads (hc : StandsAt source c.position c.rest) {found : PlacedToken}
    (hfound : TokenAt source found c.rest) :
    Leads source c (condition found) fun result _ =>
      ∀ reference ∈ result, ConditionAt source reference := by
  unfold condition
  split
  · rename_i hif
    obtain ⟨text, hstands, hlexeme⟩ := hfound
    rw [hif] at hlexeme
    refine .bind (identifier_leads hc _) fun word d hd hword => ?_
    refine .bind (exactly_leads hd _) fun _ e he _ => .pure he fun reference hreference => ?_
    obtain rfl := Option.some.inj hreference
    exact ⟨_, text, c.rest, d.rest, hstands, spelledBy_of_lexeme hlexeme, hword⟩
  · exact .bind (endOfDeclaration_leads hc hfound.isPlace) fun _ _ hend _ => .pure hend nofun

end Parser

/-! ## Bodies -/

/-- What a body refers to stands at its place. -/
theorem referenceAt_of_readPieces {opened : Position} {depth : Nat} {c d : Cursor}
    {found : List Piece} (hc : StandsAt source c.position c.rest)
    (h : readPieces opened depth c = .ok (found, d)) :
    ∀ reference ∈ found.filterMap pieceRef?, ReferenceAt source reference := by
  intro reference hmem
  obtain ⟨after, rest, hreach, hspelled⟩ := reaches_of_readPieces h reference hmem
  exact ⟨after, rest, hc.reaches hreach, hspelled⟩

/-- What is wrong with a body is found in the source. -/
theorem formFault_of_readPieces {opened : Position} {depth : Nat} {c : Cursor} {e : CompileError}
    (hopened : IsPlace source opened) (hc : StandsAt source c.position c.rest)
    (h : readPieces opened depth c = .error e) : FormFault source e := by
  obtain ⟨parts, stuck, hreach, -, -, hstuck⟩ := fails_of_readPieces h
  have hplace := (hc.reaches hreach).isPlace
  cases hstuck with
  | ended => exact formFault_located hopened rfl
  | comment hunclosed => exact formFault_located hplace rfl
  | name hname => exact formFault_located hplace rfl

/-- What a body refers to stands at its place. -/
theorem readBody_leads {opened : Position} (hopened : IsPlace source opened) {c : Cursor}
    (hc : StandsAt source c.position c.rest) :
    Parser.Leads source c (readBody opened : Parser Body)
      fun found _ => Body.Placed source found where
  ok {found d} hrun := by
    change readBody opened c = _ at hrun
    refine ⟨hc.reaches (readBody_reaches hrun), ?_⟩
    unfold readBody at hrun
    split at hrun
    · cases hrun
    · rename_i hread
      obtain ⟨rfl, rfl⟩ := by simpa using hrun
      rw [Body.Placed, propertyRefs_filterMap_segment?, filterMap_pieceRef?_trimLast,
        filterMap_pieceRef?_trimFirst]
      exact referenceAt_of_readPieces hc hread
  error {e} hrun := by
    change readBody opened c = _ at hrun
    unfold readBody at hrun
    split at hrun
    · rename_i hread
      obtain rfl := Except.error.inj hrun
      exact formFault_of_readPieces hopened hc hread
    · cases hrun

/-! ## Items -/

namespace Draft.Placed

variable {draft : Draft}

/-- Nothing that was declared stands at a wrong place. -/
theorem empty : ({} : Draft).Placed source where
  property_at := List.forall_mem_nil _
  uniform_at := List.forall_mem_nil _
  attribute_at := List.forall_mem_nil _
  varying_at := List.forall_mem_nil _
  output_at := List.forall_mem_nil _
  block_at := by
    intro kind body hbody
    rcases kind with _ | (_ | _) <;> cases hbody

/-- A block whose body stands at its place may be added. -/
theorem withBlock (h : draft.Placed source) {found : Body} (hfound : Body.Placed source found)
    (kind : BlockKind) : (draft.withBlock found kind).Placed source := by
  have hblock : ∀ other, ∀ body ∈ (draft.withBlock found kind).block other,
      body = found ∨ body ∈ draft.block other := by
    intro other body hbody
    rcases kind with _ | (_ | _) <;> rcases other with _ | (_ | _) <;>
      first | exact .inl (Option.some.inj hbody).symm | exact .inr hbody
  have hplaced : ∀ other, ∀ body ∈ (draft.withBlock found kind).block other,
      Body.Placed source body := by
    intro other body hbody
    rcases hblock other body hbody with rfl | hold
    · exact hfound
    · exact h.block_at other body hold
  rcases kind with _ | (_ | _) <;>
    exact ⟨h.property_at, h.uniform_at, h.attribute_at, h.varying_at, h.output_at, hplaced⟩

end Draft.Placed

namespace Parser

variable {c : Cursor} {draft : Draft}

/-- A property stands at its place. -/
theorem property_leads (hc : StandsAt source c.position c.rest) (hdraft : draft.Placed source) :
    Leads source c (property draft) fun more _ => more.Placed source := by
  refine .bind (identifier_leads hc _) fun word d hd hword => ?_
  dsimp only
  split
  · exact .fail hword.isPlace rfl
  · refine .bind (newName_leads hd _ _) fun name e he hname => ?_
    refine .bind (exactly_leads he _) fun _ f hf _ => .pure hf ?_
    exact { hdraft with
      property_at := List.forall_mem_append.2
        ⟨hdraft.property_at, List.forall_mem_singleton.2 hname.nameAt⟩ }

/-- A uniform stands at its place. -/
theorem uniformSlot_leads (hc : StandsAt source c.position c.rest) (hdraft : draft.Placed source) :
    Leads source c (uniformSlot draft) fun more _ => more.Placed source := by
  refine .bind (slotIndex_leads hc _ _) fun slot d hd _ => ?_
  refine .bind (declaration_leads hd _) fun result e he hresult => ?_
  refine .bind (endOfDeclaration_leads he hresult.2.isPlace) fun _ f hf _ => .pure hf ?_
  exact { hdraft with
    uniform_at := List.forall_mem_append.2
      ⟨hdraft.uniform_at, List.forall_mem_singleton.2 hresult.1⟩ }

/-- An attribute stands at its place. -/
theorem attributeSlot_leads (hc : StandsAt source c.position c.rest)
    (hdraft : draft.Placed source) :
    Leads source c (attributeSlot draft) fun more _ => more.Placed source := by
  refine .bind (slotIndex_leads hc _ _) fun slot d hd _ => ?_
  refine .bind (declaration_leads hd _) fun result e he hresult => ?_
  refine .bind (condition_leads he hresult.2) fun condition f hf hcondition => .pure hf ?_
  exact { hdraft with
    attribute_at := List.forall_mem_append.2
      ⟨hdraft.attribute_at, List.forall_mem_singleton.2 ⟨hresult.1, hcondition⟩⟩ }

/-- A varying stands at its place. -/
theorem varying_leads (hc : StandsAt source c.position c.rest) (hdraft : draft.Placed source) :
    Leads source c (varying draft) fun more _ => more.Placed source := by
  refine .bind (declaration_leads hc _) fun result e he hresult => ?_
  refine .bind (endOfDeclaration_leads he hresult.2.isPlace) fun _ f hf _ => .pure hf ?_
  exact { hdraft with
    varying_at := List.forall_mem_append.2
      ⟨hdraft.varying_at, List.forall_mem_singleton.2 hresult.1⟩ }

/-- An output stands at its place. -/
theorem outputSlot_leads (hc : StandsAt source c.position c.rest) (hdraft : draft.Placed source) :
    Leads source c (outputSlot draft) fun more _ => more.Placed source := by
  refine .bind (slotIndex_leads hc _ _) fun slot d hd _ => ?_
  refine .bind (declaration_leads hd _) fun result e he hresult => ?_
  refine .bind (condition_leads he hresult.2) fun condition f hf hcondition => .pure hf ?_
  exact { hdraft with
    output_at := List.forall_mem_append.2
      ⟨hdraft.output_at, List.forall_mem_singleton.2 ⟨hresult.1, hcondition⟩⟩ }

/-- A block stands at its place, which is that of its directive. -/
theorem block_leads (hc : StandsAt source c.position c.rest) (hdraft : draft.Placed source)
    (kind : BlockKind) {location : Position} (hlocation : IsPlace source location) :
    Leads source c (block draft kind location) fun more _ => more.Placed source := by
  refine .bind (exactly_leads hc _) fun opened d hd hopened => ?_
  refine .bind (readBody_leads hopened.2.isPlace hd) fun found e he hfound => ?_
  split
  · exact .fail hlocation rfl
  · exact .pure he (hdraft.withBlock hfound kind)

/-- What follows a directive stands at its place. -/
theorem directive_leads (hc : StandsAt source c.position c.rest) (hdraft : draft.Placed source)
    {location : Position} (hlocation : IsPlace source location) : (kind : Directive) →
    Leads source c (directive draft location kind) fun more _ => more.Placed source
  | .property => property_leads hc hdraft
  | .uniform => uniformSlot_leads hc hdraft
  | .attribute => attributeSlot_leads hc hdraft
  | .varying => varying_leads hc hdraft
  | .output => outputSlot_leads hc hdraft
  | .block kind => block_leads hc hdraft kind hlocation

end Parser

/-- An item stands at its place. -/
theorem placed_of_readItem {draft more : Draft} {c d : Cursor}
    (hc : StandsAt source c.position c.rest) (hdraft : draft.Placed source)
    (h : readItem draft c = .ok (some more, d)) :
    StandsAt source d.position d.rest ∧ more.Placed source := by
  unfold readItem at h
  split at h
  · cases h
  · cases h
  · rename_i found mid hnext
    have hmid := hc.reaches (nextToken_reaches hnext)
    obtain ⟨text, -, hstands, -⟩ := tokenAt_of_nextToken hc hnext
    split at h
    · split at h
      · cases h
      · rename_i kind hkind
        split at h
        · cases h
        · rename_i result after hrun
          obtain ⟨rfl, rfl⟩ := by simpa using h
          exact (Parser.directive_leads hmid hdraft hstands.isPlace kind).ok hrun
    · cases h

/-- What is wrong with an item is found in the source. -/
theorem formFault_of_readItem {draft : Draft} {c : Cursor} {e : CompileError}
    (hc : StandsAt source c.position c.rest) (hdraft : draft.Placed source)
    (h : readItem draft c = .error e) : FormFault source e := by
  unfold readItem at h
  split at h
  · rename_i hnext
    obtain rfl := Except.error.inj h
    exact formFault_of_nextToken hc hnext
  · cases h
  · rename_i found mid hnext
    have hmid := hc.reaches (nextToken_reaches hnext)
    obtain ⟨text, -, hstands, -⟩ := tokenAt_of_nextToken hc hnext
    split at h
    · split at h
      · obtain rfl := Except.error.inj h
        exact formFault_located hstands.isPlace rfl
      · rename_i kind hkind
        split at h
        · rename_i hrun
          obtain rfl := Except.error.inj h
          exact (Parser.directive_leads hmid hdraft hstands.isPlace kind).error hrun
        · cases h
    · obtain rfl := Except.error.inj h
      exact formFault_located hstands.isPlace rfl

/-- All items stand at their places. -/
theorem placed_of_readItems {draft final : Draft} {c : Cursor}
    (hc : StandsAt source c.position c.rest) (hdraft : draft.Placed source)
    (h : readItems draft c = .ok final) : final.Placed source := by
  fun_induction readItems draft c with
  | case1 => cases h
  | case2 => exact Except.ok.inj h ▸ hdraft
  | case3 draft c more d hitem ih =>
    obtain ⟨hd, hmore⟩ := placed_of_readItem hc hdraft hitem
    exact ih hd hmore h

/-- What is wrong with the form of a source is found in the source. -/
theorem formFault_of_readItems {draft : Draft} {c : Cursor} {e : CompileError}
    (hc : StandsAt source c.position c.rest) (hdraft : draft.Placed source)
    (h : readItems draft c = .error e) : FormFault source e := by
  fun_induction readItems draft c with
  | case1 draft c found hitem =>
    obtain rfl := Except.error.inj h
    exact formFault_of_readItem hc hdraft hitem
  | case2 => cases h
  | case3 draft c more d hitem ih =>
    obtain ⟨hd, hmore⟩ := placed_of_readItem hc hdraft hitem
    exact ih hd hmore h

end ShaderPipeline.Language
