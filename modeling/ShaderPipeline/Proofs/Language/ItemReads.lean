import ShaderPipeline.Proofs.Language.Described

/-!
# Reading items

The parser of each directive reads the items of that directive that the draft admits, and adds
them to the draft. From that one step, `readItems_sound` and `readItems_complete` follow by
induction on what is left to read: the items of a source that are consistent are read, nothing
else is, and the draft at the end is the one that the items describe. The invariant of the run is
that the draft, without its places, is described by the items before.
-/

namespace ShaderPipeline.Language

open Grammar

/-- A word stands for a directive if it is the keyword of the directive. -/
theorem Directive.ofKeyword?_eq_some_iff {word : String} {kind : Directive} :
    ofKeyword? word = some kind ↔ word = keyword kind := by
  constructor
  · intro h
    unfold ofKeyword? at h
    split at h <;> cases h <;> rfl
  · intro h
    subst h
    cases kind with
    | block kind =>
      cases kind with
      | shared => rfl
      | stage stage => cases stage <;> rfl
    | _ => rfl

/-- What a draft admits of an item that declares something. -/
theorem Draft.admits_iff_of_declarator {draft : Draft} {item : Item} {declarator : Declarator}
    (h : item.declarator? = some declarator) :
    draft.Admits item ↔
      (∀ kind, ∀ slot ∈ item.slot? kind, slot < kind.capacity ∧ slot ∉ draft.slots kind) ∧
        declarator.name ∉ draft.names ∧ declarator.length ≠ some (.literal 0) := by
  have hname : item.name? = some declarator.name := by
    cases item <;> cases h <;> rfl
  have hbody (kind : BlockKind) : item.body? kind = none := by
    cases item <;> cases h <;> rfl
  constructor
  · intro hadmits
    exact ⟨hadmits.slot_free, hadmits.name_new _ hname, hadmits.length_ne _ h⟩
  · intro hadmits
    obtain ⟨hslot, hnew, hlength⟩ := hadmits
    refine ⟨hslot, ?_, ?_, ?_⟩
    · simpa [h] using hlength
    · simpa [hname] using hnew
    · simp [hbody]

namespace Parser

variable {α β : Type}

/-- A declaration without a condition is read up to its semicolon. -/
theorem plain_reads (known : List String) {view : α → β} {f : Declaration → α} {g : Declarator → β}
    (hview : ∀ declared, view (f declared) = g declared.written) :
    Reads (do
        let (declared, after) ← declaration known
        endOfDeclaration after
        return f declared) view
      fun b text rest => ∃ declarator, g declarator = b ∧
        (declarator.name ∉ known ∧ declarator.length ≠ some (.literal 0)) ∧
          Spells (declarator.tokens ++ [.semicolon]) text rest := by
  refine .congr (.bind (declaration_reads known) (fun head b text rest =>
    g head.1 = b ∧ head.2 = .semicolon ∧ text = rest) fun head => ?_) ?_
  · refine .congr (.map (endOfDeclaration_reads _) (g := fun _ => g head.1.written)
      fun _ => hview _) ?_
    simp
  · intro b text rest
    constructor
    · intro h
      obtain ⟨⟨declarator, after⟩, mid, ⟨hnew, -, hspells⟩, hb, rfl, rfl⟩ := h
      exact ⟨declarator, hb, hnew, hspells⟩
    · intro h
      obtain ⟨declarator, hb, hnew, hspells⟩ := h
      exact ⟨(declarator, .semicolon), rest, ⟨hnew, by simp, hspells⟩, hb, rfl, rfl⟩

/-- A declaration with an optional condition is read up to its semicolon. -/
theorem conditional_reads (known : List String) {view : α → β}
    {f : Declaration → Option PropertyRef → α} {g : Declarator → Option String → β}
    (hview : ∀ declared condition,
      view (f declared condition) = g declared.written (condition.map (·.name))) :
    Reads (do
        let (declared, after) ← declaration known
        let condition ← condition after
        return f declared condition) view
      fun b text rest => ∃ declarator condition, g declarator condition = b ∧
        (declarator.name ∉ known ∧ declarator.length ≠ some (.literal 0)) ∧
          Spells (declarator.tokens ++ (conditionTokens condition ++ [.semicolon])) text rest := by
  refine .congr (.bind (declaration_reads known) (fun head b text rest =>
    ∃ condition, g head.1 condition = b ∧
      ∃ tokens, conditionTokens condition ++ [.semicolon] = head.2 :: tokens ∧
        Spells tokens text rest) fun head => ?_) ?_
  · exact .map (condition_reads _) (g := fun condition => g head.1.written condition)
      fun _ => hview _ _
  · intro b text rest
    constructor
    · intro h
      obtain ⟨⟨declarator, after⟩, mid, ⟨hnew, -, hspells⟩, condition, hb, tokens, htokens,
        hmore⟩ := h
      refine ⟨declarator, condition, hb, hnew, ?_⟩
      rw [htokens, List.append_cons]
      exact spells_append_iff.2 ⟨mid, hspells, hmore⟩
    · intro h
      obtain ⟨declarator, condition, hb, hnew, hspells⟩ := h
      obtain ⟨first, tokens, htokens, hfirst⟩ : ∃ first tokens,
          conditionTokens condition ++ [.semicolon] = first :: tokens ∧ first ≠ .leftBracket := by
        cases condition <;> simp [conditionTokens]
      rw [htokens, List.append_cons] at hspells
      obtain ⟨mid, hspells, hmore⟩ := spells_append_iff.1 hspells
      exact ⟨(declarator, first), mid, ⟨hnew, fun _ => hfirst, hspells⟩, condition, hb, tokens,
        htokens, hmore⟩

/-- What is read by the parser of a directive: an item of that directive that the draft admits. -/
def ItemPhrase (draft : Draft) (kind : Directive) (more : Draft) (text rest : List Char) : Prop :=
  ∃ item : Item, item.directive = kind ∧ draft.Admits item ∧
    draft.unplaced.withItem item = more ∧ item.Follows text rest

/-- A property is read that the draft admits. -/
theorem property_reads (draft : Draft) :
    Reads (property draft) Draft.unplaced (ItemPhrase draft .property) := by
  refine .congr (.bind (identifier_reads _) (fun word more text rest =>
    ∃ type name, word = PropertyType.keyword type ∧ name ∉ draft.names ∧
      draft.unplaced.withItem (.property type name) = more ∧
        Spells [.identifier name, .semicolon] text rest) fun word => ?_) ?_
  · dsimp only
    split
    · rename_i hnone
      refine .fail fun more text rest hphrase => ?_
      obtain ⟨type, name, hword, -⟩ := hphrase
      rw [propertyType_eq_some_iff.2 hword] at hnone
      cases hnone
    · rename_i type hsome
      refine .congr (.bind (newName_reads _ _) (fun name more text rest =>
        draft.unplaced.withItem (.property type name) = more ∧ Spells [.semicolon] text rest)
        fun name => ?_) ?_
      · refine .congr (.map (exactly_reads _)
          (g := fun _ => draft.unplaced.withItem (.property type name.1)) fun _ => ?_) (by simp)
        simp [Draft.unplaced, Draft.withItem, PropertyDecl.unplaced]
      · intro more text rest
        constructor
        · intro h
          obtain ⟨name, mid, ⟨hnew, hspells⟩, hmore, hsemicolon⟩ := h
          exact ⟨type, name, propertyType_eq_some_iff.1 hsome, hnew, hmore,
            spells_cons_iff.2 ⟨mid, hspells, hsemicolon⟩⟩
        · intro h
          obtain ⟨other, name, hword, hnew, hmore, hspells⟩ := h
          rw [propertyType_eq_some_iff.2 hword, Option.some.injEq] at hsome
          subst hsome
          obtain ⟨mid, hspells, hsemicolon⟩ := spells_cons_iff.1 hspells
          exact ⟨name, mid, ⟨hnew, hspells⟩, hmore, hsemicolon⟩
  · intro more text rest
    constructor
    · intro h
      obtain ⟨word, mid, hword, type, name, rfl, hnew, hmore, hspells⟩ := h
      refine ⟨.property type name, rfl, ⟨?_, ?_, ?_, ?_⟩, hmore, rest,
        spells_cons_iff.2 ⟨mid, hword, hspells⟩, rfl⟩
      · simp [Item.slot?]
      · simp [Item.declarator?]
      · simpa [Item.name?, Item.property?] using hnew
      · simp [Item.body?]
    · intro h
      obtain ⟨item, hkind, hadmits, hmore, body, hspells, hbody⟩ := h
      cases item <;> cases hkind
      cases hbody
      obtain ⟨mid, hword, hspells⟩ := spells_cons_iff.1 hspells
      exact ⟨_, mid, hword, _, _, rfl, hadmits.name_new _ rfl, hmore, hspells⟩

/-- A slot and what follows it are read. -/
theorem slotted_reads (kind : SlotKind) (taken : List Nat) {view : α → β} {p : Nat → Parser α}
    {phrase : Nat → β → List Char → List Char → Prop}
    (hp : ∀ slot, Reads (p slot) view (phrase slot)) :
    Reads (do p (← slotIndex kind taken)) view fun b text rest =>
      ∃ slot, (slot < kind.capacity ∧ slot ∉ taken) ∧
        ∃ mid, Spells [.integer slot] text mid ∧ phrase slot b mid rest := by
  refine .congr (.bind (slotIndex_reads kind taken) phrase hp) fun b text rest => ?_
  constructor
  · intro h
    obtain ⟨slot, mid, ⟨hfree, hspells⟩, hphrase⟩ := h
    exact ⟨slot, hfree, mid, hspells, hphrase⟩
  · intro h
    obtain ⟨slot, hfree, mid, hspells, hphrase⟩ := h
    exact ⟨slot, mid, ⟨hfree, hspells⟩, hphrase⟩

/-- A uniform is read that the draft admits. -/
theorem uniformSlot_reads (draft : Draft) :
    Reads (uniformSlot draft) Draft.unplaced (ItemPhrase draft .uniform) := by
  refine .congr (slotted_reads .uniform _ fun slot => plain_reads draft.names
    (f := fun declared =>
      ({ draft with uniforms := draft.uniforms ++ [(slot, declared)] } : Draft))
    (g := fun declarator => draft.unplaced.withItem (.uniform slot declarator))
    fun declared => ?_) fun more text rest => ?_
  · simp [Draft.unplaced, Draft.withItem, declaration_written]
  · constructor
    · intro h
      obtain ⟨slot, hfree, mid, hslot, declarator, hmore, hnew, hspells⟩ := h
      refine ⟨.uniform slot declarator, rfl,
        (Draft.admits_iff_of_declarator rfl).2 ⟨?_, hnew⟩, hmore, rest,
        spells_cons_iff.2 ⟨mid, hslot, hspells⟩, rfl⟩
      intro kind taken htaken
      cases kind <;> cases htaken
      exact hfree
    · intro h
      obtain ⟨item, hkind, hadmits, hmore, body, hspells, hbody⟩ := h
      cases item <;> cases hkind
      cases hbody
      obtain ⟨mid, hslot, hspells⟩ := spells_cons_iff.1 hspells
      obtain ⟨hfree, hnew⟩ := (Draft.admits_iff_of_declarator rfl).1 hadmits
      exact ⟨_, hfree .uniform _ rfl, mid, hslot, _, hmore, hnew, hspells⟩

/-- An attribute is read that the draft admits. -/
theorem attributeSlot_reads (draft : Draft) :
    Reads (attributeSlot draft) Draft.unplaced (ItemPhrase draft .attribute) := by
  refine .congr (slotted_reads .attribute _ fun slot => conditional_reads draft.names
    (f := fun declared condition =>
      ({ draft with attributes := draft.attributes ++ [⟨slot, declared, condition⟩] } : Draft))
    (g := fun declarator condition =>
      draft.unplaced.withItem (.attribute slot declarator condition))
    fun declared condition => ?_) fun more text rest => ?_
  · simp [Draft.unplaced, Draft.withItem, declaration_written, SlotDecl.unplaced, referenceTo,
      PropertyRef.unplaced, Function.comp_def]
  · constructor
    · intro h
      obtain ⟨slot, hfree, mid, hslot, declarator, condition, hmore, hnew, hspells⟩ := h
      refine ⟨.attribute slot declarator condition, rfl,
        (Draft.admits_iff_of_declarator rfl).2 ⟨?_, hnew⟩, hmore, rest,
        spells_cons_iff.2 ⟨mid, hslot, hspells⟩, rfl⟩
      intro kind taken htaken
      cases kind <;> cases htaken
      exact hfree
    · intro h
      obtain ⟨item, hkind, hadmits, hmore, body, hspells, hbody⟩ := h
      cases item <;> cases hkind
      cases hbody
      obtain ⟨mid, hslot, hspells⟩ := spells_cons_iff.1 hspells
      obtain ⟨hfree, hnew⟩ := (Draft.admits_iff_of_declarator rfl).1 hadmits
      exact ⟨_, hfree .attribute _ rfl, mid, hslot, _, _, hmore, hnew, hspells⟩

/-- A varying is read that the draft admits. -/
theorem varying_reads (draft : Draft) :
    Reads (varying draft) Draft.unplaced (ItemPhrase draft .varying) := by
  refine .congr (plain_reads draft.names
    (f := fun declared => ({ draft with varyings := draft.varyings ++ [declared] } : Draft))
    (g := fun declarator => draft.unplaced.withItem (.varying declarator))
    fun declared => ?_) fun more text rest => ?_
  · simp [Draft.unplaced, Draft.withItem, declaration_written]
  · constructor
    · intro h
      obtain ⟨declarator, hmore, hnew, hspells⟩ := h
      refine ⟨.varying declarator, rfl,
        (Draft.admits_iff_of_declarator rfl).2 ⟨?_, hnew⟩, hmore, rest, hspells, rfl⟩
      simp [Item.slot?]
    · intro h
      obtain ⟨item, hkind, hadmits, hmore, body, hspells, hbody⟩ := h
      cases item <;> cases hkind
      cases hbody
      exact ⟨_, hmore, ((Draft.admits_iff_of_declarator rfl).1 hadmits).2, hspells⟩

/-- An output is read that the draft admits. -/
theorem outputSlot_reads (draft : Draft) :
    Reads (outputSlot draft) Draft.unplaced (ItemPhrase draft .output) := by
  refine .congr (slotted_reads .output _ fun slot => conditional_reads draft.names
    (f := fun declared condition =>
      ({ draft with outputs := draft.outputs ++ [⟨slot, declared, condition⟩] } : Draft))
    (g := fun declarator condition =>
      draft.unplaced.withItem (.output slot declarator condition))
    fun declared condition => ?_) fun more text rest => ?_
  · simp [Draft.unplaced, Draft.withItem, declaration_written, SlotDecl.unplaced, referenceTo,
      PropertyRef.unplaced, Function.comp_def]
  · constructor
    · intro h
      obtain ⟨slot, hfree, mid, hslot, declarator, condition, hmore, hnew, hspells⟩ := h
      refine ⟨.output slot declarator condition, rfl,
        (Draft.admits_iff_of_declarator rfl).2 ⟨?_, hnew⟩, hmore, rest,
        spells_cons_iff.2 ⟨mid, hslot, hspells⟩, rfl⟩
      intro kind taken htaken
      cases kind <;> cases htaken
      exact hfree
    · intro h
      obtain ⟨item, hkind, hadmits, hmore, body, hspells, hbody⟩ := h
      cases item <;> cases hkind
      cases hbody
      obtain ⟨mid, hslot, hspells⟩ := spells_cons_iff.1 hspells
      obtain ⟨hfree, hnew⟩ := (Draft.admits_iff_of_declarator rfl).1 hadmits
      exact ⟨_, hfree .output _ rfl, mid, hslot, _, _, hmore, hnew, hspells⟩

/-- A block is read that the draft admits. -/
theorem block_reads (draft : Draft) (kind : BlockKind) (location : Position) :
    Reads (block draft kind location) Draft.unplaced (ItemPhrase draft (.block kind)) := by
  refine .congr (.bind (exactly_reads _) (fun _ more text rest =>
    draft.block kind = none ∧ ∃ parts, draft.unplaced.withItem (.block kind parts) = more ∧
      ClosedBody parts text rest) fun opened => ?_) ?_
  · refine .congr (.bind (readBody_reads opened.location) (fun found more text rest =>
      draft.block kind = none ∧ draft.unplaced.withBlock found kind = more ∧ text = rest)
      fun found => ?_) ?_
    · split
      · rename_i hsome
        refine .fail fun _ _ _ hphrase => ?_
        rw [hphrase.1] at hsome
        cases hsome
      · rename_i hnone
        refine .pure fun more text rest => ?_
        rw [Draft.unplaced_withBlock]
        exact and_iff_right_of_imp fun _ => by simpa using hnone
    · intro more text rest
      constructor
      · intro h
        obtain ⟨_, mid, ⟨parts, rfl, hparts⟩, hnone, hmore, rfl⟩ := h
        exact ⟨hnone, parts, hmore, hparts⟩
      · intro h
        obtain ⟨hnone, parts, hmore, hparts⟩ := h
        exact ⟨_, rest, ⟨parts, rfl, hparts⟩, hnone, hmore, rfl⟩
  · intro more text rest
    constructor
    · intro h
      obtain ⟨_, mid, hbrace, hnone, parts, hmore, hparts⟩ := h
      refine ⟨.block kind parts, rfl, ⟨?_, ?_, ?_, ?_⟩, hmore, mid, hbrace, hparts⟩
      · simp [Item.slot?]
      · simp [Item.declarator?]
      · simp [Item.name?, Item.property?, Item.declarator?]
      · intro other hother
        obtain rfl : kind = other := by simpa [Item.body?] using hother
        exact hnone
    · intro h
      obtain ⟨item, hkind, hadmits, hmore, mid, hbrace, hparts⟩ := h
      cases item <;> cases hkind
      exact ⟨(), mid, hbrace, hadmits.block_new kind (by simp [Item.body?]), _, hmore, hparts⟩

/-- What follows a directive is read. -/
theorem directive_reads (draft : Draft) (location : Position) : (kind : Directive) →
    Reads (directive draft location kind) Draft.unplaced (ItemPhrase draft kind)
  | .property => property_reads draft
  | .uniform => uniformSlot_reads draft
  | .attribute => attributeSlot_reads draft
  | .varying => varying_reads draft
  | .output => outputSlot_reads draft
  | .block kind => block_reads draft kind location

end Parser

/-! ## Single items and all items -/

/-- No item is read exactly where only blanks and comments are left. -/
theorem readItem_eq_none_iff {draft : Draft} {c : Cursor} :
    (∃ d, readItem draft c = .ok (none, d)) ↔ Skips c.rest [] := by
  rw [← nextToken_eq_none_iff]
  refine exists_congr fun d => ?_
  unfold readItem
  constructor
  · intro h
    split at h
    · cases h
    · rename_i hnext
      simp_all
    · split at h
      · split at h
        · cases h
        · split at h <;> simp at h
      · cases h
  · intro h
    simp [h]

/-- What is read as an item is an item that the draft admits. -/
theorem item_of_readItem {draft more : Draft} {c d : Cursor}
    (h : readItem draft c = .ok (some more, d)) :
    ∃ item : Item, item.Stands c.rest d.rest ∧ draft.Admits item ∧
      more.unplaced = draft.unplaced.withItem item := by
  unfold readItem at h
  split at h
  · cases h
  · cases h
  · rename_i found mid hnext
    have hspells := spells_of_nextToken hnext
    split at h
    · rename_i word hword
      split at h
      · cases h
      · rename_i kind hkind
        split at h
        · cases h
        · rename_i result after hrun
          obtain ⟨rfl, rfl⟩ := by simpa using h
          obtain ⟨item, rfl, hadmits, hmore, hfollows⟩ :=
            (Parser.directive_reads draft found.location kind).sound hrun
          rw [hword, Directive.ofKeyword?_eq_some_iff.1 hkind] at hspells
          exact ⟨item, ⟨mid.rest, hspells, hfollows⟩, hadmits, hmore.symm⟩
    · cases h

/-- An item that the draft admits is read. -/
theorem readItem_of_item {draft : Draft} {item : Item} {c : Cursor} {rest : List Char}
    (hitem : item.Stands c.rest rest) (hadmits : draft.Admits item) :
    ∃ more d, readItem draft c = .ok (some more, d) ∧
      more.unplaced = draft.unplaced.withItem item ∧ d.rest = rest := by
  obtain ⟨after, hspells, hfollows⟩ := hitem
  obtain ⟨location, mid, hnext, rfl⟩ := nextToken_of_spells hspells
  obtain ⟨more, d, hrun, hmore, hrest⟩ :=
    (Parser.directive_reads draft location item.directive).complete
      ⟨item, rfl, hadmits, rfl, hfollows⟩
  refine ⟨more, d, ?_, hmore, hrest⟩
  have hkind := Directive.ofKeyword?_eq_some_iff.2 (Eq.refl (keyword item.directive))
  simp only [readItem, hnext, hkind, hrun]

/-- The items that are read after consistent items are items of a source that stay consistent, and
they are described by the draft at the end. -/
theorem readItems_sound {before : List Item} {draft final : Draft} {c : Cursor}
    (h : readItems draft c = .ok final) (hdraft : draft.unplaced = described before)
    (hbefore : Consistent before) :
    ∃ items, Source items c.rest ∧ Consistent (before ++ items) ∧
      final.unplaced = described (before ++ items) := by
  fun_induction readItems draft c generalizing before with
  | case1 => cases h
  | case2 draft c d hitem =>
    obtain rfl := Except.ok.inj h
    refine ⟨[], .nil (readItem_eq_none_iff.1 ⟨d, hitem⟩), ?_, ?_⟩
    · rwa [List.append_nil]
    · rwa [List.append_nil]
  | case3 draft c more d hitem ih =>
    obtain ⟨item, hstands, hadmits, hmore⟩ := item_of_readItem hitem
    rw [← Draft.admits_unplaced_iff, hdraft] at hadmits
    have hconcat := described_concat hadmits.block_new
    obtain ⟨items, hsource, hconsistent, hfinal⟩ := ih h (hmore.trans (hdraft ▸ hconcat.symm))
      (consistent_concat_iff.2 ⟨hbefore, hadmits⟩)
    rw [← List.append_cons] at hconsistent hfinal
    exact ⟨item :: items, .cons hstands hsource, hconsistent, hfinal⟩

/-- The items of a source are read if they stay consistent with the items before. -/
theorem readItems_complete {items before : List Item} {draft : Draft} {c : Cursor}
    (hsource : Source items c.rest) (hdraft : draft.unplaced = described before)
    (hconsistent : Consistent (before ++ items)) :
    ∃ final, readItems draft c = .ok final ∧ final.unplaced = described (before ++ items) := by
  induction items generalizing before draft c with
  | nil =>
    cases hsource with
    | nil hskips =>
      obtain ⟨d, hitem⟩ := (@readItem_eq_none_iff draft c).2 hskips
      refine ⟨draft, ?_, by rwa [List.append_nil]⟩
      rw [readItems]
      split <;> simp_all
  | cons item items ih =>
    cases hsource with
    | cons hstands hmore =>
      rw [List.append_cons] at hconsistent
      have hadmits := (consistent_concat_iff.1 hconsistent.left).2
      have hconcat := described_concat hadmits.block_new
      rw [← hdraft, Draft.admits_unplaced_iff] at hadmits
      obtain ⟨more, d, hitem, hnext, rfl⟩ := readItem_of_item hstands hadmits
      obtain ⟨final, hread, hfinal⟩ := ih hmore (hnext.trans (hdraft ▸ hconcat.symm)) hconsistent
      refine ⟨final, ?_, by rw [List.append_cons]; exact hfinal⟩
      rw [readItems]
      split <;> simp_all

end ShaderPipeline.Language
