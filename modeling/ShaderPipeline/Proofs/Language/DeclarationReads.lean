import ShaderPipeline.Proofs.Language.Reads

/-!
# Reading declarations

The parsers of types, array lengths, declarators and conditions read the phrases that the grammar
gives them. A declarator is read with the token after it, which the caller looks at: it may be any
token, but after a declarator without a length not an opening bracket.
-/

namespace ShaderPipeline.Language

open Grammar

/-! ## Keywords -/

/-- A word stands for a type if it is the keyword of the type. -/
theorem GlslType.ofKeyword?_eq_some_iff {word : String} {type : GlslType} :
    ofKeyword? word = some type ↔ word = type.keyword := by
  constructor
  · intro h
    have hkeyword := List.find?_some h
    exact (eq_of_beq hkeyword).symm
  · intro heq
    subst heq
    exact ofKeyword?_keyword type

/-- A word stands for a precision if it is the keyword of the precision. -/
theorem Precision.ofKeyword?_eq_some_iff {word : String} {precision : Precision} :
    ofKeyword? word = some precision ↔ word = precision.keyword := by
  constructor
  · intro h
    unfold ofKeyword? at h
    split at h <;> cases h <;> rfl
  · intro heq
    subst heq
    exact ofKeyword?_keyword precision

/-- No keyword of a type stands for a precision. -/
theorem Precision.ofKeyword?_type (type : GlslType) : ofKeyword? type.keyword = none := by
  cases type <;> rfl

/-- A word stands for a property type if it is the keyword of the type. -/
theorem propertyType_eq_some_iff {word : String} {type : PropertyType} :
    PropertyType.ofKeyword? word = some type ↔ word = type.keyword := by
  constructor
  · intro h
    unfold PropertyType.ofKeyword? at h
    split at h <;> cases h <;> rfl
  · intro heq
    subst heq
    exact PropertyType.ofKeyword?_keyword type

/-! ## What results say without their places -/

/-- An array length as it is written. -/
def ArrayLength.written : ArrayLength → Length
  | .fixed length => .literal length
  | .property reference => .property reference.name

/-- A declaration as it is written. -/
def Declaration.written (declared : Declaration) : Declarator :=
  ⟨declared.precision, declared.type, declared.name, declared.array.map (·.written)⟩

namespace Parser

/-- A type is read from its keyword, which has been read before. -/
theorem typeNamed_reads (word : String × Position) :
    Reads (typeNamed word) id fun type text rest => word.1 = type.keyword ∧ text = rest := by
  unfold typeNamed
  split
  · rename_i type hword
    refine .pure fun other _ _ => and_congr_left fun _ => ?_
    rw [← GlslType.ofKeyword?_eq_some_iff, hword, Option.some.injEq]
    rfl
  · rename_i hword
    refine .fail fun type _ _ hphrase => ?_
    rw [GlslType.ofKeyword?_eq_some_iff.2 hphrase.1] at hword
    cases hword

/-- An optional precision and a type are read. -/
theorem precisionAndType_reads :
    Reads precisionAndType id fun b text rest =>
      Spells (precisionTokens b.1 ++ [.identifier b.2.keyword]) text rest := by
  refine .congr (.bind (identifier_reads _)
    (fun word b text rest =>
      (∃ type, (none, type) = b ∧ word = GlslType.keyword type ∧ text = rest) ∨
        ∃ precision type, (some precision, type) = b ∧ word = Precision.keyword precision ∧
          Spells [.identifier (GlslType.keyword type)] text rest) fun first => ?_) ?_
  · split
    · rename_i hnone
      refine .congr (.map (typeNamed_reads first) fun _ => rfl) fun b text rest => ?_
      refine (or_iff_left ?_).symm
      intro h
      obtain ⟨precision, type, -, hfirst, -⟩ := h
      rw [Precision.ofKeyword?_eq_some_iff.2 hfirst] at hnone
      cases hnone
    · rename_i precision hsome
      refine .congr (.bind (identifier_reads _)
        (fun word b text rest =>
          ∃ type, (some precision, type) = b ∧ word = GlslType.keyword type ∧ text = rest)
        fun second => .map (typeNamed_reads second) fun _ => rfl) fun b text rest => ?_
      constructor
      · intro h
        obtain ⟨_, _, hspells, type, rfl, rfl, rfl⟩ := h
        exact .inr ⟨precision, type, rfl, Precision.ofKeyword?_eq_some_iff.1 hsome, hspells⟩
      · intro h
        rcases h with ⟨type, -, hfirst, -⟩ | ⟨other, type, rfl, hfirst, hspells⟩
        · rw [hfirst, Precision.ofKeyword?_type] at hsome
          cases hsome
        · rw [Precision.ofKeyword?_eq_some_iff.2 hfirst, Option.some.injEq] at hsome
          obtain rfl := hsome
          exact ⟨_, _, hspells, type, rfl, rfl, rfl⟩
  · intro b text rest
    obtain ⟨precision, type⟩ := b
    constructor
    · intro h
      obtain ⟨_, mid, hword, ⟨_, heq, rfl, rfl⟩ | ⟨_, _, heq, rfl, htype⟩⟩ := h
      · obtain ⟨rfl, rfl⟩ := Prod.mk.inj heq
        exact hword
      · obtain ⟨rfl, rfl⟩ := Prod.mk.inj heq
        exact spells_cons_iff.2 ⟨mid, hword, htype⟩
    · intro hspells
      cases precision with
      | none => exact ⟨_, rest, hspells, .inl ⟨type, rfl, rfl, rfl⟩⟩
      | some precision =>
        obtain ⟨mid, hword, htype⟩ := spells_cons_iff.1 hspells
        exact ⟨_, mid, hword, .inr ⟨precision, type, rfl, rfl, htype⟩⟩

/-- An array length is read whose first token has been read before. -/
theorem lengthFrom_reads (found : PlacedToken) :
    Reads (lengthFrom found) ArrayLength.written fun length text rest =>
      length ≠ .literal 0 ∧
        ∃ tokens, length.tokens = found.token :: tokens ∧ Spells tokens text rest := by
  unfold lengthFrom
  split
  · rename_i value hfound
    split
    · rename_i hzero
      refine .fail fun length _ _ => ?_
      intro h
      obtain ⟨hpos, tokens, htokens, -⟩ := h
      cases length <;> simp_all [Length.tokens]
    · rename_i hpos
      refine .pure fun length text rest => ?_
      cases length with
      | literal n =>
        constructor
        · intro h
          obtain ⟨-, tokens, htokens, hspells⟩ := h
          obtain ⟨hn, rfl⟩ : n = value ∧ tokens = [] := by
            simpa [Length.tokens, hfound] using htokens
          exact ⟨by simp [ArrayLength.written, hn], spells_nil_iff.1 hspells⟩
        · intro h
          obtain ⟨hlength, rfl⟩ := h
          obtain rfl : value = n := by simpa [ArrayLength.written] using hlength
          exact ⟨by simpa using hpos, [], by simp [Length.tokens, hfound], .nil⟩
      | property name => simp [Length.tokens, hfound, ArrayLength.written]
  · rename_i hfound
    refine .congr (.map (identifier_reads _) (g := Length.property) fun _ => rfl) ?_
    intro length text rest
    constructor
    · intro h
      obtain ⟨name, rfl, hspells⟩ := h
      exact ⟨by simp, _, by simp [Length.tokens, hfound], hspells⟩
    · intro h
      obtain ⟨-, tokens, htokens, hspells⟩ := h
      cases length with
      | literal n => simp [Length.tokens, hfound] at htokens
      | property name =>
        obtain rfl : [.identifier name] = tokens := by simpa [Length.tokens, hfound] using htokens
        exact ⟨name, rfl, hspells⟩
  · rename_i hinteger hdollar
    refine .fail fun length _ _ => ?_
    intro h
    obtain ⟨-, tokens, htokens, -⟩ := h
    cases length with
    | literal n => exact hinteger n (by simpa [Length.tokens] using (List.cons.inj htokens).1.symm)
    | property name => exact hdollar (by simpa [Length.tokens] using (List.cons.inj htokens).1.symm)

/-- An array length and the bracket after it are read. -/
theorem arrayLength_reads :
    Reads arrayLength ArrayLength.written fun length text rest =>
      length ≠ .literal 0 ∧ Spells (length.tokens ++ [.rightBracket]) text rest := by
  refine .congr (.bind (token_reads _) (fun found length text rest =>
    length ≠ .literal 0 ∧
      ∃ tokens, length.tokens ++ [.rightBracket] = found :: tokens ∧ Spells tokens text rest)
    fun found => ?_) ?_
  · refine .congr (.bind (lengthFrom_reads found) (fun length b text rest =>
      length = b ∧ Spells [.rightBracket] text rest) fun length => ?_) ?_
    · exact .congr (.map (exactly_reads _) (g := fun _ => length.written) fun _ => rfl) (by simp)
    · intro length text rest
      constructor
      · intro h
        obtain ⟨_, mid, ⟨hpos, tokens, htokens, hspells⟩, rfl, hbracket⟩ := h
        refine ⟨hpos, tokens ++ [.rightBracket], by rw [htokens, List.cons_append], ?_⟩
        exact spells_append_iff.2 ⟨mid, hspells, hbracket⟩
      · intro h
        obtain ⟨hpos, tokens, htokens, hspells⟩ := h
        obtain ⟨first, more, hlength⟩ : ∃ first more, length.tokens = first :: more := by
          cases length <;> exact ⟨_, _, rfl⟩
        rw [hlength, List.cons_append] at htokens
        obtain ⟨rfl, rfl⟩ := List.cons.inj htokens
        obtain ⟨mid, hmore, hbracket⟩ := spells_append_iff.1 hspells
        exact ⟨length, mid, ⟨hpos, more, hlength, hmore⟩, rfl, hbracket⟩
  · intro length text rest
    rw [spells_iff_exists_first (by simp)]
    grind

/-- An optional length and the token after it are read, of which the first has been read before. -/
theorem withLength_reads (declared : Declaration) (found : PlacedToken)
    (harray : declared.array = none) :
    Reads (withLength declared found) (fun result => (result.1.written, result.2.token))
      fun b text rest =>
        ∃ length, b.1 = { declared.written with length := length } ∧
          (length ≠ some (.literal 0) ∧ (length = none → b.2 ≠ .leftBracket)) ∧
            ∃ tokens, lengthTokens length ++ [b.2] = found.token :: tokens ∧
              Spells tokens text rest := by
  have hwritten : declared.written = { declared.written with length := none } := by
    simp [Declaration.written, harray]
  unfold withLength
  split
  · rename_i hfound
    refine .congr (.bind arrayLength_reads (fun length b text rest =>
      b.1 = { declared.written with length := some length } ∧ Spells [b.2] text rest)
      fun length => ?_) ?_
    · refine .congr (.map (token_reads _)
        (g := fun after => ({ declared.written with length := some length.written }, after))
        fun _ => rfl) ?_
      intro b text rest
      constructor
      · intro h
        obtain ⟨after, rfl, hspells⟩ := h
        exact ⟨rfl, hspells⟩
      · intro h
        exact ⟨b.2, Prod.ext h.1.symm rfl, h.2⟩
    · intro b text rest
      constructor
      · intro h
        obtain ⟨length, mid, ⟨hpos, hspells⟩, hb, hnext⟩ := h
        refine ⟨some length, hb, ⟨by simpa using hpos, by simp⟩, ?_⟩
        refine ⟨length.tokens ++ [.rightBracket] ++ [b.2], by simp [lengthTokens, hfound], ?_⟩
        exact spells_append_iff.2 ⟨mid, hspells, hnext⟩
      · intro h
        obtain ⟨length, hb, ⟨hpos, hnone⟩, tokens, htokens, hspells⟩ := h
        cases length with
        | none => exact absurd ((List.cons.inj htokens).1.trans hfound) (hnone rfl)
        | some length =>
          obtain ⟨-, rfl⟩ := List.cons.inj htokens
          obtain ⟨mid, hlength, hnext⟩ := spells_append_iff.1 hspells
          exact ⟨length, mid, ⟨by simpa using hpos, hlength⟩, hb, hnext⟩
  · rename_i hfound
    refine .pure ?_
    intro b text rest
    constructor
    · intro h
      obtain ⟨length, hb, -, tokens, htokens, hspells⟩ := h
      cases length with
      | none =>
        obtain ⟨hnext, rfl⟩ := List.cons.inj htokens
        exact ⟨Prod.ext (hwritten.trans hb.symm) hnext.symm, spells_nil_iff.1 hspells⟩
      | some length => exact absurd (List.cons.inj htokens).1.symm hfound
    · intro h
      obtain ⟨rfl, rfl⟩ := h
      exact ⟨none, hwritten, ⟨by simp, fun _ => hfound⟩, [], rfl, .nil⟩

/-- A declarator and the token after it are read. -/
theorem declaration_reads (known : List String) :
    Reads (declaration known) (fun result => (result.1.written, result.2.token))
      fun b text rest =>
        (b.1.name ∉ known ∧ b.1.length ≠ some (.literal 0)) ∧
          (b.1.length = none → b.2 ≠ .leftBracket) ∧ Spells (b.1.tokens ++ [b.2]) text rest := by
  refine .congr (.bind precisionAndType_reads (fun head b text rest =>
    ∃ name length, b.1 = ⟨head.1, head.2, name, length⟩ ∧ name ∉ known ∧
      (length ≠ some (.literal 0) ∧ (length = none → b.2 ≠ .leftBracket)) ∧
        Spells (.identifier name :: (lengthTokens length ++ [b.2])) text rest) fun head => ?_) ?_
  · refine .congr (.bind (newName_reads _ known) (fun name b text rest =>
      ∃ length, b.1 = ⟨head.1, head.2, name, length⟩ ∧
        (length ≠ some (.literal 0) ∧ (length = none → b.2 ≠ .leftBracket)) ∧
          Spells (lengthTokens length ++ [b.2]) text rest) fun name => ?_) ?_
    · refine .congr (.bind (token_reads _) (fun found b text rest =>
        ∃ length, b.1 = ⟨head.1, head.2, name.1, length⟩ ∧
          (length ≠ some (.literal 0) ∧ (length = none → b.2 ≠ .leftBracket)) ∧
            ∃ tokens, lengthTokens length ++ [b.2] = found :: tokens ∧ Spells tokens text rest)
        fun found => withLength_reads ⟨name.1, head.2, head.1, none, name.2⟩ found rfl) ?_
      intro b text rest
      constructor
      · intro h
        obtain ⟨found, mid, hfound, length, hb, hlength, more, hmore, hspells⟩ := h
        exact ⟨length, hb, hlength, (spells_iff_exists_first (by simp)).2
          ⟨found, mid, hfound, more, hmore, hspells⟩⟩
      · intro h
        obtain ⟨length, hb, hlength, hspells⟩ := h
        obtain ⟨found, mid, hfound, more, hmore, hspells⟩ :=
          (spells_iff_exists_first (by simp)).1 hspells
        exact ⟨found, mid, hfound, length, hb, hlength, more, hmore, hspells⟩
    · intro b text rest
      constructor
      · intro h
        obtain ⟨name, mid, ⟨hname, hspells⟩, length, hb, hlength, hrest⟩ := h
        exact ⟨name, length, hb, hname, hlength, spells_cons_iff.2 ⟨mid, hspells, hrest⟩⟩
      · intro h
        obtain ⟨name, length, hb, hname, hlength, hspells⟩ := h
        obtain ⟨mid, hspells, hrest⟩ := spells_cons_iff.1 hspells
        exact ⟨name, mid, ⟨hname, hspells⟩, length, hb, hlength, hrest⟩
  · intro b text rest
    have htokens (head : Option Precision × GlslType) (name : String) (length : Option Length) :
        (⟨head.1, head.2, name, length⟩ : Declarator).tokens ++ [b.2] =
          precisionTokens head.1 ++ [.identifier head.2.keyword] ++
            .identifier name :: (lengthTokens length ++ [b.2]) := by
      simp [Declarator.tokens]
    constructor
    · intro h
      obtain ⟨head, mid, hhead, name, length, hb, hname, hlength, hspells⟩ := h
      rw [hb]
      refine ⟨⟨hname, hlength.1⟩, hlength.2, ?_⟩
      rw [htokens]
      exact spells_append_iff.2 ⟨mid, hhead, hspells⟩
    · intro h
      obtain ⟨declarator, after⟩ := b
      obtain ⟨⟨hname, hpos⟩, hnone, hspells⟩ := h
      rw [htokens (declarator.precision, declarator.type)] at hspells
      obtain ⟨mid, hhead, hspells⟩ := spells_append_iff.1 hspells
      exact ⟨(declarator.precision, declarator.type), mid, hhead, declarator.name,
        declarator.length, rfl, hname, ⟨hpos, hnone⟩, hspells⟩

/-- A declaration ends with a semicolon, which has been read before. -/
theorem endOfDeclaration_reads (found : PlacedToken) :
    Reads (endOfDeclaration found) id fun _ text rest =>
      found.token = .semicolon ∧ text = rest := by
  unfold endOfDeclaration
  split
  · rename_i hfound
    exact .pure fun _ _ _ => by simp [hfound]
  · rename_i hfound
    exact .fail fun _ _ _ hphrase => hfound hphrase.1

/-- An optional condition and the end of the declaration are read, of which the first token has
been read before. -/
theorem condition_reads (found : PlacedToken) :
    Reads (condition found) (Option.map (·.name)) fun name text rest =>
      ∃ tokens, conditionTokens name ++ [.semicolon] = found.token :: tokens ∧
        Spells tokens text rest := by
  unfold condition
  split
  · rename_i hfound
    refine .congr (.bind (identifier_reads _) (fun word name text rest =>
      some word = name ∧ Spells [.semicolon] text rest) fun word => ?_) ?_
    · exact .congr (.map (exactly_reads _) (g := fun _ => some word.1) fun _ => rfl) (by simp)
    · intro name text rest
      constructor
      · intro h
        obtain ⟨word, mid, hword, rfl, hspells⟩ := h
        refine ⟨[.identifier word, .semicolon], by simp [conditionTokens, hfound], ?_⟩
        exact spells_cons_iff.2 ⟨mid, hword, hspells⟩
      · intro h
        obtain ⟨tokens, htokens, hspells⟩ := h
        cases name with
        | none => simp [conditionTokens, hfound] at htokens
        | some word =>
          obtain ⟨-, rfl⟩ := List.cons.inj htokens
          obtain ⟨mid, hword, hspells⟩ := spells_cons_iff.1 hspells
          exact ⟨word, mid, hword, rfl, hspells⟩
  · rename_i hfound
    refine .congr (.map (endOfDeclaration_reads found) (g := fun _ => none) fun _ => rfl) ?_
    intro name text rest
    constructor
    · intro h
      obtain ⟨_, rfl, hsemicolon, rfl⟩ := h
      exact ⟨[], by simp [conditionTokens, hsemicolon], .nil⟩
    · intro h
      obtain ⟨tokens, htokens, hspells⟩ := h
      cases name with
      | none =>
        obtain ⟨hsemicolon, rfl⟩ := List.cons.inj htokens
        exact ⟨(), rfl, hsemicolon.symm, spells_nil_iff.1 hspells⟩
      | some word => exact absurd (List.cons.inj htokens).1.symm hfound

end Parser

end ShaderPipeline.Language
