import ShaderPipeline.Proofs.Gpu.Cleanup

/-!
# Slots in the calls of an assembly

An assembly takes its slot numbers from two tables with holes. `SlotsArrive` says what becomes of
them: the numbers under which attributes are bound, the names that are asked for and the place of
each answer in the result are those of the tables, and a hole leaves neither a call nor a shift.
Both tables are functions of the slot here, so it does not matter how they were filled.

What a program does with its locations is not covered, nor what a device answers.
-/

namespace ShaderPipeline.Gpu

open Assembly

variable {S P T : Type}

/-! ## What is expected -/

/-- The program, slot and name of a call that binds an attribute. -/
def Call.binding? : Call S P T → Option (P × Nat × String)
  | .bindAttribute program slot name => some (program, slot, name)
  | _ => none

/-- The program and name of a call that asks for a uniform, with the answer. -/
def Exchange.query? : Exchange (graphics S P T) → Option (P × String × Option Int)
  | ⟨.uniformLocation program name, answer⟩ => some (program, name, answer)
  | _ => none

/-- The names at the slots of two tables arrive at the device and in the locations of a program. -/
structure SlotsArrive (uniformName attributeName : Nat → Option String) (count : Nat)
    (program : LinkedProgram P) (exchanges : List (Exchange (graphics S P T))) : Prop where
  /-- There is a location for every slot of the table. -/
  locations_length : program.locations.length = count
  /-- The names in the table are asked for, in slot order, and the answer of a slot is its location;
  a slot without a name or without an answer is at -1. -/
  asked : ∃ answer : Nat → Option Int,
    exchanges.filterMap Exchange.query? =
        (List.range count).filterMap (fun slot =>
          (uniformName slot).map fun name => (program.handle, name, answer slot)) ∧
      ∀ slot < count,
        program.locations[slot]? = some (((uniformName slot).bind fun _ => answer slot).getD (-1))
  /-- The attributes are bound to their slots, in slot order. -/
  bound : exchanges.filterMap (·.call.binding?) =
    (List.range 8).filterMap fun slot =>
      (attributeName slot).map fun name => (program.handle, slot, name)
  /-- Attributes are bound before the only link, and uniforms are asked for after it. -/
  ordered : ∃ before after, exchanges = before ++ ⟨.linkProgram program.handle, ()⟩ :: after ∧
    (∀ exchange ∈ before, exchange.call.isLink = false ∧ exchange.call.isQuery = false) ∧
    ∀ exchange ∈ after, exchange.call.isLink = false ∧ exchange.call.isBinding = false

/-- The names that are asked for are those of the table, once for each slot. -/
theorem SlotsArrive.names_asked {uniformName attributeName : Nat → Option String} {count : Nat}
    {program : LinkedProgram P} {exchanges : List (Exchange (graphics S P T))}
    (h : SlotsArrive uniformName attributeName count program exchanges) :
    (exchanges.filterMap Exchange.query?).map (fun query => query.2.1) =
      (List.range count).filterMap uniformName := by
  obtain ⟨answer, hasked, -⟩ := h.asked
  rw [hasked, List.map_filterMap]
  congr 1
  funext slot
  cases uniformName slot <;> rfl

/-! ## Tables as functions of the slot -/

/-- The named slots of a table are those at which the table has a name. -/
theorem namedFrom_map_range' (f : Nat → Option String) (first count : Nat) :
    ProgramSource.namedFrom first ((List.range' first count).map f) =
      (List.range' first count).filterMap fun slot => (f slot).map fun name => (slot, name) := by
  induction count generalizing first with
  | zero => rfl
  | succ count ih =>
    rw [List.range'_succ, List.map_cons]
    cases hname : f first with
    | none =>
      rw [ProgramSource.namedFrom, ih, List.filterMap_cons_none (by rw [hname]; rfl)]
    | some name =>
      rw [ProgramSource.namedFrom, ih, List.filterMap_cons_some (by rw [hname]; rfl)]

/-- The named attributes of a table that is given by a function. -/
theorem namedAttributes_eq {source : ProgramSource} {name? : Nat → Option String} {count : Nat}
    (h : source.attributes = (List.range count).map name?) :
    source.namedAttributes =
      (List.range count).filterMap fun slot => (name? slot).map fun name => (slot, name) := by
  rw [ProgramSource.namedAttributes, h, List.range_eq_range']
  exact namedFrom_map_range' name? 0 count

/-- Answers to a table that is given by a function are given by a function. -/
theorem exists_answer {answers : List (Option (String × Option Int))} {name? : Nat → Option String}
    {count : Nat} (h : answers.map (Option.map Prod.fst) = (List.range count).map name?) :
    ∃ answer : Nat → Option Int, answers =
      (List.range count).map fun slot => (name? slot).map fun name => (name, answer slot) := by
  have hlength : answers.length = count := by
    have := congrArg List.length h
    rwa [List.length_map, List.length_map, List.length_range] at this
  refine ⟨fun slot => answers[slot]?.join.bind Prod.snd, ?_⟩
  apply List.ext_getElem
  · rw [List.length_map, List.length_range, hlength]
  · intro slot hslot hrange
    have hname : (answers[slot]).map Prod.fst = name? slot := by
      have hentry := congrArg (fun list => list[slot]?) h
      have hlt : slot < count := hlength ▸ hslot
      rw [List.getElem?_map, List.getElem?_map, List.getElem?_eq_getElem hslot,
        List.getElem?_range hlt] at hentry
      exact Option.some.inj hentry
    have hanswer : answers[slot]?.join = answers[slot] := by
      rw [List.getElem?_eq_getElem hslot]
      rfl
    rw [List.getElem_map, List.getElem_range, ← hname]
    simp only [hanswer]
    cases answers[slot] <;> rfl

/-! ## The calls of a program -/

section

variable {source : ProgramSource} {vertex fragment : S} {program : P}
  {vertexVerdict fragmentVerdict verdict : Verdict} {answers : List (Option (String × Option Int))}

/-- The exchanges of an assembly up to those that bind attributes. -/
def beforeBinding (source : ProgramSource) (vertex fragment : S) (program : P)
    (vertexVerdict fragmentVerdict : Verdict) : List (Exchange (graphics S P T)) :=
  creatingStages vertex fragment ++
    compilingStages source vertex fragment vertexVerdict fragmentVerdict ++
    [creatingProgram (.ok program), ⟨.attachStage program vertex, ()⟩,
      ⟨.attachStage program fragment, ()⟩]

/-- The exchanges of an assembly after those that ask for uniforms. -/
def afterAsking (vertex fragment : S) (program : P) : List (Exchange (graphics S P T)) :=
  [⟨.detachStage program vertex, ()⟩, ⟨.detachStage program fragment, ()⟩] ++
    deletingStages vertex fragment

/-- The exchanges of an assembly in the order of their concern with slots. -/
theorem assembled_eq :
    (creatingStages vertex fragment ++
        (compilingStages source vertex fragment vertexVerdict fragmentVerdict ++
          creatingProgram (.ok program) ::
            finishing source vertex fragment program verdict answers) ++
        deletingStages vertex fragment : List (Exchange (graphics S P T))) =
      beforeBinding source vertex fragment program vertexVerdict fragmentVerdict ++
        (binding program source.namedAttributes ++
          (linking program verdict ++
            (asking program answers ++ afterAsking vertex fragment program))) := by
  simp only [beforeBinding, afterAsking, finishing, List.append_assoc, List.cons_append,
    List.nil_append]

/-- The attributes that are bound when a program is assembled. -/
theorem filterMap_binding?_assembled :
    (beforeBinding source vertex fragment program vertexVerdict fragmentVerdict ++
        (binding program source.namedAttributes ++
          (linking program verdict ++
            (asking program answers ++ afterAsking vertex fragment program))) :
          List (Exchange (graphics S P T))).filterMap (·.call.binding?) =
      source.namedAttributes.map fun entry => (program, entry.1, entry.2) := by
  have hbefore : (beforeBinding source vertex fragment program vertexVerdict fragmentVerdict :
      List (Exchange (graphics S P T))).filterMap (·.call.binding?) = [] := rfl
  have hbinding : (binding program source.namedAttributes :
      List (Exchange (graphics S P T))).filterMap (·.call.binding?) =
        source.namedAttributes.map fun entry => (program, entry.1, entry.2) := by
    rw [binding, List.filterMap_map, ← List.filterMap_eq_map]
    rfl
  have hlinking : (linking program verdict : List (Exchange (graphics S P T))).filterMap
      (·.call.binding?) = [] := rfl
  have hasking : (asking program answers : List (Exchange (graphics S P T))).filterMap
      (·.call.binding?) = [] := by
    rw [asking, List.filterMap_eq_nil_iff, List.forall_mem_map]
    intro answer hanswer
    rfl
  have hafter : (afterAsking vertex fragment program : List (Exchange (graphics S P T))).filterMap
      (·.call.binding?) = [] := rfl
  rw [List.filterMap_append, List.filterMap_append, List.filterMap_append, List.filterMap_append,
    hbefore, hbinding, hlinking, hasking, hafter]
  simp only [List.nil_append, List.append_nil]

/-- The uniforms that are asked for when a program is assembled. -/
theorem filterMap_query?_assembled :
    (beforeBinding source vertex fragment program vertexVerdict fragmentVerdict ++
        (binding program source.namedAttributes ++
          (linking program verdict ++
            (asking program answers ++ afterAsking vertex fragment program))) :
          List (Exchange (graphics S P T))).filterMap Exchange.query? =
      answers.reduceOption.map fun answer => (program, answer.1, answer.2) := by
  have hbefore : (beforeBinding source vertex fragment program vertexVerdict fragmentVerdict :
      List (Exchange (graphics S P T))).filterMap Exchange.query? = [] := rfl
  have hbinding : (binding program source.namedAttributes :
      List (Exchange (graphics S P T))).filterMap Exchange.query? = [] := by
    rw [binding, List.filterMap_eq_nil_iff, List.forall_mem_map]
    intro entry hentry
    rfl
  have hlinking : (linking program verdict : List (Exchange (graphics S P T))).filterMap
      Exchange.query? = [] := rfl
  have hasking : (asking program answers : List (Exchange (graphics S P T))).filterMap
      Exchange.query? = answers.reduceOption.map fun answer => (program, answer.1, answer.2) := by
    rw [asking, List.filterMap_map, ← List.filterMap_eq_map]
    rfl
  have hafter : (afterAsking vertex fragment program : List (Exchange (graphics S P T))).filterMap
      Exchange.query? = [] := rfl
  rw [List.filterMap_append, List.filterMap_append, List.filterMap_append, List.filterMap_append,
    hbefore, hbinding, hlinking, hasking, hafter]
  simp only [List.nil_append, List.append_nil]

end

/-- When a program is made, attributes are bound before the only link and uniforms asked for after
it. -/
theorem Made.ordered {source : ProgramSource} {vertex fragment : S} {program : P}
    {exchanges : List (Exchange (graphics S P T))}
    (h : Made source vertex fragment program exchanges) :
    ∃ before after, exchanges = before ++ ⟨.linkProgram program, ()⟩ :: after ∧
      (∀ exchange ∈ before, exchange.call.isLink = false ∧ exchange.call.isQuery = false) ∧
      ∀ exchange ∈ after, exchange.call.isLink = false ∧ exchange.call.isBinding = false := by
  obtain ⟨before, between, after, hsplit, -, -, -, -, hbefore, hbetween, hafter⟩ := h.linked
  refine ⟨before, between ++ after, hsplit, ?_, ?_⟩
  · intro exchange hmem
    exact ⟨(hbefore exchange hmem).1, (hbefore exchange hmem).2.1⟩
  · intro exchange hmem
    rcases List.mem_append.1 hmem with hlocated | hended
    · exact ⟨(hbetween exchange hlocated).1, (hbetween exchange hlocated).2.1⟩
    · exact ⟨(hafter exchange hended).1, (hafter exchange hended).2.1⟩

/-- The slots of an assembly arrive if its tables are within the limits and nothing is refused. -/
theorem Assembles.slotsArrive {source : ProgramSource}
    {exchanges : List (Exchange (graphics S P T))} {events : List Event}
    {result : Except AssemblyError (LinkedProgram P)}
    (h : Assembles source exchanges events result)
    (hcreated : ∀ exchange ∈ exchanges, exchange.refusal? = none)
    {uniformName attributeName : Nat → Option String} {count : Nat} (hcount : count ≤ 32)
    (huniforms : source.uniforms = (List.range count).map uniformName)
    (hattributes : source.attributes = (List.range 8).map attributeName) :
    ∃ program, result = .ok program ∧
      SlotsArrive uniformName attributeName count program exchanges := by
  have hcapacity : source.withinCapacity = true := by
    rw [withinCapacity_iff, huniforms, hattributes, List.length_map, List.length_map,
      List.length_range, List.length_range]
    exact ⟨Nat.le_refl 8, hcount⟩
  obtain ⟨linked, hlinked⟩ := h.succeeds hcapacity hcreated
  obtain ⟨_, _, hmade⟩ := h.made hlinked
  refine ⟨linked, hlinked, ?_⟩
  cases h with
  | @assembled vertex fragment program _ _ _ answers _ hanswers =>
    cases hlinked
    rw [huniforms] at hanswers
    obtain ⟨answer, rfl⟩ := exists_answer hanswers
    refine ⟨?_, ⟨answer, ?_, ?_⟩, ?_, hmade.ordered⟩
    · rw [List.length_map, List.length_map, List.length_range]
    · rw [assembled_eq, filterMap_query?_assembled]
      change (List.filterMap id _).map _ = _
      rw [List.filterMap_map, List.map_filterMap]
      congr 1
      funext slot
      cases hname : uniformName slot <;> simp [hname]
    · intro slot hslot
      rw [List.map_map, List.getElem?_map, List.getElem?_range hslot, Option.map_some]
      cases hname : uniformName slot <;> simp [hname, answeredLocation, unresolvedLocation]
    · rw [assembled_eq, filterMap_binding?_assembled, namedAttributes_eq hattributes,
        List.map_filterMap]
      congr 1
      funext slot
      cases attributeName slot <;> rfl
  | _ => cases hlinked

end ShaderPipeline.Gpu
