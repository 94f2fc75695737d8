import ShaderPipeline.Pool
import ShaderPipeline.Program.File
import ShaderPipeline.Proofs.CachedCompilation
import ShaderPipeline.Proofs.Preparation

/-!
# Managers that share a cache

Nothing that managers give shows whether they have a cache, or which other managers share it. After
any tasks of managers with one cache, the cache holds the shaders of the requested sources that
compile (`Cache.Holds`), and every further task gives what it gives with an empty cache, which for a
unified source is the program of that source without a cache at all (`Invisible`). Both are shown
together, since what the cache holds is why it does not show (`performAll_invisible`). Managers share
a cache if each of them was made from one that was there (`Pool.Founded.eq_sharing`).

Events are left out, as they tell whether a source was found in the cache, and so is the number by
which a shader is known in its cache.
-/

namespace ShaderPipeline

open Glsl Gpu ShaderPipeline.Language

/-! ## Tasks -/

namespace Pool

/-- The managers of configurations that share one cache. -/
def sharing (configs : List Config) (cache : Cache) : Pool := ⟨configs.map (⟨·, 0⟩), [cache]⟩

/-- Managers are made one after the other: the first with a cache of its own, and every other one
with the cache of one that is there. -/
inductive Founded : List Config → Pool → Prop
  | single {config : Config} : Founded [config] (.single config)
  | share {configs : List Config} {pool : Pool} (h : Founded configs pool)
      (number : Fin configs.length) (config : Config) :
      Founded (configs ++ [config]) (pool.share number config)

/-- A manager that shares the cache of another one is one of them. -/
theorem share_sharing (configs : List Config) (cache : Cache) (number : Fin configs.length)
    (config : Config) :
    (sharing configs cache).share number config = sharing (configs ++ [config]) cache := by
  simp [sharing, share, manager]

/-- Managers that are made in this way share one cache. -/
theorem Founded.eq_sharing {configs : List Config} {pool : Pool} (h : Founded configs pool) :
    pool = sharing configs .empty := by
  induction h with
  | single => rfl
  | share _ number config ih => rw [ih, share_sharing]

end Pool

/-- What can be asked of managers, which are known by their numbers. -/
inductive Task (count : Nat) where
  | prepare (manager : Fin count) (assets : AssetSource) (name : String)
      (properties : PropertyContext)
  | create (manager : Fin count) (assets : AssetSource) (name : String)
      (properties : PropertyContext)
  | precompile (manager : Fin count) (source : String)

/-- What a task gives. -/
inductive Answer (S P T : Type) where
  | prepared (outcome : Except ProgramError ProgramSource) (reads : List String)
  | created (outcome : Except ProgramError (LinkedProgram P)) (reads : List String)
      (calls : List (Call S P T))
  | precompiled (outcome : Except CompileError Shader)

/-- What a task gives, with the managers and the device after it. -/
structure Performed (S P T σ : Type) where
  answer : Answer S P T
  pool : Pool
  device : σ

namespace Task

variable {S P T σ : Type} {count : Nat}

/-- Does a task. -/
def perform (device : Device (graphics S P T) σ) (pool : Pool) (state : σ) :
    Task count → Performed S P T σ
  | .prepare manager assets name properties =>
    let (prepared, after) := pool.prepare manager assets name properties
    ⟨.prepared prepared.outcome prepared.reads, after, state⟩
  | .create manager assets name properties =>
    let (creation, after) : Creation S P T × Pool := pool.create manager assets name properties
    let run := creation.script.run device state
    ⟨.created run.result creation.reads run.calls, after, run.state⟩
  | .precompile manager source =>
    let (served, after) := pool.precompile manager source
    ⟨.precompiled (served.outcome.map CachedShader.shader), after, state⟩

/-- Does tasks in turn. Gives the managers and the device after them. -/
def performAll (device : Device (graphics S P T) σ) (pool : Pool) (state : σ) :
    List (Task count) → Pool × σ
  | [] => (pool, state)
  | task :: tasks =>
    let performed := task.perform device pool state
    performAll device performed.pool performed.device tasks

/-- The source that a task requests of the cache: a unified one, or one to precompile. -/
def source? : Task count → Option String
  | .prepare _ assets name _ | .create _ assets name _ =>
    match (ProgramAsset.resolve assets name).outcome with
    | .ok (.unified source) => some source
    | _ => none
  | .precompile _ source => some source

end Task

/-! ## What is expected -/

/-- A cache has the shaders of those requested sources that compile, each once. -/
structure Cache.Holds (cache : Cache) (requested : List String) : Prop where
  nodup : (cache.entries.map Prod.fst).Nodup
  mem_iff : ∀ source, source ∈ cache.entries.map Prod.fst ↔
    source ∈ requested ∧ ∃ shader, compile source = .ok shader
  compile_eq : ∀ entry ∈ cache.entries, compile entry.1 = .ok entry.2.shader

/-- What the text of a program file gives without a cache, as the outcome of a manager. -/
inductive SameOutcome :
    Except ProgramFileError (Shader × ProgramSource) → Except ProgramError ProgramSource → Prop
  | program {shader : Shader} {source : ProgramSource} :
      SameOutcome (.ok (shader, source)) (.ok source)
  | uncompiled {e : CompileError} : SameOutcome (.error (.compile e)) (.error (.compile e))
  | ungenerated {e : GenerateError} : SameOutcome (.error (.generate e)) (.error (.generate e))

/-- What was performed is what is expected of a task without a cache. -/
def Task.Uncached {S P T σ : Type} {configs : List Config} (device : Device (graphics S P T) σ)
    (state : σ) (performed : Performed S P T σ) : Task configs.length → Prop
  | .prepare manager assets name properties =>
    ∀ text, (ProgramAsset.resolve assets name).outcome = .ok (.unified text) →
      ∃ outcome, SameOutcome (ProgramSource.ofFile configs[manager] properties (.ok text)) outcome ∧
        performed.answer = .prepared outcome (ProgramAsset.resolve assets name).reads
  | .create manager assets name properties =>
    ∀ text, (ProgramAsset.resolve assets name).outcome = .ok (.unified text) →
      ∃ outcome, SameOutcome (ProgramSource.ofFile configs[manager] properties (.ok text)) outcome ∧
        (∀ e, outcome = .error e →
          performed.answer = .created (.error e) (ProgramAsset.resolve assets name).reads [] ∧
            performed.device = state) ∧
        ∀ source, outcome = .ok source →
          let run := (assemble source).run device state
          performed.answer = .created (run.result.mapError .assembly)
              (ProgramAsset.resolve assets name).reads run.calls ∧
            performed.device = run.state
  | .precompile _ source => performed.answer = .precompiled (compile source)

/-- It does not show in a task what the shared cache has. -/
structure Invisible {S P T σ : Type} (configs : List Config) (cache : Cache)
    (device : Device (graphics S P T) σ) (state : σ) (task : Task configs.length) : Prop where
  /-- The answer is the one with an empty cache. -/
  answer_eq : (task.perform device (.sharing configs cache) state).answer =
    (task.perform device (.sharing configs .empty) state).answer
  /-- The device is left as with an empty cache. -/
  device_eq : (task.perform device (.sharing configs cache) state).device =
    (task.perform device (.sharing configs .empty) state).device
  /-- The answer for a unified source is the one without a cache. -/
  uncached : task.Uncached device state (task.perform device (.sharing configs cache) state)
  /-- The cache is left as it is unless a source is requested that compiles. -/
  unchanged : (∀ source, task.source? = some source → ∃ e, compile source = .error e) →
    (task.perform device (.sharing configs cache) state).pool = .sharing configs cache
  /-- The shader of a source that compiles is there afterwards, whatever the answer is. -/
  kept : ∀ source shader, task.source? = some source → compile source = .ok shader →
    ∃ after stored,
      (task.perform device (.sharing configs cache) state).pool = .sharing configs after ∧
      after.find? source = some stored ∧ stored.shader = shader

/-! ## What a cache holds -/

namespace Cache

variable {cache : Cache} {requested : List String} {source : String}

/-- A source without a stored shader has no entry. -/
theorem find?_eq_none_iff :
    cache.find? source = none ↔ source ∉ cache.entries.map Prod.fst := by
  rw [find?, List.lookup_eq_none_iff, List.mem_map, not_exists]
  constructor
  · intro h entry hentry
    have hne := h entry hentry.1
    rw [hentry.2, bne_self_eq_false] at hne
    cases hne
  · intro h entry hentry
    rw [bne_iff_ne]
    intro hsame
    exact h entry ⟨hentry, hsame.symm⟩

/-- A stored shader has an entry. -/
theorem mem_of_find? {stored : CachedShader} (h : cache.find? source = some stored) :
    (source, stored) ∈ cache.entries := by
  obtain ⟨front, back, hentries, -⟩ := List.lookup_eq_some_iff.1 h
  rw [hentries]
  exact List.mem_append_right _ List.mem_cons_self

/-- A cache holds nothing without requests. -/
theorem holds_empty : empty.Holds [] := by
  refine ⟨.nil, ?_, ?_⟩
  · intro source
    simp [empty]
  · intro entry hentry
    cases hentry

/-- The shaders that a cache holds are those that their sources compile to. -/
theorem Holds.sound (h : cache.Holds requested) : cache.Sound := by
  intro source stored hfind
  exact h.compile_eq (source, stored) (mem_of_find? hfind)

/-- After a request there is an entry for its source if that compiles, and no other new one. -/
theorem mem_request_iff {other : String} :
    other ∈ (cache.request source).cache.entries.map Prod.fst ↔
      other ∈ cache.entries.map Prod.fst ∨
        other = source ∧ ∃ shader, compile source = .ok shader := by
  rcases request_cases cache source with ⟨stored, hfind, hrequest⟩ |
    ⟨e, -, hcompile, hrequest⟩ | ⟨shader, -, hcompile, hrequest⟩
  · rw [hrequest, or_iff_left_of_imp]
    rintro ⟨rfl, -⟩
    exact List.mem_map_of_mem (mem_of_find? hfind)
  · rw [hrequest, or_iff_left_of_imp]
    rintro ⟨-, shader, hshader⟩
    rw [hcompile] at hshader
    cases hshader
  · rw [hrequest, List.map_cons, List.mem_cons, or_comm,
      and_iff_left (show ∃ shader, compile source = .ok shader from ⟨shader, hcompile⟩)]

/-- A request adds a source to those that count, and nothing but its shader to the cache. -/
theorem Holds.request (h : cache.Holds requested) (source : String) :
    (cache.request source).cache.Holds (requested ++ [source]) := by
  have hmem (other : String) : other ∈ (cache.request source).cache.entries.map Prod.fst ↔
      other ∈ requested ++ [source] ∧ ∃ shader, compile other = .ok shader := by
    rw [mem_request_iff, h.mem_iff, List.mem_append, List.mem_singleton, or_and_right]
    refine or_congr_right (and_congr_right ?_)
    rintro rfl
    rfl
  rcases request_cases cache source with ⟨stored, -, hrequest⟩ | ⟨e, -, -, hrequest⟩ |
    ⟨shader, hfind, hcompile, hrequest⟩
  · refine ⟨?_, hmem, ?_⟩
    · rw [hrequest]
      exact h.nodup
    · rw [hrequest]
      exact h.compile_eq
  · refine ⟨?_, hmem, ?_⟩
    · rw [hrequest]
      exact h.nodup
    · rw [hrequest]
      exact h.compile_eq
  · refine ⟨?_, hmem, ?_⟩
    · rw [hrequest]
      exact List.nodup_cons.2 ⟨find?_eq_none_iff.1 hfind, h.nodup⟩
    · rw [hrequest, List.forall_mem_cons]
      exact ⟨hcompile, h.compile_eq⟩

/-- The shader of a requested source that compiles is stored afterwards. -/
theorem Sound.find?_request (h : cache.Sound) {shader : Shader}
    (hcompile : compile source = .ok shader) :
    ∃ stored, (cache.request source).cache.find? source = some stored ∧ stored.shader = shader := by
  rcases request_cases cache source with ⟨stored, hfind, hrequest⟩ | ⟨e, -, herror, -⟩ |
    ⟨made, -, hmade, hrequest⟩
  · rw [hrequest]
    exact ⟨stored, hfind, Except.ok.inj ((h source stored hfind).symm.trans hcompile)⟩
  · rw [herror] at hcompile
    cases hcompile
  · rw [hrequest]
    exact ⟨_, List.lookup_cons_self, Except.ok.inj (hmade.symm.trans hcompile)⟩

/-- A request for a source that does not compile leaves the cache as it is. -/
theorem Sound.request_of_error (h : cache.Sound) {e : CompileError}
    (hcompile : compile source = .error e) : (cache.request source).cache = cache := by
  rcases request_cases cache source with ⟨stored, hfind, -⟩ | ⟨_, -, -, hrequest⟩ |
    ⟨shader, -, hshader, -⟩
  · rw [h source stored hfind] at hcompile
    cases hcompile
  · rw [hrequest]
  · rw [hshader] at hcompile
    cases hcompile

end Cache

/-! ## Outcomes without a cache -/

namespace Config

variable {cache other : Cache}

/-- The outcome of a preparation is the same for all sound caches. -/
theorem prepare_outcome_eq (config : Config) (assets : AssetSource) (name : String)
    (properties : PropertyContext) (h : cache.Sound) (hother : other.Sound) :
    (config.prepare cache assets name properties).outcome =
      (config.prepare other assets name properties).outcome := by
  rw [outcome_prepare_eq, outcome_prepare_eq]
  cases (ProgramAsset.resolve assets name).outcome with
  | error e => rfl
  | ok asset =>
    cases asset with
    | stagePair vertex fragment slots => rfl
    | unified source =>
      exact congrArg (config.sourceOf properties)
        ((h.shaderOf_eq source).trans (hother.shaderOf_eq source).symm)

/-- The text of a program file is compiled, and the stages of its shader are generated. -/
theorem ofFile_ok (config : Config) (properties : PropertyContext) (text : String) :
    ProgramSource.ofFile config properties (.ok text) =
      match compile text with
      | .error e => .error (.compile e)
      | .ok shader =>
        match config.shaderSource shader properties with
        | .error e => .error (.generate e)
        | .ok source => .ok (shader, source) := by
  change Except.bind ((compile text).mapError ProgramFileError.compile) (fun shader =>
    Except.bind ((config.shaderSource shader properties).mapError ProgramFileError.generate)
      fun source => .ok (shader, source)) = _
  cases compile text with
  | error e => rfl
  | ok shader =>
    change Except.bind
      ((config.shaderSource shader properties).mapError ProgramFileError.generate) _ =
        match config.shaderSource shader properties with
        | .error e => .error (.generate e)
        | .ok source => .ok (shader, source)
    cases config.shaderSource shader properties with
    | error e => rfl
    | ok source => rfl

/-- The program source of a unified source is the one of its text in a file. -/
theorem sameOutcome_sourceOf (config : Config) (properties : PropertyContext) (text : String) :
    SameOutcome (ProgramSource.ofFile config properties (.ok text))
      (config.sourceOf properties (compile text)) := by
  rw [ofFile_ok]
  unfold sourceOf
  cases compile text with
  | error e => exact .uncompiled
  | ok shader =>
    cases hsource : config.shaderSource shader properties with
    | error e =>
      simp only [hsource]
      exact .ungenerated
    | ok source =>
      simp only [hsource]
      exact .program

end Config

/-! ## Tasks on a shared cache -/

section

variable {S P T σ : Type} {configs : List Config} {cache : Cache}

namespace Pool

/-- A manager of those that share a cache. -/
@[simp] theorem manager_sharing (number : Fin configs.length) :
    (sharing configs cache).manager number = ⟨configs[number], 0⟩ := by
  simp [sharing, manager]

/-- The cache of a manager of those that share it. -/
@[simp] theorem cache_sharing (number : Fin configs.length) :
    (sharing configs cache).cache number = cache := by
  rw [Pool.cache, manager_sharing]
  rfl

/-- Another cache for one manager is another cache for all that share it. -/
@[simp] theorem withCache_sharing (number : Fin configs.length) (after : Cache) :
    (sharing configs cache).withCache number after = sharing configs after := by
  rw [withCache, manager_sharing]
  rfl

end Pool

namespace Task

variable {device : Device (graphics S P T) σ} {state : σ}

/-- A preparation with a shared cache. -/
theorem perform_prepare (manager : Fin configs.length) (assets : AssetSource) (name : String)
    (properties : PropertyContext) :
    perform device (.sharing configs cache) state (.prepare manager assets name properties) =
      ⟨.prepared (configs[manager].prepare cache assets name properties).outcome
          (ProgramAsset.resolve assets name).reads,
        .sharing configs (configs[manager].prepare cache assets name properties).cache, state⟩ := by
  simp only [perform, Pool.prepare, Pool.manager_sharing, Pool.cache_sharing,
    Pool.withCache_sharing, Config.reads_prepare]

/-- A creation with a shared cache. -/
theorem perform_create (manager : Fin configs.length) (assets : AssetSource) (name : String)
    (properties : PropertyContext) :
    perform device (.sharing configs cache) state (.create manager assets name properties) =
      let run := (configs[manager].create cache assets name properties).script.run device state
      ⟨.created run.result (ProgramAsset.resolve assets name).reads run.calls,
        .sharing configs (configs[manager].prepare cache assets name properties).cache,
        run.state⟩ := by
  simp only [perform, Pool.create, Pool.manager_sharing, Pool.cache_sharing, Pool.withCache_sharing,
    Config.create_eq, Config.reads_prepare]

/-- A source that is precompiled into a shared cache. -/
theorem perform_precompile (manager : Fin configs.length) (source : String) :
    perform device (.sharing configs cache) state (.precompile manager source) =
      ⟨.precompiled ((cache.request source).outcome.map CachedShader.shader),
        .sharing configs (cache.request source).cache, state⟩ := by
  simp only [perform, Pool.precompile, Pool.cache_sharing, Pool.withCache_sharing]

/-- A preparation requests the source of the task of the cache. -/
theorem cache_prepare_eq_source? (config : Config) (manager : Fin configs.length)
    (assets : AssetSource) (name : String) (properties : PropertyContext) :
    (config.prepare cache assets name properties).cache =
      (prepare manager assets name properties).source?.elim cache
        fun source => (cache.request source).cache := by
  rw [source?, Config.cache_prepare_eq]
  cases (ProgramAsset.resolve assets name).outcome with
  | error e => rfl
  | ok asset =>
    cases asset with
    | stagePair vertex fragment slots => rfl
    | unified source => rfl

/-- A task requests its source of the cache, if it has one, and changes nothing else. -/
theorem pool_perform (task : Task configs.length) :
    (task.perform device (.sharing configs cache) state).pool =
      .sharing configs (task.source?.elim cache fun source => (cache.request source).cache) := by
  cases task with
  | prepare manager assets name properties =>
    rw [perform_prepare, cache_prepare_eq_source? _ manager]
  | create manager assets name properties =>
    rw [perform_create, cache_prepare_eq_source? _ manager]
    rfl
  | precompile manager source =>
    rw [perform_precompile]
    rfl

end Task

/-- What a creation gives depends on the cache by the outcome of the preparation alone. -/
theorem Config.run_create_eq {config : Config} {cache other : Cache} {assets : AssetSource}
    {name : String} {properties : PropertyContext} (device : Device (graphics S P T) σ) (state : σ)
    (h : (config.prepare cache assets name properties).outcome =
      (config.prepare other assets name properties).outcome) :
    let run := (config.create cache assets name properties).script.run device state
    let otherRun := (config.create other assets name properties).script.run device state
    run.result = otherRun.result ∧ run.calls = otherRun.calls ∧ run.state = otherRun.state := by
  intro run otherRun
  cases hprepared : (config.prepare other assets name properties).outcome with
  | error e =>
    simp only [run, otherRun, (run_create_of_error device state (h.trans hprepared)).1,
      (run_create_of_error device state hprepared).1, and_self]
  | ok source =>
    simp only [run, otherRun, (run_create_of_ok device state (h.trans hprepared)).1,
      (run_create_of_ok device state hprepared).1, and_self]

/-- The answer to a task and the device after it are the same for all sound caches. -/
theorem Task.perform_eq {cache other : Cache} (h : cache.Sound) (hother : other.Sound)
    (device : Device (graphics S P T) σ) (state : σ) (task : Task configs.length) :
    (task.perform device (.sharing configs cache) state).answer =
        (task.perform device (.sharing configs other) state).answer ∧
      (task.perform device (.sharing configs cache) state).device =
        (task.perform device (.sharing configs other) state).device := by
  cases task with
  | prepare manager assets name properties =>
    rw [perform_prepare, perform_prepare,
      Config.prepare_outcome_eq configs[manager] assets name properties h hother]
    exact ⟨rfl, rfl⟩
  | create manager assets name properties =>
    obtain ⟨hresult, hcalls, hstate⟩ := Config.run_create_eq device state
      (Config.prepare_outcome_eq configs[manager] assets name properties h hother)
    rw [perform_create, perform_create]
    simp only [hresult, hcalls, hstate, and_self]
  | precompile manager source =>
    rw [perform_precompile, perform_precompile, h.request_outcome, hother.request_outcome]
    exact ⟨rfl, rfl⟩

/-- A task on a sound cache gives what it gives without a cache. -/
theorem Task.uncached_of_sound (h : cache.Sound) (device : Device (graphics S P T) σ) (state : σ)
    (task : Task configs.length) :
    task.Uncached device state (task.perform device (.sharing configs cache) state) := by
  cases task with
  | prepare manager assets name properties =>
    intro text hresolved
    refine ⟨_, Config.sameOutcome_sourceOf configs[manager] properties text, ?_⟩
    rw [perform_prepare, Config.outcome_prepare_eq, hresolved, Config.outcomeOf, h.shaderOf_eq]
  | create manager assets name properties =>
    intro text hresolved
    have hprepared := Config.outcome_prepare_eq configs[manager] cache properties assets name
    rw [hresolved, Config.outcomeOf, h.shaderOf_eq] at hprepared
    refine ⟨_, Config.sameOutcome_sourceOf configs[manager] properties text, ?_, ?_⟩
    · intro e he
      have hrun := (Config.run_create_of_error device state (hprepared.trans he)).1
      rw [perform_create]
      simp only [hrun, and_self]
    · intro source hsource
      have hrun := (Config.run_create_of_ok device state (hprepared.trans hsource)).1
      rw [perform_create]
      simp only [hrun, and_self]
  | precompile manager source =>
    rw [perform_precompile, h.request_outcome]
    rfl

/-- It does not show in a task what a sound cache has. -/
theorem invisible_of_sound (h : cache.Sound) (device : Device (graphics S P T) σ) (state : σ)
    (task : Task configs.length) : Invisible configs cache device state task where
  answer_eq := (Task.perform_eq h Cache.sound_empty device state task).1
  device_eq := (Task.perform_eq h Cache.sound_empty device state task).2
  uncached := Task.uncached_of_sound h device state task
  unchanged := by
    intro hrefused
    rw [Task.pool_perform]
    cases hsource : task.source? with
    | none => rfl
    | some source =>
      obtain ⟨e, he⟩ := hrefused source hsource
      exact congrArg (Pool.sharing configs) (h.request_of_error he)
  kept := by
    intro source shader hsource hcompile
    obtain ⟨stored, hfind, hstored⟩ := h.find?_request hcompile
    refine ⟨_, stored, ?_, hfind, hstored⟩
    rw [Task.pool_perform, hsource]
    rfl

/-- Tasks leave a cache that holds the requested sources that compile. -/
theorem holds_performAll {requested : List String} (h : cache.Holds requested)
    (device : Device (graphics S P T) σ) (state : σ) (tasks : List (Task configs.length)) :
    ∃ after,
      (Task.performAll device (.sharing configs cache) state tasks).1 = .sharing configs after ∧
      after.Holds (requested ++ tasks.filterMap Task.source?) := by
  induction tasks generalizing cache requested state with
  | nil => exact ⟨cache, rfl, by rwa [List.filterMap_nil, List.append_nil]⟩
  | cons task tasks ih =>
    rw [Task.performAll, Task.pool_perform]
    cases hsource : task.source? with
    | none =>
      rw [List.filterMap_cons_none hsource]
      exact ih h _
    | some source =>
      rw [List.filterMap_cons_some hsource]
      obtain ⟨after, hafter, hholds⟩ := ih (h.request source) _
      rw [List.append_assoc] at hholds
      exact ⟨after, hafter, hholds⟩

/-- Managers share a cache without anyone seeing it: however they were made and whatever they did
since, the cache holds the shaders of the requested sources that compile, and every further task on
any device gives what it gives with an empty cache, and what it gives without one. -/
theorem performAll_invisible (configs : List Config) (device : Device (graphics S P T) σ)
    (start : σ) (tasks : List (Task configs.length)) :
    (∀ pool, Pool.Founded configs pool → pool = .sharing configs .empty) ∧
    ∃ cache,
      (Task.performAll device (.sharing configs .empty) start tasks).1 = .sharing configs cache ∧
      cache.Holds (tasks.filterMap Task.source?) ∧
      ∀ state task, Invisible configs cache device state task := by
  obtain ⟨cache, hcache, hholds⟩ := holds_performAll Cache.holds_empty device start tasks
  rw [List.nil_append] at hholds
  exact ⟨fun _ hfounded => hfounded.eq_sharing, cache, hcache, hholds,
    invisible_of_sound hholds.sound device⟩

end

end ShaderPipeline
