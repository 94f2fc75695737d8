import ShaderPipeline.Cache

/-!
# The first stored object

A cache gives out the first object that was stored for a source and never another one, also where
compilations ask the same cache while they run, fail, or give another outcome each time. `calls` has
every call that is made on a cache, those of running compilations included, in the order in which
they return, and `FirstStored` says what is expected of them. It holds for any demands on a new
cache (`calls_firstStored`).

A client that makes demands in turn is a tree of calls like a compilation (`client`), so everything
is shown of compilations, by induction on the tree. What a single call does is shown for any cache.

Two calls that run at the same time are not covered, except where one is made during the other.
-/

namespace ShaderPipeline

open ShaderPipeline.Language

/-! ## Calls -/

/-- What can be asked of a cache: the object of a source if one is stored, or its object in any
case, with the compilation that runs if none is stored. -/
inductive Demand where
  | lookup (source : String)
  | request (source : String) (compilation : Compilation)

/-- A call of a cache: what is asked, and the cache when the call starts. -/
structure CacheCall where
  demand : Demand
  before : Cache

namespace CacheCall

/-- The source that a call asks for. -/
def source (call : CacheCall) : String :=
  match call.demand with
  | .lookup source | .request source _ => source

/-- The object that a call gives, if it gives one. -/
def object? (call : CacheCall) : Option CachedShader :=
  match call.demand with
  | .lookup source => call.before.find? source
  | .request source compilation => (call.before.requestWith source compilation).outcome.toOption

/-- The cache when a call returns. -/
def after (call : CacheCall) : Cache :=
  match call.demand with
  | .lookup _ => call.before
  | .request source compilation => (call.before.requestWith source compilation).cache

/-- The events from the start of a call until it returns. -/
def events (call : CacheCall) : List Event :=
  match call.demand with
  | .lookup _ => []
  | .request source compilation => (call.before.requestWith source compilation).events

/-- The event of a call itself. A miss is reported when the compilation of the source starts. -/
def event? (call : CacheCall) : Option Event :=
  match call.demand with
  | .lookup _ => none
  | .request source _ =>
    some (if (call.before.find? source).isSome then .cacheHit source else .cacheMiss source)

end CacheCall

/-- The calls that are made while a compilation runs, in the order in which they return. -/
def Compilation.calls : Compilation → Cache → List CacheCall
  | .answer _, _ => []
  | .lookup source next, cache => ⟨.lookup source, cache⟩ :: (next (cache.find? source)).calls cache
  | .request source nested next, cache =>
    let served := cache.requestWith source nested
    (if (cache.find? source).isSome then [] else nested.calls cache) ++
      ⟨.request source nested, cache⟩ :: (next served.outcome).calls served.cache

/-- The calls that are made during a call, which are those of its compilation if that runs. -/
def CacheCall.nested (call : CacheCall) : List CacheCall :=
  match call.demand with
  | .lookup _ => []
  | .request source compilation =>
    if (call.before.find? source).isSome then [] else compilation.calls call.before

namespace Cache

/-- All calls that are made when demands are made in turn, in the order in which they return. -/
def calls : Cache → List Demand → List CacheCall
  | _, [] => []
  | cache, demand :: demands =>
    let call : CacheCall := ⟨demand, cache⟩
    call.nested ++ call :: call.after.calls demands

/-- The cache after demands in turn. -/
def afterDemands (cache : Cache) (demands : List Demand) : Cache :=
  demands.foldl (fun cache demand => CacheCall.after ⟨demand, cache⟩) cache

/-- What is stored in a cache is stored in another one as well. -/
def Keeps (cache after : Cache) : Prop :=
  ∀ source object, cache.find? source = some object → after.find? source = some object

/-- No two stored objects have the same number, and none has the number of the next object. -/
structure Numbered (cache : Cache) : Prop where
  id_lt : ∀ source object, cache.find? source = some object → object.id < cache.nextId
  source_eq : ∀ source object other second, cache.find? source = some object →
    cache.find? other = some second → object.id = second.id → source = other

end Cache

/-- A call compiles its source: it fails if the compilation does, and else gives the object that was
stored meanwhile, or one of the compiled shader. -/
structure CacheCall.Compiles (call : CacheCall) (compilation : Compilation) : Prop where
  events_eq : call.events = .cacheMiss call.source :: (compilation.run call.before).events
  failed : ∀ e, (compilation.run call.before).outcome = .error e →
    (call.before.requestWith call.source compilation).outcome = .error e
  made : ∀ shader, (compilation.run call.before).outcome = .ok shader →
    ∃ object, call.object? = some object ∧
      ((compilation.run call.before).cache.find? call.source = some object ∨
        (compilation.run call.before).cache.find? call.source = none ∧ object.shader = shader)

/-- What is expected of calls and of the cache after them. -/
structure FirstStored (calls : List CacheCall) (final : Cache) : Prop where
  /-- What is stored when a call starts is stored when it returns. -/
  kept : ∀ call ∈ calls, call.before.Keeps call.after
  /-- What is stored when a call returns is stored when any later one returns. -/
  ordered : calls.Pairwise fun earlier later => earlier.after.Keeps later.after
  /-- What is stored when a call returns is stored in the end. -/
  lasting : ∀ call ∈ calls, call.after.Keeps final
  /-- The object that a call gives is the one stored for its source when it returns. -/
  stored : ∀ call ∈ calls, ∀ object ∈ call.object?, call.after.find? call.source = some object
  /-- Any two calls give the same object for the same source. -/
  same : ∀ first ∈ calls, ∀ second ∈ calls, first.source = second.source →
    ∀ object ∈ first.object?, ∀ other ∈ second.object?, object = other
  /-- Objects of different sources have different numbers. -/
  apart : ∀ first ∈ calls, ∀ second ∈ calls, ∀ object ∈ first.object?, ∀ other ∈ second.object?,
    object.id = other.id → first.source = second.source
  /-- What is new after a call that gives no object was stored by calls that were made during it,
  and these gave the objects. -/
  failed : ∀ call ∈ calls, call.object? = none →
    ∀ source object, call.after.find? source = some object →
      call.before.find? source = some object ∨
        ∃ inner ∈ call.nested, inner.source = source ∧ inner.before.find? source = none ∧
          inner.object? = some object
  /-- The compilation of a source runs for each request that does not find it, and only then. -/
  reported : ∀ call ∈ calls,
    call.events.Perm ((call.nested ++ [call]).filterMap CacheCall.event?)
  /-- A call that finds its source gives the stored object, changes nothing and compiles nothing. -/
  found : ∀ call ∈ calls, ∀ object, call.before.find? call.source = some object →
    call.object? = some object ∧ call.after = call.before ∧ call.nested = [] ∧
      ∀ source, .cacheMiss source ∉ call.events
  /-- A request that does not find its source compiles it. -/
  missed : ∀ call ∈ calls, ∀ source compilation, call.demand = .request source compilation →
    call.before.find? source = none → call.Compiles compilation

/-! ## Single calls -/

namespace Cache

variable {cache : Cache} {source : String}

/-- A cache keeps what it has. -/
theorem Keeps.refl (cache : Cache) : cache.Keeps cache := fun _ _ hfind => hfind

/-- What is kept and then kept again is kept. -/
theorem Keeps.trans {mid after : Cache} (h : cache.Keeps mid) (hmore : mid.Keeps after) :
    cache.Keeps after :=
  fun other object hfind => hmore other object (h other object hfind)

/-- Storing a shader for a source that has an object changes no more than the next number. -/
theorem store_of_some {stored : CachedShader} (h : cache.find? source = some stored)
    (shader : Shader) :
    cache.store source shader = (stored, ⟨cache.entries, cache.nextId + 1⟩) := by
  rw [store, h]

/-- Storing a shader for a source that has no object makes one. -/
theorem store_of_none (h : cache.find? source = none) (shader : Shader) :
    cache.store source shader =
      (⟨cache.nextId, shader⟩,
        ⟨(source, ⟨cache.nextId, shader⟩) :: cache.entries, cache.nextId + 1⟩) := by
  rw [store, h]

/-- What is stored after a shader was stored: the object that storing gave, and all others. -/
theorem find?_store (cache : Cache) (source : String) (shader : Shader) (other : String) :
    (cache.store source shader).2.find? other =
      if other = source then some (cache.store source shader).1 else cache.find? other := by
  cases hfind : cache.find? source with
  | some stored =>
    rw [store_of_some hfind]
    by_cases hother : other = source
    · rw [if_pos hother, hother]
      exact hfind
    · rw [if_neg hother]
      rfl
  | none =>
    rw [store_of_none hfind]
    by_cases hother : other = source
    · rw [if_pos hother, hother, find?, List.lookup_cons_self]
    · rw [if_neg hother, find?, List.lookup_cons, beq_false_of_ne hother]
      rfl

/-- Storing a shader keeps all objects. -/
theorem keeps_store (cache : Cache) (source : String) (shader : Shader) :
    cache.Keeps (cache.store source shader).2 := by
  intro other object hfind
  rw [find?_store]
  by_cases hother : other = source
  · rw [if_pos hother, store_of_some (hother ▸ hfind)]
  · rw [if_neg hother]
    exact hfind

/-- A request for a source that has an object finds it. -/
theorem requestWith_of_some {stored : CachedShader} (h : cache.find? source = some stored)
    (compilation : Compilation) :
    cache.requestWith source compilation = ⟨.ok stored, cache, [.cacheHit source]⟩ := by
  rw [requestWith, serve, h]

/-- A request for a source that has no object fails if its compilation does. -/
theorem requestWith_of_error (h : cache.find? source = none) {compilation : Compilation}
    {e : CompileError} (hrun : (compilation.run cache).outcome = .error e) :
    cache.requestWith source compilation =
      ⟨.error e, (compilation.run cache).cache,
        .cacheMiss source :: (compilation.run cache).events⟩ := by
  simp only [requestWith, serve, h, hrun]

/-- A request for a source that has no object stores what its compilation gives. -/
theorem requestWith_of_ok (h : cache.find? source = none) {compilation : Compilation}
    {shader : Shader} (hrun : (compilation.run cache).outcome = .ok shader) :
    cache.requestWith source compilation =
      ⟨.ok ((compilation.run cache).cache.store source shader).1,
        ((compilation.run cache).cache.store source shader).2,
        .cacheMiss source :: (compilation.run cache).events⟩ := by
  simp only [requestWith, serve, h, hrun]

/-- The object that a request gives is the one stored for its source when it returns. -/
theorem find?_requestWith {compilation : Compilation} {object : CachedShader}
    (h : (cache.requestWith source compilation).outcome = .ok object) :
    (cache.requestWith source compilation).cache.find? source = some object := by
  cases hfind : cache.find? source with
  | some stored =>
    rw [requestWith_of_some hfind] at h ⊢
    rw [← Except.ok.inj h]
    exact hfind
  | none =>
    cases hrun : (compilation.run cache).outcome with
    | error e =>
      rw [requestWith_of_error hfind hrun] at h
      cases h
    | ok shader =>
      rw [requestWith_of_ok hfind hrun] at h ⊢
      rw [← Except.ok.inj h, find?_store, if_pos rfl]

end Cache

namespace CacheCall

variable {before : Cache} {source : String}

/-- No calls are made during a request that finds its source. -/
theorem nested_of_some {stored : CachedShader} (h : before.find? source = some stored)
    (compilation : Compilation) : nested ⟨.request source compilation, before⟩ = [] :=
  if_pos (Option.isSome_iff_exists.2 ⟨stored, h⟩)

/-- During a request that does not find its source its compilation makes calls. -/
theorem nested_of_none (h : before.find? source = none) (compilation : Compilation) :
    nested ⟨.request source compilation, before⟩ = compilation.calls before :=
  if_neg (by rw [h]; exact Bool.false_ne_true)

end CacheCall

/-! ## Running compilations -/

/-- Between two caches nothing is lost, and neither in between when calls return. -/
structure Growing (start final : Cache) (calls : List CacheCall) : Prop where
  whole : start.Keeps final
  ordered : calls.Pairwise fun earlier later => earlier.after.Keeps later.after
  since : ∀ call ∈ calls, start.Keeps call.after
  lasting : ∀ call ∈ calls, call.after.Keeps final

namespace Growing

/-- Without calls nothing changes. -/
theorem nil (cache : Cache) : Growing cache cache [] :=
  ⟨.refl cache, .nil, by simp, by simp⟩

/-- A call returns with what there was just before. -/
theorem one {start : Cache} (call : CacheCall) (h : start.Keeps call.after) :
    Growing start call.after [call] := by
  refine ⟨h, List.pairwise_singleton .., ?_, ?_⟩
  · rw [List.forall_mem_singleton]
    exact h
  · rw [List.forall_mem_singleton]
    exact .refl _

/-- Calls after calls. -/
theorem append {start mid final : Cache} {calls more : List CacheCall}
    (h : Growing start mid calls) (hmore : Growing mid final more) :
    Growing start final (calls ++ more) := by
  refine ⟨h.whole.trans hmore.whole, ?_, ?_, ?_⟩
  · rw [List.pairwise_append]
    refine ⟨h.ordered, hmore.ordered, ?_⟩
    intro earlier hearlier later hlater
    exact (h.lasting earlier hearlier).trans (hmore.since later hlater)
  · rw [List.forall_mem_append]
    exact ⟨h.since, fun call hcall => h.whole.trans (hmore.since call hcall)⟩
  · rw [List.forall_mem_append]
    exact ⟨fun call hcall => (h.lasting call hcall).trans hmore.whole, hmore.lasting⟩

/-- A request adds nothing but what is new to what its compilation leaves. -/
theorem request {cache : Cache} {source : String} {compilation : Compilation}
    (h : Growing cache (compilation.run cache).cache (compilation.calls cache)) :
    Growing cache (cache.requestWith source compilation).cache
      (CacheCall.nested ⟨.request source compilation, cache⟩ ++
        [⟨.request source compilation, cache⟩]) := by
  cases hfind : cache.find? source with
  | some stored =>
    have hafter : (cache.requestWith source compilation).cache = cache := by
      rw [Cache.requestWith_of_some hfind]
    have hkeeps : cache.Keeps (cache.requestWith source compilation).cache := by
      rw [hafter]
      exact .refl cache
    rw [CacheCall.nested_of_some hfind]
    exact one ⟨.request source compilation, cache⟩ hkeeps
  | none =>
    have hafter : (compilation.run cache).cache.Keeps
        (cache.requestWith source compilation).cache := by
      cases hrun : (compilation.run cache).outcome with
      | error e =>
        rw [Cache.requestWith_of_error hfind hrun]
        exact .refl _
      | ok shader =>
        rw [Cache.requestWith_of_ok hfind hrun]
        exact Cache.keeps_store _ source shader
    rw [CacheCall.nested_of_none hfind]
    exact h.append (one ⟨.request source compilation, cache⟩ hafter)

end Growing

namespace Compilation

/-- The calls of a compilation that starts with a request. -/
theorem calls_request (source : String) (nested : Compilation)
    (next : Except CompileError CachedShader → Compilation) (cache : Cache) :
    (request source nested next).calls cache =
      (CacheCall.nested ⟨.request source nested, cache⟩ ++ [⟨.request source nested, cache⟩]) ++
        (next (cache.requestWith source nested).outcome).calls
          (cache.requestWith source nested).cache := by
  rw [List.append_assoc]
  rfl

/-- Nothing is lost while a compilation runs. -/
theorem growing (compilation : Compilation) (cache : Cache) :
    Growing cache (compilation.run cache).cache (compilation.calls cache) := by
  induction compilation generalizing cache with
  | answer outcome => exact .nil cache
  | lookup source next ih =>
    exact (Growing.one ⟨.lookup source, cache⟩ (.refl cache)).append
      (ih (cache.find? source) cache)
  | request source nested next ihNested ihNext =>
    rw [calls_request]
    exact (Growing.request (ihNested cache)).append (ihNext _ _)

end Compilation

/-- What is new in a cache was stored by calls, which gave the objects. -/
def Accounted (start final : Cache) (calls : List CacheCall) : Prop :=
  ∀ source object, final.find? source = some object →
    start.find? source = some object ∨
      ∃ inner ∈ calls, inner.source = source ∧ inner.before.find? source = none ∧
        inner.object? = some object

namespace Accounted

/-- Without calls nothing is new. -/
theorem nil (cache : Cache) : Accounted cache cache [] := fun _ _ hfind => .inl hfind

/-- Calls after calls. -/
theorem append {start mid final : Cache} {calls more : List CacheCall}
    (h : Accounted start mid calls) (hmore : Accounted mid final more) :
    Accounted start final (calls ++ more) := by
  intro source object hfind
  rcases hmore source object hfind with hmid | ⟨inner, hinner, hstored⟩
  · rcases h source object hmid with hstart | ⟨inner, hinner, hstored⟩
    · exact .inl hstart
    · exact .inr ⟨inner, List.mem_append_left _ hinner, hstored⟩
  · exact .inr ⟨inner, List.mem_append_right _ hinner, hstored⟩

/-- What is new after a request was stored by it or while its compilation ran. -/
theorem request {cache : Cache} {source : String} {compilation : Compilation}
    (h : Accounted cache (compilation.run cache).cache (compilation.calls cache)) :
    Accounted cache (cache.requestWith source compilation).cache
      (CacheCall.nested ⟨.request source compilation, cache⟩ ++
        [⟨.request source compilation, cache⟩]) := by
  intro other object hother
  cases hfind : cache.find? source with
  | some stored =>
    rw [Cache.requestWith_of_some hfind] at hother
    exact .inl hother
  | none =>
    rw [CacheCall.nested_of_none hfind]
    have hran (hkept : (compilation.run cache).cache.find? other = some object) :
        cache.find? other = some object ∨
          ∃ inner ∈ compilation.calls cache ++ [⟨.request source compilation, cache⟩],
            inner.source = other ∧ inner.before.find? other = none ∧
              inner.object? = some object := by
      rcases h other object hkept with hstart | ⟨inner, hinner, hstored⟩
      · exact .inl hstart
      · exact .inr ⟨inner, List.mem_append_left _ hinner, hstored⟩
    cases hrun : (compilation.run cache).outcome with
    | error e =>
      rw [Cache.requestWith_of_error hfind hrun] at hother
      exact hran hother
    | ok shader =>
      have hserved := Cache.requestWith_of_ok hfind hrun
      rw [hserved] at hother
      dsimp only at hother
      rw [Cache.find?_store] at hother
      by_cases hsame : other = source
      · rw [if_pos hsame] at hother
        refine .inr ⟨_, List.mem_append_right _ (List.mem_singleton_self _), hsame.symm, ?_, ?_⟩
        · rw [hsame]
          exact hfind
        · exact (congrArg (fun served => served.outcome.toOption) hserved).trans hother
      · rw [if_neg hsame] at hother
        exact hran hother

end Accounted

namespace Cache

variable {cache : Cache}

/-- A new cache has no objects. -/
theorem numbered_empty : empty.Numbered := by
  refine ⟨?_, ?_⟩
  · intro source object hfind
    cases hfind
  · intro source object other second hfind
    cases hfind

/-- Storing gives an object the next number. -/
theorem Numbered.store (h : cache.Numbered) (source : String) (shader : Shader) :
    (cache.store source shader).2.Numbered := by
  cases hfind : cache.find? source with
  | some stored =>
    rw [store_of_some hfind]
    exact ⟨fun other object hother => Nat.lt_succ_of_lt (h.id_lt other object hother), h.source_eq⟩
  | none =>
    have hmade := find?_store cache source shader
    rw [store_of_none hfind] at hmade ⊢
    refine ⟨?_, ?_⟩
    · intro other object hother
      rw [hmade] at hother
      split at hother
      · rw [← Option.some.inj hother]
        exact Nat.lt_succ_self _
      · exact Nat.lt_succ_of_lt (h.id_lt other object hother)
    · intro first object other second hfirst hother hid
      rw [hmade] at hfirst hother
      split at hfirst
      · split at hother
        · rename_i hone htwo
          exact hone.trans htwo.symm
        · rw [← Option.some.inj hfirst] at hid
          exact absurd hid.symm (Nat.ne_of_lt (h.id_lt other second hother))
      · split at hother
        · rw [← Option.some.inj hother] at hid
          exact absurd hid (Nat.ne_of_lt (h.id_lt first object hfirst))
        · exact h.source_eq first object other second hfirst hother hid

/-- A request keeps the numbers apart if its compilation does. -/
theorem Numbered.requestWith (h : cache.Numbered) {source : String} {compilation : Compilation}
    (hrun : (compilation.run cache).cache.Numbered) :
    (cache.requestWith source compilation).cache.Numbered := by
  cases hfind : cache.find? source with
  | some stored =>
    rw [requestWith_of_some hfind]
    exact h
  | none =>
    cases houtcome : (compilation.run cache).outcome with
    | error e =>
      rw [requestWith_of_error hfind houtcome]
      exact hrun
    | ok shader =>
      rw [requestWith_of_ok hfind houtcome]
      exact hrun.store source shader

end Cache

/-- A request reports itself and what its compilation reports. -/
theorem events_requestWith_perm {cache : Cache} {source : String} {compilation : Compilation}
    (h : (compilation.run cache).events.Perm
      ((compilation.calls cache).filterMap CacheCall.event?)) :
    (cache.requestWith source compilation).events.Perm
      ((CacheCall.nested ⟨.request source compilation, cache⟩ ++
        [(⟨.request source compilation, cache⟩ : CacheCall)]).filterMap CacheCall.event?) := by
  cases hfind : cache.find? source with
  | some stored =>
    have hself : CacheCall.event? ⟨.request source compilation, cache⟩ =
        some (.cacheHit source) := by
      simp [CacheCall.event?, hfind]
    rw [Cache.requestWith_of_some hfind, CacheCall.nested_of_some hfind, List.nil_append,
      List.filterMap_cons_some hself]
    exact .refl _
  | none =>
    have hevents : (cache.requestWith source compilation).events =
        .cacheMiss source :: (compilation.run cache).events := by
      cases hrun : (compilation.run cache).outcome with
      | error e => rw [Cache.requestWith_of_error hfind hrun]
      | ok shader => rw [Cache.requestWith_of_ok hfind hrun]
    have hself : CacheCall.event? ⟨.request source compilation, cache⟩ =
        some (.cacheMiss source) := by
      simp [CacheCall.event?, hfind]
    rw [hevents, CacheCall.nested_of_none hfind, List.filterMap_append,
      List.filterMap_cons_some hself]
    exact (h.cons _).trans (List.perm_append_singleton _ _).symm

namespace Compilation

/-- What is new after a compilation was stored by the calls that it made. -/
theorem accounted (compilation : Compilation) (cache : Cache) :
    Accounted cache (compilation.run cache).cache (compilation.calls cache) := by
  induction compilation generalizing cache with
  | answer outcome => exact .nil cache
  | lookup source next ih =>
    have hlookup : Accounted cache cache [⟨.lookup source, cache⟩] := fun _ _ hfind => .inl hfind
    exact hlookup.append (ih (cache.find? source) cache)
  | request source nested next ihNested ihNext =>
    rw [calls_request]
    exact (Accounted.request (ihNested cache)).append (ihNext _ _)

/-- Running a compilation keeps the numbers apart. -/
theorem numbered (compilation : Compilation) {cache : Cache} (h : cache.Numbered) :
    (compilation.run cache).cache.Numbered := by
  induction compilation generalizing cache with
  | answer outcome => exact h
  | lookup source next ih => exact ih (cache.find? source) h
  | request source nested next ihNested ihNext =>
    exact ihNext _ (h.requestWith (ihNested h))

/-- A compilation reports each request that it makes once. -/
theorem events_perm (compilation : Compilation) (cache : Cache) :
    (compilation.run cache).events.Perm
      ((compilation.calls cache).filterMap CacheCall.event?) := by
  induction compilation generalizing cache with
  | answer outcome => exact .nil
  | lookup source next ih => exact ih (cache.find? source) cache
  | request source nested next ihNested ihNext =>
    rw [calls_request, List.filterMap_append]
    exact (events_requestWith_perm (ihNested cache)).append (ihNext _ _)

end Compilation

/-! ## Every call -/

namespace CacheCall

variable (call : CacheCall)

/-- A call keeps what is stored. -/
theorem keeps : call.before.Keeps call.after := by
  obtain ⟨demand, before⟩ := call
  cases demand with
  | lookup source => exact .refl before
  | request source compilation => exact (Growing.request (compilation.growing before)).whole

/-- The object that a call gives is the one stored for its source when it returns. -/
theorem find?_after {object : CachedShader} (h : call.object? = some object) :
    call.after.find? call.source = some object := by
  obtain ⟨demand, before⟩ := call
  cases demand with
  | lookup source => exact h
  | request source compilation =>
    refine Cache.find?_requestWith ?_
    rw [object?] at h
    cases houtcome : (before.requestWith source compilation).outcome with
    | error e =>
      simp only [houtcome] at h
      cases h
    | ok found =>
      simp only [houtcome] at h
      rw [Option.some.inj h]

/-- What is new after a call that gives no object was stored by the calls made during it. -/
theorem accounted_nested (h : call.object? = none) :
    Accounted call.before call.after call.nested := by
  obtain ⟨demand, before⟩ := call
  cases demand with
  | lookup source => exact .nil before
  | request source compilation =>
    intro other object hother
    rcases Accounted.request (compilation.accounted before) other object hother with
      hstart | ⟨inner, hinner, hsource, hnone, hobject⟩
    · exact .inl hstart
    · rcases List.mem_append.1 hinner with hnested | hself
      · exact .inr ⟨inner, hnested, hsource, hnone, hobject⟩
      · rw [List.mem_singleton.1 hself, h] at hobject
        cases hobject

/-- A call reports itself and the calls that are made during it. -/
theorem events_perm :
    call.events.Perm ((call.nested ++ [call]).filterMap event?) := by
  obtain ⟨demand, before⟩ := call
  cases demand with
  | lookup source => exact .nil
  | request source compilation => exact events_requestWith_perm (compilation.events_perm before)

/-- A call that finds its source gives the stored object, changes nothing and compiles nothing. -/
theorem of_found {object : CachedShader} (h : call.before.find? call.source = some object) :
    call.object? = some object ∧ call.after = call.before ∧ call.nested = [] ∧
      ∀ source, .cacheMiss source ∉ call.events := by
  obtain ⟨demand, before⟩ := call
  cases demand with
  | lookup source => exact ⟨h, rfl, rfl, by simp [events]⟩
  | request source compilation =>
    have hserved := Cache.requestWith_of_some h compilation
    refine ⟨congrArg (fun served => served.outcome.toOption) hserved,
      congrArg Served.cache hserved, nested_of_some h compilation, ?_⟩
    have hevents : events ⟨.request source compilation, before⟩ = [.cacheHit source] :=
      congrArg Served.events hserved
    simp [hevents]

/-- A request that does not find its source compiles it. -/
theorem compiles {source : String} {compilation : Compilation}
    (hdemand : call.demand = .request source compilation)
    (hfind : call.before.find? source = none) : call.Compiles compilation := by
  obtain ⟨demand, before⟩ := call
  subst hdemand
  cases hrun : (compilation.run before).outcome with
  | error e =>
    have hserved := Cache.requestWith_of_error hfind hrun
    refine ⟨congrArg Served.events hserved, ?_, ?_⟩
    · intro other hother
      rw [← Except.error.inj (hrun.symm.trans hother)]
      exact congrArg Served.outcome hserved
    · intro shader hshader
      rw [hrun] at hshader
      cases hshader
  | ok shader =>
    have hserved := Cache.requestWith_of_ok hfind hrun
    refine ⟨congrArg Served.events hserved, ?_, ?_⟩
    · intro e he
      rw [hrun] at he
      cases he
    · intro other hother
      obtain rfl := Except.ok.inj (hrun.symm.trans hother)
      refine ⟨_, congrArg (fun served => served.outcome.toOption) hserved, ?_⟩
      cases hmeanwhile : (compilation.run before).cache.find? source with
      | some stored =>
        have hstore := Cache.store_of_some hmeanwhile shader
        exact .inl (hmeanwhile.trans (congrArg (fun made => some made.1) hstore).symm)
      | none =>
        have hstore := Cache.store_of_none hmeanwhile shader
        exact .inr ⟨hmeanwhile, congrArg (fun made => made.1.shader) hstore⟩

end CacheCall

/-- What is expected of calls holds while a compilation runs. -/
theorem Compilation.firstStored (compilation : Compilation) {cache : Cache}
    (h : cache.Numbered) :
    FirstStored (compilation.calls cache) (compilation.run cache).cache where
  kept := fun call _ => call.keeps
  ordered := (compilation.growing cache).ordered
  lasting := (compilation.growing cache).lasting
  stored := fun call _ _ hobject => call.find?_after hobject
  same := by
    intro first hfirst second hsecond hsource object hobject other hother
    have hone := (compilation.growing cache).lasting first hfirst _ _ (first.find?_after hobject)
    have htwo := (compilation.growing cache).lasting second hsecond _ _ (second.find?_after hother)
    rw [hsource, htwo] at hone
    exact (Option.some.inj hone).symm
  apart := by
    intro first hfirst second hsecond object hobject other hother hid
    have hone := (compilation.growing cache).lasting first hfirst _ _ (first.find?_after hobject)
    have htwo := (compilation.growing cache).lasting second hsecond _ _ (second.find?_after hother)
    exact (compilation.numbered h).source_eq _ _ _ _ hone htwo hid
  failed := fun call _ hnone => call.accounted_nested hnone
  reported := fun call _ => call.events_perm
  found := fun call _ _ hfind => call.of_found hfind
  missed := fun call _ _ _ hdemand hfind => call.compiles hdemand hfind

/-! ## Demands in turn -/

/-- A client that makes demands in turn, whatever it does with the objects. -/
def client (ending : Except CompileError Shader) : List Demand → Compilation
  | [] => .answer ending
  | .lookup source :: demands => .lookup source fun _ => client ending demands
  | .request source compilation :: demands =>
    .request source compilation fun _ => client ending demands

/-- The calls of a client are those of its demands. -/
theorem calls_client (ending : Except CompileError Shader) (demands : List Demand)
    (cache : Cache) : (client ending demands).calls cache = cache.calls demands := by
  induction demands generalizing cache with
  | nil => rfl
  | cons demand demands ih =>
    cases demand with
    | lookup source => exact congrArg (_ :: ·) (ih cache)
    | request source compilation =>
      rw [client, Compilation.calls_request, ih, List.append_assoc]
      rfl

/-- A client leaves the cache that its demands leave. -/
theorem cache_run_client (ending : Except CompileError Shader) (demands : List Demand)
    (cache : Cache) : ((client ending demands).run cache).cache = cache.afterDemands demands := by
  induction demands generalizing cache with
  | nil => rfl
  | cons demand demands ih =>
    cases demand with
    | lookup source => exact ih cache
    | request source compilation => exact ih _

/-- Of every source the first object that is stored is the only one that calls give, from any
demands on a new cache and in any compilation that runs meanwhile. -/
theorem calls_firstStored (demands : List Demand) :
    FirstStored (Cache.empty.calls demands) (Cache.empty.afterDemands demands) := by
  have hclient := (client (compile "") demands).firstStored Cache.numbered_empty
  rwa [calls_client, cache_run_client] at hclient

end ShaderPipeline
