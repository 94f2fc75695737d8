import ShaderPipeline.Cache

/-!
# Compilation through a cache

A request gives what the compilation of its source gives, whether the source is compiled for it or
has been compiled before (`Sound.request_outcome`). This rests on one fact about the cache, that the
shader stored for a source is the one that its compilation gives; every request keeps it, so it
holds after any number of requests (`sound_afterRequests`).

Compilations that make requests of their own, or that give another outcome each time, are not
covered: of these a cache keeps the first outcome, whatever it is.
-/

namespace ShaderPipeline.Cache

open ShaderPipeline.Language

variable {cache : Cache} {source : String}

/-- The shaders of a cache are those that their sources compile to. -/
def Sound (cache : Cache) : Prop :=
  ∀ source stored, cache.find? source = some stored → compile source = .ok stored.shader

/-- The cache after requests that start without any shader. -/
def afterRequests (requested : List String) : Cache :=
  requested.foldl (fun cache source => (cache.request source).cache) empty

/-- A request finds its source, or compiles it and stores the shader if there is one. -/
theorem request_cases (cache : Cache) (source : String) :
    (∃ stored, cache.find? source = some stored ∧
      cache.request source = ⟨.ok stored, cache, [.cacheHit source]⟩) ∨
    (∃ e, cache.find? source = none ∧ compile source = .error e ∧
      cache.request source = ⟨.error e, cache, [.cacheMiss source]⟩) ∨
    ∃ shader, cache.find? source = none ∧ compile source = .ok shader ∧
      cache.request source =
        ⟨.ok ⟨cache.nextId, shader⟩,
          ⟨(source, ⟨cache.nextId, shader⟩) :: cache.entries, cache.nextId + 1⟩,
          [.cacheMiss source]⟩ := by
  unfold request requestWith serve
  cases hfind : cache.find? source with
  | some stored => exact .inl ⟨stored, rfl, rfl⟩
  | none =>
    cases hcompile : compile source with
    | error e => exact .inr (.inl ⟨e, rfl, rfl, rfl⟩)
    | ok shader =>
      refine .inr (.inr ⟨shader, rfl, rfl, ?_⟩)
      simp only [Compilation.run, store, hfind]

/-- A cache without shaders is sound. -/
theorem sound_empty : empty.Sound := by
  intro source stored hfind
  cases hfind

/-- A request keeps a cache sound: it stores at most the shader of its own source. -/
theorem Sound.request (h : cache.Sound) (source : String) : (cache.request source).cache.Sound := by
  rcases request_cases cache source with ⟨stored, -, hrequest⟩ | ⟨e, -, -, hrequest⟩ |
    ⟨shader, -, hcompile, hrequest⟩
  · rw [hrequest]
    exact h
  · rw [hrequest]
    exact h
  · rw [hrequest]
    intro other stored hfind
    rw [find?, List.lookup_cons] at hfind
    by_cases hsame : other = source
    · rw [hsame, beq_self_eq_true] at hfind
      rw [hsame, ← Option.some.inj hfind]
      exact hcompile
    · rw [beq_false_of_ne hsame] at hfind
      exact h other stored hfind

/-- Any number of requests leave a sound cache. -/
theorem sound_afterRequests (requested : List String) : (afterRequests requested).Sound := by
  have hkept (cache : Cache) (h : cache.Sound) :
      (requested.foldl (fun cache source => (cache.request source).cache) cache).Sound := by
    induction requested generalizing cache with
    | nil => exact h
    | cons source requested ih => exact ih _ (h.request source)
  exact hkept empty sound_empty

/-- A request gives what the compilation of its source gives. -/
theorem Sound.request_outcome (h : cache.Sound) (source : String) :
    (cache.request source).outcome.map CachedShader.shader = compile source := by
  rcases request_cases cache source with ⟨stored, hfind, hrequest⟩ | ⟨e, -, hcompile, hrequest⟩ |
    ⟨shader, -, hcompile, hrequest⟩
  · rw [hrequest, h source stored hfind]
    rfl
  · rw [hrequest, hcompile]
    rfl
  · rw [hrequest, hcompile]
    rfl

end ShaderPipeline.Cache
