import ShaderPipeline.Event
import ShaderPipeline.Language.Compile

/-!
# Compilation cache

Compiled shaders by their source text. Every shader that a compilation gives is an object of its
own, with a number that tells it from all others; the cache stores the first object for a source
and gives out that one from then on. The compilation of a source may itself ask the cache, also for
the same source, before it gives its own answer; such a compilation is described by a tree, so
requests can be nested to any finite depth.
-/

namespace ShaderPipeline

open ShaderPipeline.Language

/-- A compiled shader as an object with an identity. -/
structure CachedShader where
  id : Nat
  shader : Shader
deriving DecidableEq

/-- The stored shaders by source, and the number of the next object. -/
structure Cache where
  entries : List (String × CachedShader)
  nextId : Nat
deriving DecidableEq

/-- What one compilation does: it gives its outcome, or looks up a source in the cache, or requests
one, where `nested` is the compilation that runs if that source is not stored. -/
inductive Compilation where
  | answer (outcome : Except CompileError Shader)
  | lookup (source : String) (next : Option CachedShader → Compilation)
  | request (source : String) (nested : Compilation)
      (next : Except CompileError CachedShader → Compilation)

namespace Cache

/-- The cache without any shader. -/
def empty : Cache := ⟨[], 0⟩

instance : Inhabited Cache := ⟨empty⟩

/-- The stored shader of a source. -/
def find? (cache : Cache) (source : String) : Option CachedShader :=
  cache.entries.lookup source

/-- The number of stored shaders. -/
def size (cache : Cache) : Nat := cache.entries.length

/-- Whether nothing is stored. -/
def isEmpty (cache : Cache) : Bool := cache.entries.isEmpty

/-- Makes an object of a shader and stores it, unless one is stored for the source already. Gives
the object that is stored then. -/
def store (cache : Cache) (source : String) (shader : Shader) : CachedShader × Cache :=
  match cache.find? source with
  | some stored => (stored, { cache with nextId := cache.nextId + 1 })
  | none =>
    let made : CachedShader := ⟨cache.nextId, shader⟩
    (made, ⟨(source, made) :: cache.entries, cache.nextId + 1⟩)

/-- The text that describes a cache in diagnostics. -/
def debugText (cache : Cache) : String :=
  "ShaderCache \x7b entries: " ++ toString cache.size ++ ", .. \x7d"

end Cache

/-- The outcome of work on a cache, the cache after it and the events of the work. -/
structure Served (α : Type) where
  outcome : α
  cache : Cache
  events : List Event

namespace Cache

/-- The shader of a source: the stored one, or else what the given compilation makes of it. -/
def serve (source : String) (compilation : Cache → Served (Except CompileError Shader))
    (cache : Cache) : Served (Except CompileError CachedShader) :=
  match cache.find? source with
  | some stored => ⟨.ok stored, cache, [.cacheHit source]⟩
  | none =>
    let made := compilation cache
    let events := .cacheMiss source :: made.events
    match made.outcome with
    | .error e => ⟨.error e, made.cache, events⟩
    | .ok shader =>
      let (stored, after) := made.cache.store source shader
      ⟨.ok stored, after, events⟩

end Cache

/-- Runs a compilation on a cache. -/
def Compilation.run : Compilation → Cache → Served (Except CompileError Shader)
  | .answer outcome, cache => ⟨outcome, cache, []⟩
  | .lookup source next, cache => (next (cache.find? source)).run cache
  | .request source nested next, cache =>
    let served := cache.serve source fun before => nested.run before
    let rest := (next served.outcome).run served.cache
    { rest with events := served.events ++ rest.events }

namespace Cache

/-- Requests a source, with the compilation that runs if it is not stored. -/
def requestWith (cache : Cache) (source : String) (compilation : Compilation) :
    Served (Except CompileError CachedShader) :=
  cache.serve source compilation.run

/-- Requests a source; one that is not stored is compiled. -/
def request (cache : Cache) (source : String) : Served (Except CompileError CachedShader) :=
  cache.requestWith source (.answer (compile source))

end Cache

end ShaderPipeline
