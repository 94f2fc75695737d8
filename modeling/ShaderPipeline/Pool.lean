import ShaderPipeline.Manager

/-!
# Pools of managers

Several managers, each with its configuration, some of which share a cache. A manager is known by
its number in the pool. Work of one manager changes its cache and no other.
-/

namespace ShaderPipeline

open ShaderPipeline.Language

/-- A manager of a pool: its configuration and the number of its cache. -/
structure Manager where
  config : Config
  cacheNumber : Nat
deriving DecidableEq

/-- Managers and their caches. -/
structure Pool where
  managers : List Manager
  caches : List Cache
deriving DecidableEq

namespace Pool

/-- The pool of one manager with a cache of its own. -/
def single (config : Config) : Pool := ⟨[⟨config, 0⟩], [.empty]⟩

/-- A manager by its number; beyond the pool it is a standard one without a cache of the pool. -/
def manager (pool : Pool) (number : Nat) : Manager :=
  pool.managers.getD number ⟨.standard, pool.caches.length⟩

/-- The cache of a manager. -/
def cache (pool : Pool) (number : Nat) : Cache :=
  pool.caches.getD (pool.manager number).cacheNumber .empty

/-- The pool in which a manager's cache is another one. -/
def withCache (pool : Pool) (number : Nat) (cache : Cache) : Pool :=
  { pool with caches := pool.caches.set (pool.manager number).cacheNumber cache }

/-- The pool with one more manager, which shares the cache of a given one. -/
def share (pool : Pool) (number : Nat) (config : Config) : Pool :=
  { pool with managers := pool.managers ++ [⟨config, (pool.manager number).cacheNumber⟩] }

/-- Prepares the program source of a named asset with a manager. -/
def prepare (pool : Pool) (number : Nat) (assets : AssetSource) (name : String)
    (properties : PropertyContext) : Preparation × Pool :=
  let prepared := (pool.manager number).config.prepare (pool.cache number) assets name properties
  (prepared, pool.withCache number prepared.cache)

/-- Creates the program of a named asset with a manager. -/
def create {S P T : Type} (pool : Pool) (number : Nat) (assets : AssetSource) (name : String)
    (properties : PropertyContext) : Creation S P T × Pool :=
  let creation := (pool.manager number).config.create (pool.cache number) assets name properties
  (creation, pool.withCache number creation.cache)

/-- Compiles a source into the cache of a manager. -/
def precompile (pool : Pool) (number : Nat) (source : String) :
    Served (Except CompileError CachedShader) × Pool :=
  let served := (pool.cache number).request source
  (served, pool.withCache number served.cache)

end Pool

end ShaderPipeline
