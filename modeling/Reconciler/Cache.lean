import Reconciler.Quantity
import Reconciler.Text.Class

/-!
# A cache bounded in time

Values under keys which are forgotten when they are older than the time to live. An entry may hold no
value; it counts as an entry and reads as absent.
-/

namespace Reconciler

/-- What is kept under a key, and since when. -/
structure CacheEntry (ν α : Type) where
  /-- The value. -/
  value : Option ν
  /-- The time at which the value was stored. -/
  storedAt : α

/-- A cache whose entries expire. -/
structure Cache (ν α : Type) where
  /-- The time to live. -/
  ttl : α
  /-- The entries in the order in which their keys were first stored. -/
  entries : List (String × CacheEntry ν α)

namespace Cache

variable {ν α : Type} [Quantity α]

/-- A cache without entries. -/
def empty (ttl : α) : Cache ν α :=
  ⟨ttl, []⟩

/-- The entry under a key. -/
def held? (cache : Cache ν α) (key : String) : Option (CacheEntry ν α) :=
  (cache.entries.find? fun entry => entry.1 == key).map Prod.snd

/-- The cache without a key. -/
def erase (cache : Cache ν α) (key : String) : Cache ν α :=
  { cache with entries := cache.entries.filter fun entry => entry.1 != key }

/-- The entry is older than the time to live. -/
def isExpired (cache : Cache ν α) (now : α) (entry : CacheEntry ν α) : Bool :=
  Quantity.below cache.ttl (now - entry.storedAt)

/-- The value under a key, and the cache, which drops the entry when it has expired. -/
def get (cache : Cache ν α) (now : α) (key : String) : Option ν × Cache ν α :=
  match cache.held? key with
  | none => (none, cache)
  | some entry => if cache.isExpired now entry then (none, cache.erase key) else (entry.value, cache)

/-- The entries with one written in its key's place, or at the end for a new key. -/
def write (key : String) (entry : CacheEntry ν α) :
    List (String × CacheEntry ν α) → List (String × CacheEntry ν α)
  | [] => [(key, entry)]
  | (k, e) :: rest => if k == key then (k, entry) :: rest else (k, e) :: write key entry rest

/-- The cache with a value stored under a key. -/
def set (cache : Cache ν α) (now : α) (key : String) (value : Option ν) : Cache ν α :=
  { cache with entries := write key ⟨value, now⟩ cache.entries }

/-- The cache without entries. -/
def clear (cache : Cache ν α) : Cache ν α :=
  { cache with entries := [] }

/-- The cache without the entries whose key contains a text. -/
def invalidate (cache : Cache ν α) (part : String) : Cache ν α :=
  { cache with entries := cache.entries.filter fun entry => !Text.contains entry.1 part }

/-- The number of entries. -/
def size (cache : Cache ν α) : Nat :=
  cache.entries.length

/-- The place in a state where a cache is kept. -/
structure Slot (σ ν α : Type) where
  /-- The cache in a state. -/
  read : σ → Cache ν α
  /-- The state with another cache. -/
  write : Cache ν α → σ → σ

/-- The value under a key, which is loaded and stored when there is none. The clock is read again when
a value was loaded; a loader that fails stores nothing. -/
def getOrLoadBy {ε σ : Type} (slot : Slot σ ν α) (clock : EStateM ε σ α) (key : String)
    (loader : EStateM ε σ (Option ν)) : EStateM ε σ (Option ν) := do
  let now ← clock
  let (cached, cache) := (slot.read (← MonadState.get)).get now key
  modify (slot.write cache)
  match cached with
  | some value => pure (some value)
  | none =>
    let loaded ← loader
    let now ← clock
    modify fun s => slot.write ((slot.read s).set now key loaded) s
    pure loaded

/-- The value under a key, which is loaded and stored when there is none, by a clock that stands still. -/
def getOrLoad {ε σ : Type} (slot : Slot σ ν α) (now : α) (key : String)
    (loader : EStateM ε σ (Option ν)) : EStateM ε σ (Option ν) :=
  getOrLoadBy slot (pure now) key loader

end Cache

end Reconciler
