/-
# A cache with expiry and a size limit

An entry expires when more time than its lifetime has passed since it was
stored. Nothing runs in the background: `set` first sweeps expired entries and
then, if the cache is still full and the key is new, evicts the entry whose
last access lies furthest back; `get` and `has` remove an expired entry they
meet. Every operation is told the time, in microseconds.

`hits`, `misses` and `counts` start again with `clear`; `total` never does.

Key definitions: `Cache`, `Cache.set`, `Cache.get`, `Cache.has`, `Cache.delete`,
`Cache.clear`, `Cache.accessCount?`, `CacheStats`.
-/

namespace TieredReport

universe u

/-- A stored value and what is known of its use. -/
structure CacheEntry (α : Type u) where
  value : α
  createdAt : Nat
  lifetime : Nat
  accesses : Nat
  lastAccess : Nat

/-- Whether the lifetime of an entry has passed. -/
def CacheEntry.expired {α : Type u} (e : CacheEntry α) (now : Nat) : Bool :=
  e.lifetime < now - e.createdAt

/-- Entries removed to make room, and entries removed after their lifetime. -/
structure CacheCounts where
  evictions : Nat := 0
  expirations : Nat := 0
  deriving DecidableEq

/-- Entries by key, the one stored last in front. This order decides one thing only: which entry
`evict` removes where several were last accessed at the same time. -/
structure Cache (α : Type u) where
  maxSize : Nat
  lifetime : Nat
  entries : List (String × CacheEntry α)
  hits : Nat
  misses : Nat
  counts : CacheCounts
  total : CacheCounts

namespace Cache

variable {α : Type u}

/-- An empty cache. Room for no entry counts as room for one. -/
def empty (maxSize lifetime : Nat) : Cache α := ⟨max maxSize 1, lifetime, [], 0, 0, {}, {}⟩

/-- The entry under a key. -/
def find? (c : Cache α) (key : String) : Option (CacheEntry α) :=
  (c.entries.find? fun e => e.1 = key).map (·.2)

/-- Whether there is an entry under a key, expired or not. -/
def stores (c : Cache α) (key : String) : Bool := c.entries.any fun e => e.1 = key

/-- The entries without the one under a key. -/
def without (entries : List (String × CacheEntry α)) (key : String) :
    List (String × CacheEntry α) :=
  entries.filter fun e => e.1 ≠ key

/-- Change the entry under a key. -/
def modify (entries : List (String × CacheEntry α)) (key : String)
    (f : CacheEntry α → CacheEntry α) : List (String × CacheEntry α) :=
  entries.map fun e => if e.1 = key then (e.1, f e.2) else e

/-- Count some expirations. -/
def countExpired (c : Cache α) (n : Nat) : Cache α :=
  { c with
    counts := { c.counts with expirations := c.counts.expirations + n }
    total := { c.total with expirations := c.total.expirations + n } }

/-- Count an eviction. -/
def countEvicted (c : Cache α) : Cache α :=
  { c with
    counts := { c.counts with evictions := c.counts.evictions + 1 }
    total := { c.total with evictions := c.total.evictions + 1 } }

/-- Remove and count the entries that have expired. -/
def sweep (now : Nat) (c : Cache α) : Cache α :=
  let live := c.entries.filter fun e => !e.2.expired now
  countExpired { c with entries := live } (c.entries.length - live.length)

/-- The key whose last access lies furthest back. Of several that lie equally far back this is the
one in front, and any of them would do: all that is used of the choice is that no last access lies
further back (`Cache.oldest?_eq_some`). -/
def oldest? : List (String × CacheEntry α) → Option String
  | [] => none
  | e :: rest =>
    some (rest.foldl (fun best x => if x.2.lastAccess < best.2.lastAccess then x else best) e).1

/-- Remove and count the entry whose last access lies furthest back. -/
def evict (c : Cache α) : Cache α :=
  match oldest? c.entries with
  | none => c
  | some key => countEvicted { c with entries := without c.entries key }

/-- Make room for a key. -/
def makeRoom (c : Cache α) (key : String) : Cache α :=
  if !c.stores key && c.maxSize ≤ c.entries.length then c.evict else c

/-- Store a value, with a lifetime of its own or the one of the cache. The time is read once, for the
sweep and for the new entry. -/
def set (now : Nat) (key : String) (value : α) (lifetime : Option Nat) (c : Cache α) : Cache α :=
  let c := (c.sweep now).makeRoom key
  { c with
    entries := (key, ⟨value, now, lifetime.getD c.lifetime, 0, now⟩) :: without c.entries key }

/-- Remove and count the entry under a key, which has expired. -/
def expire (key : String) (c : Cache α) : Cache α :=
  countExpired { c with entries := without c.entries key } 1

/-- The live value under a key, which counts as an access. -/
def get (now : Nat) (key : String) (c : Cache α) : Option α × Cache α :=
  match c.find? key with
  | none => (none, { c with misses := c.misses + 1 })
  | some e =>
    if e.expired now then (none, { c.expire key with misses := c.misses + 1 })
    else
      (some e.value,
        { c with
          hits := c.hits + 1
          entries := modify c.entries key fun e =>
            { e with accesses := e.accesses + 1, lastAccess := now } })

/-- Whether there is a live value under a key, which does not count as an access. -/
def has (now : Nat) (key : String) (c : Cache α) : Bool × Cache α :=
  match c.find? key with
  | none => (false, c)
  | some e => if e.expired now then (false, c.expire key) else (true, c)

/-- Remove the entry under a key; whether there was one. -/
def delete (key : String) (c : Cache α) : Bool × Cache α :=
  (c.stores key, { c with entries := without c.entries key })

/-- Remove every entry and start the statistics again. -/
def clear (c : Cache α) : Cache α := { c with entries := [], hits := 0, misses := 0, counts := {} }

/-- The number of stored entries, expired ones included. -/
def size (c : Cache α) : Nat := c.entries.length

/-- How often the live value under a key was accessed. -/
def accessCount? (now : Nat) (key : String) (c : Cache α) : Option Nat :=
  ((c.find? key).filter fun e => !e.expired now).map (·.accesses)

end Cache

/-- The statistics of a cache at one moment. -/
structure CacheStats where
  size : Nat
  maxSize : Nat
  hits : Nat
  misses : Nat
  evictions : Nat
  expirations : Nat
  /-- Hits in percent of look-ups. -/
  hitRate : Float

/-- Hits in percent of look-ups; zero before the first. -/
def CacheStats.rate (hits misses : Nat) : Float :=
  if hits + misses = 0 then 0 else Float.ofNat hits / Float.ofNat (hits + misses) * 100

/-- The statistics of a cache. -/
def Cache.stats {α : Type u} (c : Cache α) : CacheStats where
  size := c.size
  maxSize := c.maxSize
  hits := c.hits
  misses := c.misses
  evictions := c.counts.evictions
  expirations := c.counts.expirations
  hitRate := CacheStats.rate c.hits c.misses

end TieredReport
