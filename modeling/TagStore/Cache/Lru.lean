import TagStore.Document
/-!
# Cache.Lru

A bounded cache of values by key, least recently used first to go, with an optional
time to live. Entries are kept most recent first: a read or a write of a key moves it to
the front, and a write of a new key beyond the capacity drops the last entry. A read of
an entry that has lived its time to live (measured against the reader's clock) is a
miss and drops it. The cache counts its hits and misses.

The capacity is at least 1.
-/

namespace TagStore

/-- The clock of the caches of a run. A run is short next to any time to live but zero,
so the clock stands still: a time to live of 0 expires an entry at once and any other
never does. -/
def cacheClock : Nat := 0

/-- A value kept in a cache. -/
inductive CachedValue where
  | document (d : Document)
  | list (ds : List Document)
  | count (n : Nat)

/-- A cached value with the time it was stored. -/
structure CacheSlot where
  value : CachedValue
  storedAt : Nat

/-- Counts of a cache. -/
structure CacheStats where
  hits : Nat
  misses : Nat
  size : Nat
  capacity : Nat

/-- The share of reads that hit as a float, the rounded quotient of the two counts
rounded to floats; 0 before any read. -/
def CacheStats.hitRate (s : CacheStats) : Binary64 :=
  if s.hits + s.misses == 0 then ⟨0⟩ else (Binary64.ofNat s.hits).div (Binary64.ofNat (s.hits + s.misses))

/-- A least-recently-used cache. -/
structure LruCache where
  name : String
  capacity : Nat
  /-- The time to live, in the clock's unit; none for no limit. -/
  ttl : Option Nat
  /-- Entries, most recently used first. -/
  entries : List (String × CacheSlot) := []
  hits : Nat := 0
  misses : Nat := 0

namespace LruCache

/-- An empty cache; a capacity of 0 holds one entry. -/
def new (name : String) (capacity : Nat) (ttl : Option Nat) : LruCache :=
  { name, capacity := max capacity 1, ttl }

/-- The entries without a key. -/
def without (entries : List (String × CacheSlot)) (key : String) : List (String × CacheSlot) :=
  entries.filter (·.1 != key)

/-- Whether a slot has lived its time at `now`. -/
def expired (c : LruCache) (slot : CacheSlot) (now : Nat) : Bool :=
  c.ttl.any fun t => now - slot.storedAt ≥ t

/-- Reads a key at `now`: a live entry is a hit and moves to the front; a missing or
expired one is a miss, and an expired one is dropped. -/
def get (c : LruCache) (key : String) (now : Nat) : Option CachedValue × LruCache :=
  match c.entries.find? (·.1 == key) with
  | some (_, slot) =>
    if c.expired slot now then
      (none, { c with entries := without c.entries key, misses := c.misses + 1 })
    else
      (some slot.value,
        { c with entries := (key, slot) :: without c.entries key, hits := c.hits + 1 })
  | none => (none, { c with misses := c.misses + 1 })

/-- Writes a key at `now`, at the front; a new key beyond the capacity drops the least
recently used entry. -/
def put (c : LruCache) (key : String) (value : CachedValue) (now : Nat) : LruCache :=
  let rest := without c.entries key
  { c with entries := ((key, ⟨value, now⟩) :: rest).take c.capacity }

/-- Drops a key. -/
def remove (c : LruCache) (key : String) : LruCache :=
  { c with entries := without c.entries key }

/-- Drops every entry; the counts stay. -/
def clear (c : LruCache) : LruCache := { c with entries := [] }

/-- The counts of the cache. -/
def stats (c : LruCache) : CacheStats := ⟨c.hits, c.misses, c.entries.length, c.capacity⟩

end LruCache

end TagStore
