import TagStore.Cache.Lru
/-!
# Proofs.Cache.Lru

What a least-recently-used cache can hold after each of its operations, whatever its
capacity and time to live. A read keeps a subset of the entries and answers with the value
of an entry it had (`mem_get`, `get_eq_some`); a write holds the written entry and entries
of other keys it had (`mem_put`); a removal holds entries of other keys it had
(`mem_remove`); clearing holds nothing. So a property of every entry survives reads and
removals, and writes of entries that have it.
-/

namespace TagStore

namespace LruCache

variable {c : LruCache} {key : String} {p : String × CacheSlot}

theorem mem_without {es : List (String × CacheSlot)} : p ∈ without es key ↔ p ∈ es ∧ p.1 ≠ key := by
  simp [without]

/-- A read answers with the value of an entry the cache had under the key. -/
theorem get_eq_some {now : Nat} {v : CachedValue} (h : (c.get key now).1 = some v) :
    ∃ slot, (key, slot) ∈ c.entries ∧ slot.value = v := by
  unfold get at h
  split at h
  · next k slot hfind =>
    have hk : k = key := by simpa using List.find?_some hfind
    split at h
    · cases h
    · cases h
      exact ⟨slot, hk ▸ List.mem_of_find?_eq_some hfind, rfl⟩
  · cases h

/-- A read changes the entries and the counts, never the capacity or the time to live. -/
@[simp] theorem capacity_get {now : Nat} : (c.get key now).2.capacity = c.capacity := by
  unfold get
  split
  · split <;> rfl
  · rfl

@[simp] theorem ttl_get {now : Nat} : (c.get key now).2.ttl = c.ttl := by
  unfold get
  split
  · split <;> rfl
  · rfl

/-- A read keeps a subset of the entries: it moves the entry read to the front, or drops it
once its time is up. -/
theorem mem_get {now : Nat} (h : p ∈ (c.get key now).2.entries) : p ∈ c.entries := by
  unfold get at h
  split at h
  · next k slot hfind =>
    have hk : k = key := by simpa using List.find?_some hfind
    split at h
    · exact (mem_without.1 h).1
    · rcases List.mem_cons.1 h with rfl | h
      · exact hk ▸ List.mem_of_find?_eq_some hfind
      · exact (mem_without.1 h).1
  · exact h

/-- A write holds the written entry and entries of other keys the cache had. -/
theorem mem_put {v : CachedValue} {now : Nat} (h : p ∈ (c.put key v now).entries) :
    p = (key, ⟨v, now⟩) ∨ (p ∈ c.entries ∧ p.1 ≠ key) := by
  rcases List.mem_cons.1 (List.mem_of_mem_take h) with rfl | h
  · exact .inl rfl
  · exact .inr (mem_without.1 h)

theorem mem_remove (h : p ∈ (c.remove key).entries) : p ∈ c.entries ∧ p.1 ≠ key :=
  mem_without.1 h

@[simp] theorem entries_clear : c.clear.entries = [] := rfl

end LruCache

end TagStore
