import TagStore.Proofs.Cache.Lru
/-!
# Proofs.Cache.Recency

A least-recently-used cache measured against the list it stands for. The reference
(`RecencyList`) holds entries most recently used first and the two counts of reads, and says
each call the way one says it of such a list:

* a write puts its entry at the front, removing the key's old entry, or, for a new key on a
  full list, the last entry;
* a read of an entry younger than the time to live answers its value, moves it to the front
  and counts a hit; a read of an older entry removes it and counts a miss, and so does a read
  of a key with no entry;
* a removal removes the key's entry and clearing removes every entry.

The cache computes these differently: it filters every entry of a key out, cuts the list at
the capacity and measures an entry's age by subtraction. The two agree on every run whose
times never go back, because three facts hold of every cache made by `LruCache.new`
(`Bounded`, `StoredBy`): each key has one entry, there are no more entries than the
capacity, which is at least one, and no entry was stored after the time of the next call.

**Main statements.**
* `LruCache.run_new_eq_recency` — the cache answers every call as the reference does, and
  ends with the reference's entries and counts;
* `LruCache.size_run_le` — it never holds more than `max 1 capacity` entries;
* `LruCache.hits_add_misses_run` — the hits and misses add up to the reads made;
* `LruCache.get_run_eq_some` — a read answers only the value of the key's last write, made
  less than the time to live before.
-/

namespace TagStore

/-- A call on a cache. -/
inductive CacheCall where
  | get (key : String)
  | put (key : String) (value : CachedValue)
  | remove (key : String)
  | clear

/-- Whether a call is a read. -/
def CacheCall.isGet : CacheCall → Bool
  | .get _ => true
  | _ => false

/-- Calls made at times that never go back. -/
def InTimeOrder (calls : List (Nat × CacheCall)) : Prop :=
  (calls.map (·.1)).Pairwise (· ≤ ·)

instance (calls : List (Nat × CacheCall)) : Decidable (InTimeOrder calls) :=
  inferInstanceAs (Decidable ((calls.map (·.1)).Pairwise (· ≤ ·)))

theorem InTimeOrder.cons {call : Nat × CacheCall} {rest : List (Nat × CacheCall)}
    (h : InTimeOrder (call :: rest)) : InTimeOrder rest ∧ ∀ q ∈ rest, call.1 ≤ q.1 := by
  simp only [InTimeOrder, List.map_cons, List.pairwise_cons, List.mem_map] at h
  exact ⟨h.2, fun q hq => h.1 q.1 ⟨q, hq, rfl⟩⟩

theorem InTimeOrder.le_of_mem_before {pre post : List (Nat × CacheCall)} {call : Nat × CacheCall}
    (h : InTimeOrder (pre ++ call :: post)) : ∀ q ∈ pre, q.1 ≤ call.1 := by
  simp only [InTimeOrder, List.map_append, List.map_cons, List.pairwise_append, List.mem_map,
    List.mem_cons] at h
  exact fun q hq => h.2.2 q.1 ⟨q, hq, rfl⟩ call.1 (.inl rfl)

/-- The value and the time of the last write of a key among calls. -/
def lastPut (calls : List (Nat × CacheCall)) (key : String) : Option (CachedValue × Nat) :=
  calls.foldl (fun last call =>
    match call.2 with
    | .put k v => if k = key then some (v, call.1) else last
    | _ => last) none

/-- The reference a cache stands for: its entries, most recently used first, and the counts
of reads that found a live entry and of reads that did not. -/
structure RecencyList where
  entries : List (String × CacheSlot) := []
  hits : Nat := 0
  misses : Nat := 0

namespace RecencyList

section Calls

variable (capacity : Nat) (ttl : Option Nat)

/-- Whether a slot is younger than the time to live at `now`. -/
def young (slot : CacheSlot) (now : Nat) : Bool := ttl.all fun t => now < slot.storedAt + t

/-- The entries without the entry of a key. -/
def drop (es : List (String × CacheSlot)) (key : String) : List (String × CacheSlot) :=
  es.eraseP (·.1 == key)

/-- A write: the entry goes to the front, in place of the key's entry, or in place of the
last entry when the key is new and the list full. -/
def put (r : RecencyList) (key : String) (value : CachedValue) (now : Nat) : RecencyList :=
  let slot : CacheSlot := ⟨value, now⟩
  if (r.entries.lookup key).isSome then { r with entries := (key, slot) :: drop r.entries key }
  else if r.entries.length < capacity then { r with entries := (key, slot) :: r.entries }
  else { r with entries := (key, slot) :: r.entries.dropLast }

/-- A read: a young entry is a hit and goes to the front; an old one is removed and a miss,
as is a key with no entry. -/
def get (r : RecencyList) (key : String) (now : Nat) : Option CachedValue × RecencyList :=
  match r.entries.lookup key with
  | some slot =>
    if young ttl slot now then
      (some slot.value, { r with entries := (key, slot) :: drop r.entries key, hits := r.hits + 1 })
    else (none, { r with entries := drop r.entries key, misses := r.misses + 1 })
  | none => (none, { r with misses := r.misses + 1 })

/-- One call at `now`; only a read answers. -/
def call (r : RecencyList) (now : Nat) : CacheCall → Option CachedValue × RecencyList
  | .get key => r.get ttl key now
  | .put key value => (none, r.put capacity key value now)
  | .remove key => (none, { r with entries := drop r.entries key })
  | .clear => (none, { r with entries := [] })

/-- Calls in order, each at its time: the answers and the list they leave. -/
def run (r : RecencyList) : List (Nat × CacheCall) → List (Option CachedValue) × RecencyList
  | [] => ([], r)
  | call :: rest =>
    let step := r.call capacity ttl call.1 call.2
    let after := step.2.run rest
    (step.1 :: after.1, after.2)

end Calls

end RecencyList

namespace LruCache

/-- One call at `now`; only a read answers. -/
def call (c : LruCache) (now : Nat) : CacheCall → Option CachedValue × LruCache
  | .get key => c.get key now
  | .put key value => (none, c.put key value now)
  | .remove key => (none, c.remove key)
  | .clear => (none, c.clear)

/-- Calls in order, each at its time: the answers and the cache they leave. -/
def run (c : LruCache) : List (Nat × CacheCall) → List (Option CachedValue) × LruCache
  | [] => ([], c)
  | call :: rest =>
    let step := c.call call.1 call.2
    let after := step.2.run rest
    (step.1 :: after.1, after.2)

/-- The entries and counts of a cache, as a reference list. -/
def recency (c : LruCache) : RecencyList := ⟨c.entries, c.hits, c.misses⟩

/-! ## Entries by key -/

section Entries

variable {es : List (String × CacheSlot)} {key : String}

theorem find?_eq_lookup (es : List (String × CacheSlot)) (key : String) :
    es.find? (·.1 == key) = (es.lookup key).map (key, ·) := by
  induction es with
  | nil => rfl
  | cons p es ih =>
    obtain ⟨k, slot⟩ := p
    by_cases hk : k = key
    · subst hk
      rw [List.find?_cons_of_pos (by simp), List.lookup_cons_self]
      rfl
    · have hk' : (key == k) = false := beq_eq_false_iff_ne.2 (Ne.symm hk)
      rw [List.find?_cons_of_neg (by simpa using hk), List.lookup_cons, hk', ih]

/-- With each key once, filtering a key's entries out removes its one entry. -/
theorem without_eq_drop (hnodup : (es.map (·.1)).Nodup) : without es key = RecencyList.drop es key := by
  induction es with
  | nil => rfl
  | cons p es ih =>
    have hp : p.1 ∉ es.map (·.1) := (List.nodup_cons.1 hnodup).1
    by_cases hk : p.1 = key
    · -- the head is the key's entry, and no other entry has the key
      have hrest : ∀ q ∈ es, q.1 ≠ key := fun q hq hq' =>
        hp (hk ▸ hq' ▸ List.mem_map_of_mem hq)
      have hkeep : ∀ q ∈ es, (q.1 != key) = true := fun q hq => by simpa using hrest q hq
      simp [without, RecencyList.drop, hk, List.filter_eq_self.2 hkeep]
    · have := ih (List.nodup_cons.1 hnodup).2
      simp_all [without, RecencyList.drop]

theorem keys_without_sublist : ((without es key).map (·.1)).Sublist (es.map (·.1)) :=
  (List.filter_sublist).map _

theorem not_mem_keys_without : key ∉ (without es key).map (·.1) := by
  simp [without]

theorem length_without_of_mem (hnodup : (es.map (·.1)).Nodup) (hk : key ∈ es.map (·.1)) :
    (without es key).length + 1 = es.length := by
  obtain ⟨p, hp, rfl⟩ := List.mem_map.1 hk
  have hpos : 0 < es.length := List.length_pos_of_mem hp
  rw [without_eq_drop hnodup, RecencyList.drop, List.length_eraseP_of_mem hp (by simp)]
  omega

end Entries

/-! ## What every cache keeps -/

/-- Each key has one entry, there are no more entries than the capacity, and the capacity is
at least one. -/
structure Bounded (c : LruCache) : Prop where
  nodup : (c.entries.map (·.1)).Nodup
  length_le : c.entries.length ≤ c.capacity
  capacity_pos : 0 < c.capacity

/-- No entry was stored after `now`. -/
def StoredBy (c : LruCache) (now : Nat) : Prop := ∀ p ∈ c.entries, p.2.storedAt ≤ now

variable {c : LruCache} {now : Nat}

theorem bounded_new (name : String) (capacity : Nat) (ttl : Option Nat) :
    Bounded (new name capacity ttl) :=
  ⟨List.nodup_nil, Nat.zero_le _, Nat.lt_of_lt_of_le Nat.one_pos (Nat.le_max_right _ _)⟩

theorem storedBy_new (name : String) (capacity : Nat) (ttl : Option Nat) (now : Nat) :
    StoredBy (new name capacity ttl) now := by
  simp [StoredBy, new]

@[simp] theorem capacity_call (op : CacheCall) : (c.call now op).2.capacity = c.capacity := by
  cases op <;> simp [call, put, remove, clear]

@[simp] theorem ttl_call (op : CacheCall) : (c.call now op).2.ttl = c.ttl := by
  cases op <;> simp [call, put, remove, clear]

/-- An entry after a call was an entry before it, or the entry a write made. -/
theorem mem_call {p : String × CacheSlot} (op : CacheCall) (hp : p ∈ (c.call now op).2.entries) :
    p ∈ c.entries ∨ ∃ key value, op = .put key value ∧ p = (key, ⟨value, now⟩) := by
  cases op with
  | get key => exact .inl (mem_get hp)
  | put key value =>
    rcases mem_put hp with rfl | ⟨hp, -⟩
    · exact .inr ⟨key, value, rfl, rfl⟩
    · exact .inl hp
  | remove key => exact .inl (mem_remove hp).1
  | clear => simp [call] at hp

theorem StoredBy.call {t : Nat} (h : StoredBy c now) (ht : t ≤ now) (op : CacheCall) :
    StoredBy (c.call t op).2 now := by
  intro p hp
  rcases mem_call op hp with hp | ⟨key, value, -, rfl⟩
  · exact h p hp
  · exact ht

theorem Bounded.put (h : Bounded c) (key : String) (value : CachedValue) :
    Bounded (c.put key value now) := by
  refine ⟨?_, ?_, h.capacity_pos⟩
  · -- a prefix of the written entry followed by entries of other keys
    have hcons : (((key, (⟨value, now⟩ : CacheSlot)) :: without c.entries key).map (·.1)).Nodup :=
      List.nodup_cons.2 ⟨not_mem_keys_without, h.nodup.sublist keys_without_sublist⟩
    exact hcons.sublist ((List.take_sublist _ _).map _)
  · exact List.length_take_le _ _

theorem Bounded.get (h : Bounded c) (key : String) : Bounded (c.get key now).2 := by
  unfold LruCache.get
  split
  · next k slot hfind =>
    have hk : k = key := by simpa using List.find?_some hfind
    have hmem : key ∈ c.entries.map (·.1) :=
      hk ▸ List.mem_map_of_mem (f := (·.1)) (List.mem_of_find?_eq_some hfind)
    have hlen := length_without_of_mem h.nodup hmem
    have hle := h.length_le
    split
    · exact ⟨h.nodup.sublist keys_without_sublist, by simp; omega, h.capacity_pos⟩
    · -- the entry read moves to the front, in place of its old entry
      exact ⟨List.nodup_cons.2 ⟨not_mem_keys_without, h.nodup.sublist keys_without_sublist⟩,
        by simp; omega, h.capacity_pos⟩
  · exact ⟨h.nodup, h.length_le, h.capacity_pos⟩

theorem Bounded.call (h : Bounded c) (op : CacheCall) : Bounded (c.call now op).2 := by
  cases op with
  | get key => exact h.get key
  | put key value => exact h.put key value
  | remove key =>
    exact ⟨h.nodup.sublist keys_without_sublist,
      Nat.le_trans (List.length_filter_le _ _) h.length_le, h.capacity_pos⟩
  | clear => exact ⟨List.nodup_nil, Nat.zero_le _, h.capacity_pos⟩

/-! ## One call against the reference -/

/-- For an entry stored by the time of the read, the cache's age test is the reference's,
negated. -/
theorem expired_eq_not_young {slot : CacheSlot} (hle : slot.storedAt ≤ now) :
    c.expired slot now = !RecencyList.young c.ttl slot now := by
  cases hT : c.ttl with
  | none => simp [expired, RecencyList.young, hT]
  | some t =>
    simp only [expired, RecencyList.young, hT, Option.any_some, Option.all_some]
    by_cases hage : now - slot.storedAt ≥ t
    · have : ¬ now < slot.storedAt + t := by omega
      simp [hage, this]
    · have : now < slot.storedAt + t := by omega
      simp [hage, this]

/-- A write of a key with an entry replaces it; of a new key, it grows the list, dropping
the last entry when the list was full. -/
theorem put_recency (h : Bounded c) (key : String) (value : CachedValue) :
    (c.put key value now).recency = c.recency.put c.capacity key value now := by
  have hle := h.length_le
  dsimp only [recency, RecencyList.put]
  split
  · next hk =>
    -- the old entry goes, so the list keeps its length
    obtain ⟨p, hp, hpk⟩ := List.lookup_isSome_iff.1 hk
    have hmem : key ∈ c.entries.map (·.1) := (beq_iff_eq.1 hpk) ▸ List.mem_map_of_mem hp
    have hlen := length_without_of_mem h.nodup hmem
    simp only [LruCache.put, without_eq_drop h.nodup] at hlen ⊢
    rw [List.take_of_length_le (by simp; omega)]
  · next hk =>
    have hnone : c.entries.lookup key = none := Option.not_isSome_iff_eq_none.1 hk
    have hwithout : without c.entries key = c.entries := by
      refine List.filter_eq_self.2 fun p hp => ?_
      have hne : key ≠ p.1 := by simpa using List.lookup_eq_none_iff.1 hnone p hp
      simpa using Ne.symm hne
    simp only [LruCache.put, hwithout]
    split
    · rw [List.take_of_length_le (by simp; omega)]
    · -- the list is full: cutting at the capacity drops its last entry
      next hroom =>
      have hfull : c.entries.length = c.capacity := Nat.le_antisymm hle (by omega)
      obtain ⟨n, hn⟩ : ∃ n, c.capacity = n + 1 := ⟨c.capacity - 1, by have := h.capacity_pos; omega⟩
      rw [List.dropLast_eq_take, hfull, hn, List.take_succ_cons, Nat.add_sub_cancel]

theorem get_recency (h : Bounded c) (hs : StoredBy c now) (key : String) :
    (c.get key now).1 = (c.recency.get c.ttl key now).1 ∧
      (c.get key now).2.recency = (c.recency.get c.ttl key now).2 := by
  simp only [LruCache.get, RecencyList.get, recency, find?_eq_lookup, without_eq_drop h.nodup]
  cases hl : c.entries.lookup key with
  | none => exact ⟨rfl, rfl⟩
  | some slot =>
    have hmem : (key, slot) ∈ c.entries := List.mem_of_find?_eq_some (p := (·.1 == key))
      (by rw [find?_eq_lookup, hl]; rfl)
    simp only [Option.map_some]
    rw [expired_eq_not_young (hs _ hmem)]
    cases RecencyList.young c.ttl slot now <;> exact ⟨rfl, rfl⟩

theorem call_recency (h : Bounded c) (hs : StoredBy c now) (op : CacheCall) :
    (c.call now op).1 = (c.recency.call c.capacity c.ttl now op).1 ∧
      (c.call now op).2.recency = (c.recency.call c.capacity c.ttl now op).2 := by
  cases op with
  | get key => exact get_recency h hs key
  | put key value => exact ⟨rfl, put_recency h key value⟩
  | remove key =>
    exact ⟨rfl, by simp [LruCache.call, remove, recency, RecencyList.call, without_eq_drop h.nodup]⟩
  | clear => exact ⟨rfl, rfl⟩

/-! ## Runs -/

theorem run_cons (call : Nat × CacheCall) (rest : List (Nat × CacheCall)) :
    c.run (call :: rest) =
      ((c.call call.1 call.2).1 :: ((c.call call.1 call.2).2.run rest).1,
        ((c.call call.1 call.2).2.run rest).2) := rfl

theorem run_append (calls more : List (Nat × CacheCall)) :
    c.run (calls ++ more) =
      ((c.run calls).1 ++ ((c.run calls).2.run more).1, ((c.run calls).2.run more).2) := by
  induction calls generalizing c with
  | nil => rfl
  | cons call rest ih => simp [run_cons, ih]

@[simp] theorem length_run (calls : List (Nat × CacheCall)) : (c.run calls).1.length = calls.length := by
  induction calls generalizing c with
  | nil => rfl
  | cons call rest ih => simp [run_cons, ih]

/-- From a cache that keeps its shape and stored nothing after the first call, a run in time
order answers as the reference does and leaves the reference's entries and counts. -/
theorem run_recency (calls : List (Nat × CacheCall)) (h : Bounded c)
    (hs : ∀ q ∈ calls, StoredBy c q.1) (htime : InTimeOrder calls) :
    (c.run calls).1 = (c.recency.run c.capacity c.ttl calls).1 ∧
      (c.run calls).2.recency = (c.recency.run c.capacity c.ttl calls).2 := by
  induction calls generalizing c with
  | nil => exact ⟨rfl, rfl⟩
  | cons call rest ih =>
    obtain ⟨hrest, hafter⟩ := htime.cons
    obtain ⟨hans, hstate⟩ := call_recency h (hs call List.mem_cons_self) call.2
    -- what the call stored is no later than the calls after it
    have hs' : ∀ q ∈ rest, StoredBy (c.call call.1 call.2).2 q.1 := fun q hq =>
      (hs q (List.mem_cons_of_mem _ hq)).call (hafter q hq) call.2
    obtain ⟨ih₁, ih₂⟩ := ih (h.call call.2) hs' hrest
    simp only [capacity_call, ttl_call] at ih₁ ih₂
    simp only [run_cons, RecencyList.run, hans, ← hstate, ih₁, ih₂, and_self]

/-- **The cache is its reference.** A cache made by `new` answers every run in time order as
the reference list of capacity `max 1 capacity` does, and ends with its entries and counts. -/
theorem run_new_eq_recency (name : String) (capacity : Nat) (ttl : Option Nat)
    (calls : List (Nat × CacheCall)) (htime : InTimeOrder calls) :
    ((new name capacity ttl).run calls).1 = (RecencyList.run (max 1 capacity) ttl {} calls).1 ∧
      ((new name capacity ttl).run calls).2.recency = (RecencyList.run (max 1 capacity) ttl {} calls).2 := by
  have h := run_recency calls (bounded_new name capacity ttl)
    (fun q _ => storedBy_new name capacity ttl q.1) htime
  simpa [new, recency, Nat.max_comm] using h

/-! ## Consequences -/

theorem bounded_run (calls : List (Nat × CacheCall)) (h : Bounded c) : Bounded (c.run calls).2 := by
  induction calls generalizing c with
  | nil => exact h
  | cons call rest ih => exact ih (h.call call.2)

@[simp] theorem ttl_run (calls : List (Nat × CacheCall)) : (c.run calls).2.ttl = c.ttl := by
  induction calls generalizing c with
  | nil => rfl
  | cons call rest ih => simp [run_cons, ih]

@[simp] theorem capacity_run (calls : List (Nat × CacheCall)) : (c.run calls).2.capacity = c.capacity := by
  induction calls generalizing c with
  | nil => rfl
  | cons call rest ih => simp [run_cons, ih]

/-- A cache made by `new` never holds more than `max 1 capacity` entries. -/
theorem size_run_le (name : String) (capacity : Nat) (ttl : Option Nat) (calls : List (Nat × CacheCall)) :
    ((new name capacity ttl).run calls).2.stats.size ≤ max 1 capacity := by
  have h := (bounded_run calls (bounded_new name capacity ttl)).length_le
  simpa [stats, new, Nat.max_comm] using h

theorem hits_add_misses_call (op : CacheCall) :
    (c.call now op).2.hits + (c.call now op).2.misses = c.hits + c.misses + if op.isGet then 1 else 0 := by
  cases op with
  | get key =>
    simp only [call, get, CacheCall.isGet, if_true]
    split
    · split <;> simp <;> omega
    · simp; omega
  | put key value => simp [call, put, CacheCall.isGet]
  | remove key => simp [call, remove, CacheCall.isGet]
  | clear => simp [call, clear, CacheCall.isGet]

/-- Every read counts once, as a hit or as a miss. -/
theorem hits_add_misses_run (calls : List (Nat × CacheCall)) :
    (c.run calls).2.hits + (c.run calls).2.misses = c.hits + c.misses + (calls.filter (·.2.isGet)).length := by
  induction calls generalizing c with
  | nil => simp [run]
  | cons call rest ih =>
    rw [run_cons, ih, hits_add_misses_call]
    by_cases hg : call.2.isGet
    · simp [hg]
      omega
    · simp [hg]

/-! ## What a read answers -/

/-- A read answers with the value of an entry of the key that has not lived its time. -/
theorem get_eq_some_live {key : String} {v : CachedValue} (h : (c.get key now).1 = some v) :
    ∃ slot, (key, slot) ∈ c.entries ∧ slot.value = v ∧ c.expired slot now = false := by
  unfold LruCache.get at h
  split at h
  · next k slot hfind =>
    have hk : k = key := by simpa using List.find?_some hfind
    split at h
    · cases h
    · next hlive =>
      cases h
      exact ⟨slot, hk ▸ List.mem_of_find?_eq_some hfind, rfl, by simpa using hlive⟩
  · cases h

/-- Each entry holds the value and the time of the last write of its key among `calls`. -/
def Written (calls : List (Nat × CacheCall)) (c : LruCache) : Prop :=
  ∀ p ∈ c.entries, lastPut calls p.1 = some (p.2.value, p.2.storedAt)

theorem lastPut_append_put (calls : List (Nat × CacheCall)) (now : Nat) (key : String)
    (value : CachedValue) (k : String) :
    lastPut (calls ++ [(now, .put key value)]) k = if key = k then some (value, now) else lastPut calls k := by
  simp [lastPut, List.foldl_append]

theorem lastPut_append_of_ne_put (calls : List (Nat × CacheCall)) (now : Nat) {op : CacheCall}
    (hop : ∀ key value, op ≠ .put key value) (k : String) :
    lastPut (calls ++ [(now, op)]) k = lastPut calls k := by
  cases op with
  | put key value => exact absurd rfl (hop key value)
  | _ => simp [lastPut, List.foldl_append]

theorem Written.call {calls : List (Nat × CacheCall)} (h : Written calls c) (now : Nat) (op : CacheCall) :
    Written (calls ++ [(now, op)]) (c.call now op).2 := by
  intro p hp
  cases op with
  | put key value =>
    -- a write keeps the entries of other keys, and its own entry is the key's last write
    rcases mem_put hp with rfl | ⟨hold, hne⟩
    · simp [lastPut_append_put]
    · rw [lastPut_append_put, if_neg (Ne.symm hne)]
      exact h p hold
  | get key =>
    rw [lastPut_append_of_ne_put _ _ (by simp)]
    exact h p (mem_get hp)
  | remove key =>
    rw [lastPut_append_of_ne_put _ _ (by simp)]
    exact h p (mem_remove hp).1
  | clear => simp [LruCache.call] at hp

theorem Written.run {pre : List (Nat × CacheCall)} (h : Written pre c) (calls : List (Nat × CacheCall)) :
    Written (pre ++ calls) (c.run calls).2 := by
  induction calls generalizing pre c with
  | nil =>
    rw [List.append_nil]
    exact h
  | cons call rest ih =>
    rw [run_cons, ← List.singleton_append, ← List.append_assoc]
    exact ih (h.call call.1 call.2)

theorem storedBy_run (calls : List (Nat × CacheCall)) (hs : StoredBy c now) (htime : ∀ q ∈ calls, q.1 ≤ now) :
    StoredBy (c.run calls).2 now := by
  induction calls generalizing c with
  | nil => exact hs
  | cons call rest ih =>
    exact ih (hs.call (htime call List.mem_cons_self) call.2) fun q hq => htime q (List.mem_cons_of_mem _ hq)

/-- **No answer outlives its time.** After any history in time order, a read of a key answers
only the value of the key's last write, made no later than the read and less than the time
to live before it. -/
theorem get_run_eq_some (name : String) (capacity : Nat) (ttl : Option Nat)
    (calls : List (Nat × CacheCall)) (key : String) (now : Nat) (v : CachedValue)
    (htime : ∀ q ∈ calls, q.1 ≤ now) (h : (((new name capacity ttl).run calls).2.get key now).1 = some v) :
    ∃ t, lastPut calls key = some (v, t) ∧ t ≤ now ∧ ∀ T ∈ ttl, now - t < T := by
  obtain ⟨slot, hmem, rfl, hlive⟩ := get_eq_some_live h
  have hwritten : Written calls ((new name capacity ttl).run calls).2 :=
    (show Written [] (new name capacity ttl) by simp [Written, new]).run calls
  refine ⟨slot.storedAt, hwritten _ hmem, storedBy_run calls (storedBy_new name capacity ttl now) htime _ hmem, ?_⟩
  intro T hT
  -- the read found the entry alive: its age is below the time to live
  rw [Option.mem_def] at hT
  simpa [expired, new, hT] using hlive

/-- The answer of a call in a run is what the call answers after the calls before it. -/
theorem getElem?_run_of_eq_append {calls pre post : List (Nat × CacheCall)} {call : Nat × CacheCall}
    (hcalls : calls = pre ++ call :: post) :
    (c.run calls).1[pre.length]? = some ((c.run pre).2.call call.1 call.2).1 := by
  subst hcalls
  rw [run_append, run_cons, List.getElem?_append_right (by simp)]
  simp

/-- **The cache behaves as its reference list.** A cache made by `new` and called in time
order answers every call as a recency list of `max 1 capacity` entries does and ends with its
entries and counts; so it never holds more than `max 1 capacity` entries, its hits and misses
add up to the reads made, and a read answers only the value of the key's last write, made less
than the time to live before. -/
theorem behaves_as_recency_list (name : String) (capacity : Nat) (ttl : Option Nat)
    (calls : List (Nat × CacheCall)) (htime : InTimeOrder calls) :
    ((new name capacity ttl).run calls).1 = (RecencyList.run (max 1 capacity) ttl {} calls).1 ∧
    ((new name capacity ttl).run calls).2.recency = (RecencyList.run (max 1 capacity) ttl {} calls).2 ∧
    ((new name capacity ttl).run calls).2.stats.size ≤ max 1 capacity ∧
    ((new name capacity ttl).run calls).2.stats.hits + ((new name capacity ttl).run calls).2.stats.misses =
      (calls.filter (·.2.isGet)).length ∧
    ∀ pre now key post v, calls = pre ++ (now, .get key) :: post →
      ((new name capacity ttl).run calls).1[pre.length]? = some (some v) →
      ∃ t, lastPut pre key = some (v, t) ∧ t ≤ now ∧ ∀ T ∈ ttl, now - t < T := by
  obtain ⟨hanswers, hstate⟩ := run_new_eq_recency name capacity ttl calls htime
  refine ⟨hanswers, hstate, size_run_le name capacity ttl calls, ?_, ?_⟩
  · simpa [stats, new] using hits_add_misses_run (c := new name capacity ttl) calls
  · intro pre now key post v hcalls hv
    rw [getElem?_run_of_eq_append hcalls, Option.some_inj] at hv
    exact get_run_eq_some name capacity ttl pre key now v ((hcalls ▸ htime).le_of_mem_before) hv

/-- A cache asked for no room holds one entry: of two writes only the second is read back. -/
theorem behaves_as_recency_list_of_zero_capacity :
    InTimeOrder [(0, .put "a" (.count 1)), (1, .put "b" (.count 2)), (2, .get "a"), (3, .get "b")] ∧
    ((new "t" 0 none).run [(0, .put "a" (.count 1)), (1, .put "b" (.count 2)), (2, .get "a"), (3, .get "b")]).1 =
      (RecencyList.run (max 1 0) none {}
        [(0, .put "a" (.count 1)), (1, .put "b" (.count 2)), (2, .get "a"), (3, .get "b")]).1 ∧
    ((new "t" 0 none).run [(0, .put "a" (.count 1)), (1, .put "b" (.count 2)), (2, .get "a"), (3, .get "b")]).2.recency =
      (RecencyList.run (max 1 0) none {}
        [(0, .put "a" (.count 1)), (1, .put "b" (.count 2)), (2, .get "a"), (3, .get "b")]).2 ∧
    ((new "t" 0 none).run [(0, .put "a" (.count 1)), (1, .put "b" (.count 2)), (2, .get "a"),
      (3, .get "b")]).2.stats.size ≤ max 1 0 ∧
    ((new "t" 0 none).run [(0, .put "a" (.count 1)), (1, .put "b" (.count 2)), (2, .get "a"), (3, .get "b")]).2.stats.hits +
      ((new "t" 0 none).run [(0, .put "a" (.count 1)), (1, .put "b" (.count 2)), (2, .get "a"),
        (3, .get "b")]).2.stats.misses =
      ([(0, .put "a" (.count 1)), (1, .put "b" (.count 2)), (2, .get "a"), (3, .get "b")].filter
        (·.2.isGet) : List (Nat × CacheCall)).length ∧
    ∀ pre now key post v,
      [(0, .put "a" (.count 1)), (1, .put "b" (.count 2)), (2, .get "a"), (3, .get "b")] =
        pre ++ (now, .get key) :: post →
      ((new "t" 0 none).run [(0, .put "a" (.count 1)), (1, .put "b" (.count 2)), (2, .get "a"),
        (3, .get "b")]).1[pre.length]? = some (some v) →
      ∃ t, lastPut pre key = some (v, t) ∧ t ≤ now ∧ ∀ T ∈ (none : Option Nat), now - t < T :=
  ⟨by decide, behaves_as_recency_list "t" 0 none _ (by decide)⟩

end LruCache

end TagStore
