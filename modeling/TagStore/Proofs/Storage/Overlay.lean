import TagStore.Storage.Engine
import TagStore.Proofs.Run
import TagStore.Proofs.Cache.Key
import TagStore.Proofs.Cache.Lru
/-!
# Proofs.Storage.Overlay

A cache layer in front of a backend answers configuration, metadata and documents by id as
the backend does, as long as every copy it keeps is what the backend answers now. That is
`Coherent`: every entry of the layer's cache `Fits` the backend. The layer keeps copies of
three kinds of values (`Held`), each under its own key, and the keys of two held values, or
of a held value and an index, tag, query or count, never coincide (`Held.key_inj`).

A call of the backend may change what it answers; the layer must then drop or refresh the
copies concerned. A call that changes no answer but those at the keys `K` is `Stable` off
`K`; a cache coherent before it is coherent afterwards off `K` (`CoherentOff`), and dropping
or rewriting the copies at `K` makes it coherent again.

This module covers an engine with one layer, with a cache of its own or one whose every call
fails (`Engine.Layered`); the layer's cache, if any, is `Engine.cache?`.
-/

namespace TagStore

/-! ## Held values and their keys -/

/-- A value a cache layer keeps a copy of: a dataset's configuration, its metadata or one of
its documents. -/
inductive Held where
  | config (dataset : String)
  | metadata (dataset : String)
  | document (dataset id : String)

namespace Held

/-- The cache key of a held value. -/
def key : Held → String
  | .config d => Cache.configKey d
  | .metadata d => Cache.metadataKey d
  | .document d id => Cache.readKey d id

theorem key_inj {x y : Held} (h : x.key = y.key) : x = y := by
  cases x <;> cases y <;> obtain ⟨hd, ho, hp⟩ := Cache.key_inj h <;> simp_all

theorem indexKey_ne (d : String) (x : Held) : Cache.indexKey d ≠ x.key := by
  cases x <;> exact Cache.key_ne_of_operation (by decide)

theorem tagKey_ne (d tag : String) (x : Held) : Cache.tagKey d tag ≠ x.key := by
  cases x <;> exact Cache.key_ne_of_operation (by decide)

theorem queryKey_ne (d : String) (q : QuerySpec) (x : Held) : Cache.queryKey d q ≠ x.key := by
  cases x <;> exact Cache.key_ne_of_operation (by decide)

theorem countKey_ne (d : String) (q : QuerySpec) (x : Held) : Cache.countKey d q ≠ x.key := by
  cases x <;> exact Cache.key_ne_of_operation (by decide)

/-- A copy of a held value fits when it is what the backend answers for the value. -/
def Fits (h : Host) (b : Backend) : Held → CachedValue → Prop
  | .config d, v => ∃ doc, v = .document doc ∧ ((Backend.config d).exec h b).1 = .ok (some doc)
  | .metadata d, v => ∃ doc, v = .document doc ∧ ((Backend.metadata d).exec h b).1 = .ok (some doc)
  | .document d id, v => ∃ doc, v = .document doc ∧ ((Backend.read d [id]).exec h b).1 = .ok [doc]

end Held

/-- A cache entry fits the backend when, under the key of a held value that the layer answers
for (`N`), it is a copy that fits. -/
def Fits (N : Held → Prop) (h : Host) (b : Backend) (key : String) (v : CachedValue) : Prop :=
  ∀ x : Held, x.key = key → N x → x.Fits h b v

section Fits

variable {N : Held → Prop} {h : Host} {b : Backend}

/-- An entry under a key that holds no held value fits whatever the backend. -/
theorem fits_of_ne {key : String} (hkey : ∀ x : Held, key ≠ x.key) (v : CachedValue) : Fits N h b key v :=
  fun x hx _ => absurd hx.symm (hkey x)

/-- A copy of a held value that fits is an entry that fits. -/
theorem Held.fits_key {x : Held} {v : CachedValue} (hv : x.Fits h b v) : TagStore.Fits N h b x.key v :=
  fun _ hy _ => Held.key_inj hy ▸ hv

end Fits

/-- A change of host and backend that keeps every fit of a held value of `N` whose key is not
in `K`. -/
def Stable (N : Held → Prop) (K : String → Prop) (h : Host) (b : Backend) (h' : Host) (b' : Backend) : Prop :=
  ∀ x : Held, N x → ¬ K x.key → ∀ v, x.Fits h b v → x.Fits h' b' v

namespace Engine

variable {α : Type} {h : Host} {e : Engine}

/-- The cache of the engine's layer, when the engine has one layer with a cache of its own. -/
def cache? (e : Engine) : Option LruCache :=
  match e.layers with
  | [.own c] => some c
  | _ => none

/-- Change the cache of the engine's layer, if it has one. -/
def mapCache (f : LruCache → LruCache) (e : Engine) : Engine :=
  match e.layers with
  | [.own c] => { e with layers := [.own (f c)] }
  | _ => e

/-- One cache layer: a cache of its own, or one whose every call fails. -/
def Layered (e : Engine) : Prop := e.layers = [.passThrough] ∨ ∃ c, e.layers = [.own c]

@[simp] theorem backend_mapCache (f : LruCache → LruCache) (e : Engine) :
    (e.mapCache f).backend = e.backend := by
  unfold mapCache
  split <;> rfl

@[simp] theorem cache?_mapCache (f : LruCache → LruCache) (e : Engine) :
    (e.mapCache f).cache? = e.cache?.map f := by
  obtain ⟨b, layers⟩ := e
  rcases layers with _ | ⟨_ | c | _, _ | ⟨_, _⟩⟩ <;> rfl

@[simp] theorem layered_mapCache (f : LruCache → LruCache) (hl : e.Layered) : (e.mapCache f).Layered := by
  rcases hl with hl | ⟨c, hl⟩ <;> simp [Layered, mapCache, hl]

@[simp] theorem cache?_withBackend (b : Backend) : { e with backend := b }.cache? = e.cache? := rfl

@[simp] theorem layered_withBackend (b : Backend) (hl : e.Layered) : { e with backend := b }.Layered := hl

theorem exec_withCache (hl : e.Layered) (f : LruCache → α × LruCache) :
    (withCache 0 f).exec h e = (.ok (e.cache?.map fun c => (f c).1), h, e.mapCache fun c => (f c).2) := by
  rcases hl with hl | ⟨c, hl⟩ <;> simp [withCache, cache?, mapCache, hl]

@[simp] theorem exec_lookup (hl : e.Layered) (key : String) :
    (lookup 0 key).exec h e =
      (.ok (e.cache?.bind fun c => (c.get key cacheClock).1), h, e.mapCache fun c => (c.get key cacheClock).2) := by
  simp only [lookup, Run.exec_bind, exec_withCache hl, Run.exec_pure]
  cases e.cache? <;> rfl

@[simp] theorem exec_keep (hl : e.Layered) (key : String) (v : CachedValue) :
    (keep 0 key v).exec h e = (.ok (), h, e.mapCache (·.put key v cacheClock)) := by
  simp [keep, exec_withCache hl]

@[simp] theorem exec_evict (hl : e.Layered) (key : String) :
    (evict 0 key).exec h e = (.ok (), h, e.mapCache (·.remove key)) := by
  simp [evict, exec_withCache hl]

@[simp] theorem exec_clearCache (hl : e.Layered) :
    (clearCache 0).exec h e = (.ok (), h, e.mapCache LruCache.clear) := by
  simp [clearCache, exec_withCache hl]

@[simp] theorem exec_onBackend (m : Run Backend α) :
    (onBackend m).exec h e =
      ((m.exec h e.backend).1, (m.exec h e.backend).2.1, { e with backend := (m.exec h e.backend).2.2 }) := by
  simp [onBackend, Run.focus]

/-- An operation through one layer is that layer's wrap around the backend's. -/
theorem exec_through {β : Type} (hl : e.Layered) (wrap : Nat → (β → Run Engine α) → β → Run Engine α)
    (base : β → Run Engine α) (b : β) : (through wrap base b).exec h e = (wrap 0 base b).exec h e := by
  have hlen : e.layers.length = 1 := by rcases hl with hl | ⟨c, hl⟩ <;> simp [hl]
  simp [through, hlen]

end Engine

namespace Backend

variable {α : Type} (onMemory : Run MemoryBackend α) (onKv : Run KvBackend α)
  (onSnapshot : Run SnapshotBackend α) (h : Host)

end Backend

/-! ## Coherent caches -/

section Coherence

variable {N : Held → Prop} {h h' : Host} {e : Engine} {K K' : String → Prop}

/-- Every entry of the engine's cache outside the keys `K` fits the backend. -/
def CoherentOff (N : Held → Prop) (K : String → Prop) (h : Host) (e : Engine) : Prop :=
  ∀ c, e.cache? = some c → ∀ p ∈ c.entries, ¬ K p.1 → Fits N h e.backend p.1 p.2.value

/-- Every entry of the engine's cache fits the backend. -/
def Coherent (N : Held → Prop) (h : Host) (e : Engine) : Prop := CoherentOff N (fun _ => False) h e

/-- The engine's cache holds no copy of a held value. -/
def HoldsNone (e : Engine) : Prop :=
  ∀ c, e.cache? = some c → ∀ p ∈ c.entries, ∀ x : Held, p.1 ≠ x.key

theorem CoherentOff.mono (hc : CoherentOff N K h e) (hK : ∀ key, K key → K' key) : CoherentOff N K' h e :=
  fun c hcache p hp hK' => hc c hcache p hp fun hk => hK' (hK _ hk)

theorem HoldsNone.coherent (hn : HoldsNone e) : Coherent N h e :=
  fun c hcache p hp _ => fits_of_ne (hn c hcache p hp) _

/-- A change of the cache keeps it coherent off `K'` when each entry it leaves outside `K'`
fits or was an entry outside `K`. -/
theorem CoherentOff.mapCache (hc : CoherentOff N K h e) {f : LruCache → LruCache}
    (hf : ∀ c, ∀ p ∈ (f c).entries, ¬ K' p.1 → (p ∈ c.entries ∧ ¬ K p.1) ∨ Fits N h e.backend p.1 p.2.value) :
    CoherentOff N K' h (e.mapCache f) := by
  intro c' hcache p hp hK'
  rw [Engine.backend_mapCache]
  rw [Engine.cache?_mapCache, Option.map_eq_some_iff] at hcache
  obtain ⟨c, hc', rfl⟩ := hcache
  rcases hf c p hp hK' with ⟨hold, hK⟩ | hfits
  · exact hc c hc' p hold hK
  · exact hfits

/-- A read of the cache keeps it coherent. -/
theorem CoherentOff.get (hc : CoherentOff N K h e) (key : String) (now : Nat) :
    CoherentOff N K h (e.mapCache fun c => (c.get key now).2) :=
  hc.mapCache fun _ _ hp hK => .inl ⟨LruCache.mem_get hp, hK⟩

/-- What a coherent cache answers for a key outside `K` fits the backend. -/
theorem CoherentOff.fits_of_get (hc : CoherentOff N K h e) {key : String} {now : Nat} {v : CachedValue}
    (hget : (e.cache?.bind fun c => (c.get key now).1) = some v) (hkey : ¬ K key) :
    Fits N h e.backend key v := by
  rw [Option.bind_eq_some_iff] at hget
  obtain ⟨c, hcache, hv⟩ := hget
  obtain ⟨slot, hslot, rfl⟩ := LruCache.get_eq_some hv
  exact hc c hcache _ hslot hkey

/-- A write to the cache keeps it coherent off `K'` when `K'` takes in `K` but for the key
written, and the value written fits unless its key is in `K'`. -/
theorem CoherentOff.put (hc : CoherentOff N K h e) {key : String} {v : CachedValue} (now : Nat)
    (hK : ∀ k, k ≠ key → K k → K' k) (hv : ¬ K' key → Fits N h e.backend key v) :
    CoherentOff N K' h (e.mapCache (·.put key v now)) := by
  refine hc.mapCache fun c p hp hK' => ?_
  rcases LruCache.mem_put hp with rfl | ⟨hold, hne⟩
  · exact .inr (hv hK')
  · exact .inl ⟨hold, fun hk => hK' (hK _ hne hk)⟩

/-- Dropping a key keeps the cache coherent off `K'` when `K'` takes in `K` but for that key. -/
theorem CoherentOff.remove (hc : CoherentOff N K h e) {key : String} (hK : ∀ k, k ≠ key → K k → K' k) :
    CoherentOff N K' h (e.mapCache (·.remove key)) := by
  refine hc.mapCache fun c p hp hK' => ?_
  obtain ⟨hold, hne⟩ := LruCache.mem_remove hp
  exact .inl ⟨hold, fun hk => hK' (hK _ hne hk)⟩

theorem holdsNone_clear (e : Engine) : HoldsNone (e.mapCache LruCache.clear) := by
  intro c hcache p hp
  rw [Engine.cache?_mapCache, Option.map_eq_some_iff] at hcache
  obtain ⟨c, _, rfl⟩ := hcache
  simp at hp

/-- A call of the backend stable off `K'` keeps the cache coherent off `K` and `K'`. -/
theorem CoherentOff.backend (hc : CoherentOff N K h e) {h' : Host} {b' : Backend}
    (hs : Stable N K' h e.backend h' b') :
    CoherentOff N (fun k => K k ∨ K' k) h' { e with backend := b' } := by
  intro c hcache p hp hK x hx hN
  exact hs x hN (fun hk => hK (.inr (hx ▸ hk))) _ (hc c hcache p hp (fun hk => hK (.inl hk)) x hx hN)

/-- A change of the cache that keeps only entries it had keeps it free of held values. -/
theorem HoldsNone.mapCache {e : Engine} (hn : HoldsNone e) {f : LruCache → LruCache}
    (hf : ∀ c, ∀ p ∈ (f c).entries, p ∈ c.entries) : HoldsNone (e.mapCache f) := by
  intro c' hcache p hp
  rw [Engine.cache?_mapCache, Option.map_eq_some_iff] at hcache
  obtain ⟨c, hc', rfl⟩ := hcache
  exact hn c hc' p (hf c p hp)

theorem HoldsNone.get {e : Engine} (hn : HoldsNone e) (key : String) (now : Nat) :
    HoldsNone (e.mapCache fun c => (c.get key now).2) :=
  hn.mapCache fun _ _ hp => LruCache.mem_get hp

end Coherence

/-! ## Calls -/

namespace Engine

/-- A call of an engine's API. -/
inductive Call where
  | name
  | openStore
  | closeStore
  | create (ds : String)
  | hasDataset (ds : String)
  | config (ds : String)
  | setConfig (ds : String) (d : Document)
  | metadata (ds : String)
  | setMetadata (ds : String) (d : Document)
  | index (ds : String)
  | tagData (ds tag : String)
  | insertWith (ds : String) (options : InsertOptions) (requests : List InsertRequest)
  | update (ds : String) (requests : List InsertRequest)
  | read (ds : String) (ids : List String)
  | remove (ds : String) (ids : List String)
  | query (ds : String) (spec : QuerySpec)
  | count (ds : String) (spec : QuerySpec)
  | list
  | recalculate (ds : String)

/-- The host and the engine after a call, however it ends. -/
def Call.next : Call → Host → Engine → Host × Engine
  | .name, h, e => (Engine.name.exec h e).2
  | .openStore, h, e => (Engine.openStore.exec h e).2
  | .closeStore, h, e => (Engine.closeStore.exec h e).2
  | .create ds, h, e => ((Engine.create ds).exec h e).2
  | .hasDataset ds, h, e => ((Engine.hasDataset ds).exec h e).2
  | .config ds, h, e => ((Engine.config ds).exec h e).2
  | .setConfig ds d, h, e => ((Engine.setConfig ds d).exec h e).2
  | .metadata ds, h, e => ((Engine.metadata ds).exec h e).2
  | .setMetadata ds d, h, e => ((Engine.setMetadata ds d).exec h e).2
  | .index ds, h, e => ((Engine.index ds).exec h e).2
  | .tagData ds tag, h, e => ((Engine.tagData ds tag).exec h e).2
  | .insertWith ds options requests, h, e => ((Engine.insertWith ds options requests).exec h e).2
  | .update ds requests, h, e => ((Engine.update ds requests).exec h e).2
  | .read ds ids, h, e => ((Engine.read ds ids).exec h e).2
  | .remove ds ids, h, e => ((Engine.remove ds ids).exec h e).2
  | .query ds spec, h, e => ((Engine.query ds spec).exec h e).2
  | .count ds spec, h, e => ((Engine.count ds spec).exec h e).2
  | .list, h, e => (Engine.list.exec h e).2
  | .recalculate ds, h, e => ((Engine.recalculate ds).exec h e).2

end Engine

/-! ## What the layer needs of a backend

The backend's states are those of an invariant `I`, of a host and a backend, and the backend
may be open or not (`Open`); calls other than opening and closing are made while it is open. -/

section Obligations

variable (I : Host → Backend → Prop) (Open : Backend → Prop) (N : Held → Prop)

/-- From a state of `I` where the backend is open, the operation keeps `I` and the backend
open, and changes the fit of no held value whose key is outside `K`. -/
def Preserves {α : Type} (K : String → Prop) (op : Run Backend α) : Prop :=
  ∀ h b, I h b → Open b →
    I (op.exec h b).2.1 (op.exec h b).2.2 ∧ Open (op.exec h b).2.2 ∧ Stable N K h b (op.exec h b).2.1 (op.exec h b).2.2

/-- From a state of `I` where the backend is open, the operation changes nothing. -/
def ReadsOnly {α : Type} (op : Run Backend α) : Prop :=
  ∀ h b, I h b → Open b → (op.exec h b).2 = (h, b)

/-- A write of a held value: it changes the fit of no other held value, and what it returns is
what the backend answers for the value afterwards. -/
def WritesHeld (x : Held) (op : Run Backend Document) : Prop :=
  Preserves I Open N (· = x.key) op ∧
    ∀ h b c, I h b → Open b → (op.exec h b).1 = .ok c → x.Fits (op.exec h b).2.1 (op.exec h b).2.2 (.document c)

/-- A batch written to a dataset: it changes the fit of no document but those of the requests'
ids; the documents written carry the requests' ids, and the last written of each id is what the
backend answers for it afterwards. -/
def WritesBatch (ds : String) (requests : List InsertRequest) (op : Run Backend (List Document)) : Prop :=
  Preserves I Open N (fun key => ∃ r ∈ requests, key = Cache.readKey ds r.document.id) op ∧
    ∀ h b written, I h b → Open b → (op.exec h b).1 = .ok written →
      written.map (·.id) = requests.map (·.document.id) ∧
      ∀ pre doc post, written = pre ++ doc :: post → doc.id ∉ post.map (·.id) →
        (Held.document ds doc.id).Fits (op.exec h b).2.1 (op.exec h b).2.2 (.document doc)

/-- A failure of the operation changes no fit: a layer that drops nothing when it fails may rely
on its copies afterwards. -/
def FailsIntact {α : Type} (op : Run Backend α) : Prop :=
  ∀ h b err, I h b → Open b → (op.exec h b).1 = .error err →
    Stable N (fun _ => False) h b (op.exec h b).2.1 (op.exec h b).2.2

variable {I Open N}

end Obligations

/-- How a backend reads documents of a dataset: a check of the dataset, then one load per id
asked, in order, changing nothing; what an id loads carries that id. -/
structure ReadsBy (h : Host) (b : Backend) (ds : String) (check : Except Error Unit)
    (load : String → Except Error (Option Document)) : Prop where
  exec_read : ∀ ids, (Backend.read ds ids).exec h b =
    (check.bind fun _ => (ids.mapM load).map (·.filterMap fun o => o), h, b)
  id_eq : ∀ id doc, load id = .ok (some doc) → doc.id = id

/-- **What the layer needs of a backend**: every call allowed keeps `I`; from an open backend,
opening changes nothing and no call but closing leaves it closed; reads change nothing; writes
change the fits only of what they write, and leave their results as the backend's answers. A
failed creation must change no fit at all, since the layer drops nothing when it fails. -/
structure Faithful (I : Host → Backend → Prop) (Open : Backend → Prop) (N : Held → Prop)
    (Allowed : Engine.Call → Prop) :
    Prop where
  openStore_of_open : ReadsOnly I Open Backend.openStore
  openStore : ∀ h b, I h b → I (Backend.openStore.exec h b).2.1 (Backend.openStore.exec h b).2.2
  closeStore : ∀ h b, I h b → I (Backend.closeStore.exec h b).2.1 (Backend.closeStore.exec h b).2.2
  create : ∀ ds, Allowed (.create ds) →
    WritesHeld I Open N (.config ds) (Backend.create ds) ∧ FailsIntact I Open N (Backend.create ds)
  hasDataset : ∀ ds, Allowed (.hasDataset ds) → Preserves I Open N (fun _ => False) (Backend.hasDataset ds)
  config : ∀ ds, Allowed (.config ds) → ReadsOnly I Open (Backend.config ds)
  setConfig : ∀ ds d, Allowed (.setConfig ds d) → WritesHeld I Open N (.config ds) (Backend.setConfig ds d)
  metadata : ∀ ds, Allowed (.metadata ds) → ReadsOnly I Open (Backend.metadata ds)
  setMetadata : ∀ ds d, Allowed (.setMetadata ds d) → WritesHeld I Open N (.metadata ds) (Backend.setMetadata ds d)
  index : ∀ ds, Allowed (.index ds) → Preserves I Open N (fun _ => False) (Backend.index ds)
  tagData : ∀ ds tag, Allowed (.tagData ds tag) → Preserves I Open N (fun _ => False) (Backend.tagData ds tag)
  insertWith : ∀ ds options requests, Allowed (.insertWith ds options requests) →
    WritesBatch I Open N ds requests (Backend.insertWith ds options requests)
  update : ∀ ds requests, Allowed (.update ds requests) → WritesBatch I Open N ds requests (Backend.insertWith ds {} requests)
  read : ∀ ds ids, Allowed (.read ds ids) → ∀ h b, I h b → Open b → ∃ check load, ReadsBy h b ds check load
  remove : ∀ ds ids, Allowed (.remove ds ids) →
    Preserves I Open N (fun key => ∃ id ∈ ids, key = Cache.readKey ds id) (Backend.remove ds ids)
  query : ∀ ds spec, Allowed (.query ds spec) → Preserves I Open N (fun _ => False) (Backend.query ds spec)
  count : ∀ ds spec, Allowed (.count ds spec) → Preserves I Open N (fun _ => False) (Backend.count ds spec)
  list : Allowed .list → Preserves I Open N (fun _ => False) Backend.list
  recalculate : ∀ ds, Allowed (.recalculate ds) → Preserves I Open N (fun _ => False) (Backend.recalculate ds)

/-! ## The engine's invariant -/

/-- What an engine keeps along its calls: one layer, a backend state of `I`, a coherent cache,
and no held copy in the cache while the backend is closed. -/
structure Overlaid (I : Host → Backend → Prop) (Open : Backend → Prop) (N : Held → Prop) (h : Host) (e : Engine) :
    Prop where
  layered : e.Layered
  backend : I h e.backend
  coherent : Coherent N h e
  closed : ¬ Open e.backend → HoldsNone e

section Steps

variable {I : Host → Backend → Prop} {Open : Backend → Prop} {N : Held → Prop} {h : Host} {e : Engine}

/-- A copy that fits, written to the cache of an open backend, keeps the engine's invariant. -/
theorem Overlaid.put (ho : Overlaid I Open N h e) (hopen : Open e.backend) {key : String} {v : CachedValue}
    (hv : Fits N h e.backend key v) (now : Nat) : Overlaid I Open N h (e.mapCache (·.put key v now)) where
  layered := Engine.layered_mapCache _ ho.layered
  backend := by simpa using ho.backend
  coherent := ho.coherent.put now (fun _ _ hk => hk) fun _ => hv
  closed hclosed := absurd (by simpa using hopen) hclosed

theorem HoldsNone.remove {e : Engine} (hn : HoldsNone e) (key : String) : HoldsNone (e.mapCache (·.remove key)) :=
  hn.mapCache fun _ _ hp => (LruCache.mem_remove hp).1

/-- Dropping a key keeps the engine's invariant. -/
theorem Overlaid.remove (ho : Overlaid I Open N h e) (key : String) : Overlaid I Open N h (e.mapCache (·.remove key)) where
  layered := Engine.layered_mapCache _ ho.layered
  backend := by simpa using ho.backend
  coherent := ho.coherent.remove fun _ _ hk => hk
  closed hclosed := (ho.closed (by simpa using hclosed)).remove key

theorem Overlaid.withBackend {b : Backend} (ho : Overlaid I Open N h e) (hb : e.backend = b) :
    Overlaid I Open N h { e with backend := b } := hb ▸ ho

/-- A read of the cache keeps the engine's invariant. -/
theorem Overlaid.get (ho : Overlaid I Open N h e) (key : String) (now : Nat) :
    Overlaid I Open N h (e.mapCache fun c => (c.get key now).2) where
  layered := Engine.layered_mapCache _ ho.layered
  backend := by simpa using ho.backend
  coherent := ho.coherent.get key now
  closed hclosed := (ho.closed (by simpa using hclosed)).get key now

/-- **A held value read through the layer** is the backend's answer, and the engine keeps its
invariant: a copy in the cache fits, and a value read from the backend is kept as a copy. -/
theorem Overlaid.exec_cachedDocument {x : Held} {op : Run Backend (Option Document)}
    (hfits : ∀ h b v, x.Fits h b v ↔ ∃ doc, v = .document doc ∧ (op.exec h b).1 = .ok (some doc))
    (ho : Overlaid I Open N h e) (hopen : Open e.backend) (hpure : ReadsOnly I Open op) :
    (N x → ((Engine.cachedDocument 0 x.key (Engine.onBackend op)).exec h e).1 = (op.exec h e.backend).1) ∧
      Overlaid I Open N ((Engine.cachedDocument 0 x.key (Engine.onBackend op)).exec h e).2.1
        ((Engine.cachedDocument 0 x.key (Engine.onBackend op)).exec h e).2.2 := by
  have hget := ho.get x.key cacheClock
  have hstate := hpure h e.backend ho.backend hopen
  simp only [Engine.cachedDocument, Run.exec_bind, Engine.exec_lookup ho.layered]
  split
  · -- a copy in the cache: it fits, so it is the backend's answer
    next doc hhit =>
    refine ⟨fun hN => ?_, hget⟩
    obtain ⟨doc', hdoc, hans⟩ := (hfits h e.backend _).1
      (ho.coherent.fits_of_get hhit (fun hk => hk) x rfl hN)
    cases hdoc
    exact hans.symm
  · -- a miss: the backend's answer, kept as a copy when there is one
    simp only [Run.exec_bind, Engine.exec_onBackend, Engine.backend_mapCache]
    have hexec : op.exec h e.backend = ((op.exec h e.backend).1, h, e.backend) := by rw [← hstate]
    have hmiss := hget.withBackend (b := e.backend) (by simp)
    rw [hexec]
    rcases hr : (op.exec h e.backend).1 with err | (_ | doc)
    · exact ⟨fun _ => rfl, hmiss⟩
    · exact ⟨fun _ => rfl, hmiss⟩
    · simp only [Run.exec_bind, Engine.exec_keep hmiss.layered, Run.exec_pure]
      refine ⟨fun _ => trivial, hmiss.put hopen (fun y hy _ => ?_) _⟩
      obtain rfl := Held.key_inj hy
      exact (hfits h e.backend _).2 ⟨doc, rfl, hr⟩

end Steps

/-! ## Documents read through the layer -/

section Reads

variable {load : String → Except Error (Option Document)}

theorem mapM_eq_ok_of_forall {l : List String} {g : String → Option Document}
    (hl : ∀ id ∈ l, load id = .ok (g id)) : l.mapM load = .ok (l.map g) := by
  induction l with
  | nil => rfl
  | cons id l ih =>
    rw [List.mapM_cons, hl id List.mem_cons_self, ih fun a ha => hl a (List.mem_cons_of_mem _ ha)]
    rfl

/-- Loads that all succeed load the first id, then the rest. -/
theorem mapM_cons_eq_ok {id : String} {l : List String} {vs : List (Option Document)}
    (h : (id :: l).mapM load = .ok vs) : ∃ o vs', load id = .ok o ∧ l.mapM load = .ok vs' ∧ vs = o :: vs' := by
  rw [List.mapM_cons] at h
  cases hid : load id with
  | error err =>
    rw [hid] at h
    cases h
  | ok o =>
    rw [hid] at h
    cases hl : l.mapM load with
    | error err =>
      rw [hl] at h
      cases h
    | ok vs' =>
      rw [hl] at h
      cases h
      exact ⟨o, vs', rfl, rfl, rfl⟩

theorem exists_ok_of_mapM_eq_ok {l : List String} {vs : List (Option Document)}
    (h : l.mapM load = .ok vs) : ∀ id ∈ l, ∃ o, load id = .ok o := by
  induction l generalizing vs with
  | nil => simp
  | cons id l ih =>
    obtain ⟨o, vs', hid, hl, rfl⟩ := mapM_cons_eq_ok h
    intro a ha
    rcases List.mem_cons.1 ha with rfl | ha
    · exact ⟨o, hid⟩
    · exact ih hl a ha

/-- Loading only the ids a cache missed fails as loading them all does, when every id it held
loads. -/
theorem mapM_missing_eq_error {looked : List (String × Option Document)} {err : Error}
    (hheld : ∀ p ∈ looked, p.2.isSome → ∃ o, load p.1 = .ok o)
    (h : (Engine.missingOf looked).mapM load = .error err) : (looked.map (·.1)).mapM load = .error err := by
  induction looked with
  | nil => cases h
  | cons p looked ih =>
    have ih' := fun h => ih (fun q hq => hheld q (List.mem_cons_of_mem _ hq)) h
    rw [List.map_cons, List.mapM_cons]
    rcases hp : p.2 with _ | d
    · -- a missed id is loaded by both
      have hmiss : Engine.missingOf (p :: looked) = p.1 :: Engine.missingOf looked := by
        simp [Engine.missingOf, hp]
      rw [hmiss, List.mapM_cons] at h
      cases hload : load p.1 with
      | error e =>
        rw [hload] at h
        exact h
      | ok o =>
        rw [hload] at h
        cases hrest : (Engine.missingOf looked).mapM load with
        | error e =>
          rw [hrest] at h
          cases h
          rw [ih' hrest]
          rfl
        | ok vs =>
          rw [hrest] at h
          cases h
    · -- a held id loads, and the failure lies further on
      have hmiss : Engine.missingOf (p :: looked) = Engine.missingOf looked := by
        simp [Engine.missingOf, hp]
      rw [hmiss] at h
      obtain ⟨o, hload⟩ := hheld p List.mem_cons_self (by simp [hp])
      rw [hload, ih' h]
      rfl

variable {h : Host} {b : Backend} {ds : String} {check : Except Error Unit}

/-- A document copy fits when the dataset passes the check and its id loads to it. -/
theorem ReadsBy.fits_iff (hr : ReadsBy h b ds check load) {id : String} {d : Document} :
    (Held.document ds id).Fits h b (.document d) ↔ check = .ok () ∧ load id = .ok (some d) := by
  have hsingle : [id].mapM load = (load id).map fun o => [o] := by
    rw [List.mapM_cons, List.mapM_nil]
    cases load id <;> rfl
  simp only [Held.Fits, CachedValue.document.injEq, exists_eq_left', hr.exec_read, hsingle]
  cases check with
  | error err => simp [Except.bind]
  | ok u =>
    cases hload : load id with
    | error err => simp [Except.bind, Except.map]
    | ok o => cases o <;> simp [Except.bind, Except.map]

/-! ### What the cache holds for the ids asked -/

/-- Documents by id, each what its id loads. -/
def Agrees (load : String → Except Error (Option Document)) (found : Std.ExtTreeMap String Document compare) :
    Prop :=
  ∀ id d, found[id]? = some d → load id = .ok (some d)

theorem agrees_empty : Agrees load ∅ := fun _ _ h => by simp at h

theorem Agrees.insert {found : Std.ExtTreeMap String Document compare} (ha : Agrees load found) {id : String}
    {d : Document} (hd : load id = .ok (some d)) : Agrees load (found.insert id d) := by
  intro id' d' h
  rw [Std.ExtTreeMap.getElem?_insert] at h
  split at h
  · next heq =>
    cases h
    rw [← Std.LawfulEqCmp.compare_eq_iff_eq.1 heq]
    exact hd
  · exact ha id' d' h

theorem Agrees.addFound {found : Std.ExtTreeMap String Document compare} (ha : Agrees load found)
    {p : String × Option Document} (hp : ∀ d, p.2 = some d → load p.1 = .ok (some d)) :
    Agrees load (Engine.addFound found p) := by
  obtain ⟨id, _ | d⟩ := p
  · exact ha
  · exact ha.insert (hp d rfl)

theorem agrees_foundOf {looked : List (String × Option Document)}
    (hl : ∀ p ∈ looked, ∀ d, p.2 = some d → load p.1 = .ok (some d)) : Agrees load (Engine.foundOf looked) := by
  unfold Engine.foundOf
  have hinit : Agrees load ∅ := agrees_empty
  generalize (∅ : Std.ExtTreeMap String Document compare) = found at hinit ⊢
  induction looked generalizing found with
  | nil => exact hinit
  | cons p looked ih =>
    exact ih (fun q hq => hl q (List.mem_cons_of_mem _ hq)) _
      (hinit.addFound (hl p List.mem_cons_self))

/-- An insertion keeps every id found. -/
theorem isSome_getElem?_insert {found : Std.ExtTreeMap String Document compare} {id a : String} {d : Document}
    (h : found[id]?.isSome) : ((found.insert a d)[id]?).isSome := by
  rw [Std.ExtTreeMap.getElem?_insert]
  split <;> simp_all

theorem isSome_foldl_insert {found : Std.ExtTreeMap String Document compare} {id : String} (ids : List String)
    (h : found[id]?.isSome) (loaded : List Document) :
    ((loaded.foldl (fun m d => if ids.contains d.id then m.insert d.id d else m) found)[id]?).isSome := by
  induction loaded generalizing found with
  | nil => exact h
  | cons d loaded ih =>
    apply ih
    dsimp only
    split
    · exact isSome_getElem?_insert h
    · exact h

/-- A document loaded for an id asked is found under its id. -/
theorem isSome_foldl_insert_of_mem {found : Std.ExtTreeMap String Document compare} {ids : List String}
    {loaded : List Document} {d : Document} (hd : d ∈ loaded) (hid : d.id ∈ ids) :
    ((loaded.foldl (fun m d => if ids.contains d.id then m.insert d.id d else m) found)[d.id]?).isSome := by
  induction loaded generalizing found with
  | nil => cases hd
  | cons d' loaded ih =>
    rw [List.foldl_cons]
    rcases List.mem_cons.1 hd with rfl | hd
    · apply isSome_foldl_insert
      rw [if_pos (List.contains_iff_mem.2 hid)]
      simp
    · exact ih hd

theorem isSome_foundOf {looked : List (String × Option Document)} {id : String} {d : Document}
    (hp : (id, some d) ∈ looked) : ((Engine.foundOf looked)[id]?).isSome := by
  unfold Engine.foundOf
  generalize (∅ : Std.ExtTreeMap String Document compare) = found
  induction looked generalizing found with
  | nil => cases hp
  | cons p looked ih =>
    rw [List.foldl_cons]
    rcases List.mem_cons.1 hp with rfl | hp
    · -- the id is found at once, and later additions keep it
      have hfound : ((Engine.addFound found (id, some d))[id]?).isSome := by simp [Engine.addFound]
      clear ih
      generalize Engine.addFound found (id, some d) = found' at hfound
      induction looked generalizing found' with
      | nil => exact hfound
      | cons q looked ih' =>
        apply ih' (List.mem_cons_self)
        obtain ⟨_, _ | _⟩ := q
        · exact hfound
        · exact isSome_getElem?_insert hfound
    · exact ih hp _

/-- Documents by id that agree with the loads and hold every id that loads a document: each id
loads what they hold. -/
theorem Agrees.load_eq {found : Std.ExtTreeMap String Document compare} (ha : Agrees load found) {id : String}
    (hcov : ∀ d, load id = .ok (some d) → found[id]?.isSome) {o : Option Document} (hok : load id = .ok o) :
    load id = .ok found[id]? := by
  cases o with
  | none =>
    cases hget : found[id]? with
    | none => exact hok
    | some d => rw [ha id d hget] at hok; cases hok
  | some d =>
    obtain ⟨d', hd'⟩ := Option.isSome_iff_exists.1 (hcov d hok)
    rw [hd', ← ha id d' hd']

/-- A backend whose loads are what some documents by id hold reads those documents. -/
theorem ReadsBy.read_eq_of_loads (hr : ReadsBy h b ds (.ok ()) load) {ids : List String}
    {found : Std.ExtTreeMap String Document compare} (hload : ∀ id ∈ ids, load id = .ok found[id]?) :
    ((Backend.read ds ids).exec h b).1 = .ok (ids.filterMap fun id => found[id]?) := by
  rw [hr.exec_read, mapM_eq_ok_of_forall hload]
  simp only [Except.bind, Except.map, List.filterMap_map, Function.comp_def]

theorem mem_of_mapM_eq_ok {l : List String} {vs : List (Option Document)} (h : l.mapM load = .ok vs)
    {id : String} (hid : id ∈ l) {o : Option Document} (hload : load id = .ok o) : o ∈ vs := by
  induction l generalizing vs with
  | nil => cases hid
  | cons a l ih =>
    obtain ⟨oa, vs', ha, hl, rfl⟩ := mapM_cons_eq_ok h
    rcases List.mem_cons.1 hid with rfl | hid
    · rw [ha] at hload
      cases hload
      exact List.mem_cons_self
    · exact List.mem_cons_of_mem _ (ih hl hid)

theorem exists_mem_of_mapM_eq_ok {l : List String} {vs : List (Option Document)} (h : l.mapM load = .ok vs)
    {o : Option Document} (ho : o ∈ vs) : ∃ id ∈ l, load id = .ok o := by
  induction l generalizing vs with
  | nil => cases h; cases ho
  | cons a l ih =>
    obtain ⟨oa, vs', ha, hl, rfl⟩ := mapM_cons_eq_ok h
    rcases List.mem_cons.1 ho with rfl | ho
    · exact ⟨a, List.mem_cons_self, ha⟩
    · obtain ⟨id, hid, hload⟩ := ih hl ho
      exact ⟨id, List.mem_cons_of_mem _ hid, hload⟩

theorem Agrees.foldl_insert {found : Std.ExtTreeMap String Document compare} (ha : Agrees load found)
    (ids : List String) {loaded : List Document} (hloaded : ∀ d ∈ loaded, load d.id = .ok (some d)) :
    Agrees load (loaded.foldl (fun m d => if ids.contains d.id then m.insert d.id d else m) found) := by
  induction loaded generalizing found with
  | nil => exact ha
  | cons d loaded ih =>
    apply ih _ fun d' hd' => hloaded d' (List.mem_cons_of_mem _ hd')
    dsimp only
    split
    · exact ha.insert (hloaded d List.mem_cons_self)
    · exact ha

theorem mem_missingOf {looked : List (String × Option Document)} {id : String} :
    id ∈ Engine.missingOf looked ↔ (id, none) ∈ looked := by
  constructor
  · intro hid
    obtain ⟨⟨id', o⟩, hp, rfl⟩ := List.mem_map.1 hid
    obtain ⟨hp, hnone⟩ := List.mem_filter.1 hp
    simp only [Option.isNone_iff_eq_none] at hnone
    exact hnone ▸ hp
  · intro hp
    exact List.mem_map.2 ⟨(id, none), List.mem_filter.2 ⟨hp, rfl⟩, rfl⟩

/-- **A read that the cache covers in full.** When the cache held every id asked, and the ids
are not none, the backend reads what the cache held. -/
theorem ReadsBy.read_eq_of_held (hr : ReadsBy h b ds check load) {looked : List (String × Option Document)}
    (hheld : ∀ p ∈ looked, ∀ d, p.2 = some d → check = .ok () ∧ load p.1 = .ok (some d))
    (hall : ∀ p ∈ looked, p.2.isSome) (hne : looked ≠ []) :
    ((Backend.read ds (looked.map (·.1))).exec h b).1 =
      .ok ((looked.map (·.1)).filterMap fun id => (Engine.foundOf looked)[id]?) := by
  obtain ⟨p₀, hp₀⟩ := List.exists_mem_of_ne_nil looked hne
  obtain ⟨d₀, hd₀⟩ := Option.isSome_iff_exists.1 (hall p₀ hp₀)
  have hcheck : check = .ok () := (hheld p₀ hp₀ d₀ hd₀).1
  subst hcheck
  refine hr.read_eq_of_loads fun id hid => ?_
  obtain ⟨p, hp, rfl⟩ := List.mem_map.1 hid
  obtain ⟨d, hd⟩ := Option.isSome_iff_exists.1 (hall p hp)
  have hfound := isSome_foundOf (show (p.1, some d) ∈ looked from hd ▸ hp)
  exact (agrees_foundOf fun q hq d hd => (hheld q hq d hd).2).load_eq (fun _ _ => hfound) (hheld p hp d hd).2

/-- **A read that goes to the backend for what the cache missed.** When the ids missed load
the documents `vs`, the backend reads, for all the ids asked, what the cache held with what was
loaded added. -/
theorem ReadsBy.read_eq_of_missing (hr : ReadsBy h b ds (.ok ()) load) {looked : List (String × Option Document)}
    (hheld : ∀ p ∈ looked, ∀ d, p.2 = some d → load p.1 = .ok (some d)) {vs : List (Option Document)}
    (hloads : (Engine.missingOf looked).mapM load = .ok vs) :
    ((Backend.read ds (looked.map (·.1))).exec h b).1 =
      .ok ((looked.map (·.1)).filterMap fun id =>
        ((vs.filterMap fun o => o).foldl (fun m d => if (looked.map (·.1)).contains d.id then m.insert d.id d else m)
          (Engine.foundOf looked))[id]?) := by
  -- every document loaded is what its own id loads
  have hloaded : ∀ d ∈ vs.filterMap (fun o => o), load d.id = .ok (some d) := by
    intro d hd
    obtain ⟨id, _, hload⟩ := exists_mem_of_mapM_eq_ok hloads (by simpa using hd)
    rw [hr.id_eq id d hload]
    exact hload
  have hagrees := (agrees_foundOf hheld).foldl_insert (looked.map (·.1)) hloaded
  refine hr.read_eq_of_loads fun id hid => ?_
  obtain ⟨p, hp, rfl⟩ := List.mem_map.1 hid
  obtain ⟨id, o⟩ := p
  cases o with
  | some d =>
    -- held: found from the start
    exact hagrees.load_eq (fun _ _ => isSome_foldl_insert _ (isSome_foundOf hp) _) (hheld _ hp d rfl)
  | none =>
    -- missed: loaded, and found under its id when it loads a document
    have hmiss : id ∈ Engine.missingOf looked := mem_missingOf.2 hp
    obtain ⟨o, hload⟩ := exists_ok_of_mapM_eq_ok hloads id hmiss
    refine hagrees.load_eq (fun d hd => ?_) hload
    have hmem : d ∈ vs.filterMap (fun o => o) := by
      simpa using mem_of_mapM_eq_ok hloads hmiss hd
    have hdid : d.id = id := hr.id_eq id d hd
    exact hdid ▸ isSome_foldl_insert_of_mem hmem (hdid ▸ hid)

end Reads

section ReadSteps

variable {I : Host → Backend → Prop} {Open : Backend → Prop} {N : Held → Prop} {h : Host} {e : Engine}

/-- What the cache holds for one id fits the backend, if the layer answers for it. -/
theorem Overlaid.exec_cachedId (ho : Overlaid I Open N h e) (ds id : String) :
    ∃ o, (Engine.cachedId ds 0 id).exec h e =
        (.ok (id, o), h, e.mapCache fun c => (c.get (Cache.readKey ds id) cacheClock).2) ∧
      ∀ d, o = some d → N (.document ds id) → (Held.document ds id).Fits h e.backend (.document d) := by
  simp only [Engine.cachedId, Run.exec_bind, Engine.exec_lookup ho.layered]
  split
  · next d hhit =>
    refine ⟨some d, rfl, fun d' hd' hN => ?_⟩
    cases hd'
    exact ho.coherent.fits_of_get hhit (fun hk => hk) (.document ds id) rfl hN
  · exact ⟨none, rfl, fun _ hd => by cases hd⟩

/-- Looking the ids up in the cache: each id with what the cache holds for it, which fits the
backend if the layer answers for it, from a state that keeps the engine's invariant and the backend. -/
theorem Overlaid.exec_mapM_cachedId (ho : Overlaid I Open N h e) (ds : String) (ids : List String) :
    ∃ looked e', (ids.mapM (Engine.cachedId ds 0)).exec h e = (.ok looked, h, e') ∧
      looked.map (·.1) = ids ∧
      (∀ p ∈ looked, ∀ d, p.2 = some d → N (.document ds p.1) →
        (Held.document ds p.1).Fits h e.backend (.document d)) ∧
      Overlaid I Open N h e' ∧ e'.backend = e.backend := by
  induction ids generalizing e with
  | nil => exact ⟨[], e, rfl, rfl, by simp, ho, rfl⟩
  | cons id ids ih =>
    obtain ⟨o, hexec, hfit⟩ := ho.exec_cachedId ds id
    obtain ⟨looked, e', hrest, hids, hfits, ho', hb'⟩ := ih (ho.get (Cache.readKey ds id) cacheClock)
    rw [Engine.backend_mapCache] at hfits hb'
    refine ⟨(id, o) :: looked, e', ?_, by simp [hids], fun p hp d hd => ?_, ho', hb'⟩
    · simp only [List.mapM_cons, Run.exec_bind, hexec, hrest, Run.exec_pure]
    · rcases List.mem_cons.1 hp with rfl | hp
      · exact hfit d hd
      · exact hfits p hp d hd

/-- Keeping the documents loaded, each fitting the backend, keeps the engine's invariant. -/
theorem Overlaid.exec_foldlM_keepLoaded {ds : String} (ho : Overlaid I Open N h e) (hopen : Open e.backend)
    (ids : List String)
    {loaded : List Document} (hfit : ∀ d ∈ loaded, (Held.document ds d.id).Fits h e.backend (.document d))
    (found : Std.ExtTreeMap String Document compare) :
    ∃ e', (loaded.foldlM (Engine.keepLoaded ds 0 ids) found).exec h e =
        (.ok (loaded.foldl (fun m d => if ids.contains d.id then m.insert d.id d else m) found), h, e') ∧
      Overlaid I Open N h e' ∧ e'.backend = e.backend := by
  induction loaded generalizing e found with
  | nil => exact ⟨e, rfl, ho, rfl⟩
  | cons d loaded ih =>
    have ho₁ := ho.put hopen (Held.fits_key (hfit d List.mem_cons_self)) cacheClock
    obtain ⟨e', hexec, ho', hb'⟩ := ih ho₁ (by simpa using hopen)
      (fun d' hd' => by simpa using hfit d' (List.mem_cons_of_mem _ hd')) (if ids.contains d.id then found.insert d.id d else found)
    refine ⟨e', ?_, ho', by simpa using hb'⟩
    simp only [List.foldlM_cons, Run.exec_bind, Engine.keepLoaded, Engine.exec_keep ho.layered, Run.exec_pure,
      List.foldl_cons]
    exact hexec

/-- **Documents read through the layer** are what the backend reads, for every list of ids but
the empty one, which the layer answers with no documents whatever the backend says, provided
the layer answers for the dataset's documents; the engine keeps its invariant. -/
theorem Overlaid.exec_read {ds : String} (ho : Overlaid I Open N h e) (hopen : Open e.backend)
    {check : Except Error Unit} {load : String → Except Error (Option Document)}
    (hr : ReadsBy h e.backend ds check load) (ids : List String) :
    ((∀ id, N (.document ds id)) → ((Engine.read ds ids).exec h e).1 =
        (if ids = [] then .ok [] else ((Backend.read ds ids).exec h e.backend).1)) ∧
      Overlaid I Open N ((Engine.read ds ids).exec h e).2.1 ((Engine.read ds ids).exec h e).2.2 := by
  obtain ⟨looked, e₁, hlk, rfl, hfits, ho₁, hb₁⟩ := ho.exec_mapM_cachedId ds ids
  have hheld : (∀ id, N (.document ds id)) →
      ∀ p ∈ looked, ∀ d, p.2 = some d → check = .ok () ∧ load p.1 = .ok (some d) :=
    fun hN p hp d hd => hr.fits_iff.1 (hfits p hp d hd (hN p.1))
  simp only [Engine.read, Engine.exec_through ho.layered, Engine.readLayer, Run.exec_bind, hlk]
  by_cases hmiss : (Engine.missingOf looked).isEmpty
  · -- the cache held every id asked
    rw [if_pos hmiss]
    simp only [pure_bind, Run.exec_pure]
    refine ⟨fun hN => ?_, ho₁⟩
    split
    · next hnil =>
      rw [List.map_eq_nil_iff] at hnil
      subst hnil
      rfl
    · next hne =>
      have hall : ∀ p ∈ looked, p.2.isSome := fun p hp => by
        rcases hp2 : p.2 with _ | d
        · have : p.1 ∈ Engine.missingOf looked := mem_missingOf.2 (by rw [← hp2]; exact hp)
          simp_all
        · rfl
      rw [hr.read_eq_of_held (hheld hN) hall (by simpa using hne)]
      rfl
  · -- the backend reads what the cache missed
    rw [if_neg hmiss]
    have hne : looked.map (·.1) ≠ [] := by
      intro hnil
      rw [List.map_eq_nil_iff] at hnil
      subst hnil
      exact hmiss rfl
    simp only [Run.exec_bind, Engine.exec_onBackend, hb₁, hr.exec_read (Engine.missingOf looked), if_neg hne]
    have ho₂ := ho₁.withBackend hb₁
    cases check with
    | error err => exact ⟨fun _ => by rw [hr.exec_read]; rfl, ho₂⟩
    | ok u =>
      cases u
      cases hloads : (Engine.missingOf looked).mapM load with
      | error err =>
        refine ⟨fun hN => ?_, ho₂⟩
        rw [hr.exec_read, mapM_missing_eq_error (fun p hp hsome => ?_) hloads]
        · rfl
        · obtain ⟨d, hd⟩ := Option.isSome_iff_exists.1 hsome
          exact ⟨_, (hheld hN p hp d hd).2⟩
      | ok vs =>
        -- every document loaded fits under its own id, and is kept
        have hfit : ∀ d ∈ vs.filterMap (fun o => o), (Held.document ds d.id).Fits h e.backend (.document d) := by
          intro d hd
          obtain ⟨id, _, hload⟩ := exists_mem_of_mapM_eq_ok hloads (by simpa using hd)
          rw [hr.id_eq id d hload]
          exact hr.fits_iff.2 ⟨rfl, hload⟩
        obtain ⟨e₂, hkeep, ho₃, -⟩ := ho₂.exec_foldlM_keepLoaded hopen (looked.map (·.1)) hfit (Engine.foundOf looked)
        simp only [Except.bind, Except.map]
        rw [hkeep]
        refine ⟨fun hN => ?_, ho₃⟩
        rw [hr.read_eq_of_missing (fun p hp d hd => (hheld hN p hp d hd).2) hloads]
        rfl

end ReadSteps

/-! ## Writes and the other calls -/

section WriteSteps

variable {I : Host → Backend → Prop} {Open : Backend → Prop} {N : Held → Prop} {h : Host} {e : Engine}
  {β : Type}

theorem Engine.exec_forM_evict (hl : e.Layered) (l : List β) (key : β → String) :
    (forM l fun x => Engine.evict 0 (key x)).exec h e =
      (.ok (), h, l.foldl (fun e x => e.mapCache (·.remove (key x))) e) := by
  induction l generalizing e with
  | nil => rfl
  | cons x l ih =>
    simp only [List.forM_cons, Run.exec_bind, Engine.exec_evict hl, ih (Engine.layered_mapCache _ hl),
      List.foldl_cons]

theorem Engine.exec_forM_keep (hl : e.Layered) (l : List β) (key : β → String) (v : β → CachedValue) :
    (forM l fun x => Engine.keep 0 (key x) (v x)).exec h e =
      (.ok (), h, l.foldl (fun e x => e.mapCache (·.put (key x) (v x) cacheClock)) e) := by
  induction l generalizing e with
  | nil => rfl
  | cons x l ih =>
    simp only [List.forM_cons, Run.exec_bind, Engine.exec_keep hl, ih (Engine.layered_mapCache _ hl),
      List.foldl_cons]

theorem Engine.layered_foldl {l : List β} {f : β → LruCache → LruCache} (hl : e.Layered) :
    (l.foldl (fun e x => e.mapCache (f x)) e).Layered := by
  induction l generalizing e with
  | nil => exact hl
  | cons x l ih => exact ih (Engine.layered_mapCache _ hl)

theorem Engine.backend_foldl (l : List β) (f : β → LruCache → LruCache) (e : Engine) :
    (l.foldl (fun e x => e.mapCache (f x)) e).backend = e.backend := by
  induction l generalizing e with
  | nil => rfl
  | cons x l ih => rw [List.foldl_cons, ih, Engine.backend_mapCache]

/-- **Dropping the keys of a list** makes a cache coherent off those keys coherent. -/
theorem CoherentOff.foldl_remove {l : List β} {key : β → String}
    (hc : CoherentOff N (fun k => ∃ x ∈ l, k = key x) h e) :
    Coherent N h (l.foldl (fun e x => e.mapCache (·.remove (key x))) e) := by
  induction l generalizing e with
  | nil => exact hc.mono fun _ ⟨_, hx, _⟩ => by cases hx
  | cons x l ih =>
    refine ih (hc.remove fun k hk ⟨y, hy, hky⟩ => ?_)
    rcases List.mem_cons.1 hy with rfl | hy
    · exact absurd hky hk
    · exact ⟨y, hy, hky⟩

/-- **Writing the values of a list** makes a cache coherent off their keys coherent when the
last value written under each key fits. -/
theorem CoherentOff.foldl_put {l : List β} {key : β → String} {v : β → CachedValue}
    (hc : CoherentOff N (fun k => ∃ x ∈ l, k = key x) h e)
    (hfit : ∀ pre x post, l = pre ++ x :: post → key x ∉ post.map key → Fits N h e.backend (key x) (v x)) :
    Coherent N h (l.foldl (fun e x => e.mapCache (·.put (key x) (v x) cacheClock)) e) := by
  induction l generalizing e with
  | nil => exact hc.mono fun _ ⟨_, hx, _⟩ => by cases hx
  | cons x l ih =>
    refine ih (hc.put cacheClock (fun k hk ⟨y, hy, hky⟩ => ?_) fun hlast => ?_) fun pre y post hl hy => ?_
    · rcases List.mem_cons.1 hy with rfl | hy
      · exact absurd hky hk
      · exact ⟨y, hy, hky⟩
    · exact hfit [] x l rfl fun hmem => hlast (by simpa [eq_comm] using hmem)
    · rw [Engine.backend_mapCache]
      exact hfit (x :: pre) y post (by rw [hl]; rfl) hy

/-- A call of the backend that changes no fit, from an open backend, keeps the engine's invariant. -/
theorem Overlaid.after {α : Type} {op : Run Backend α} (ho : Overlaid I Open N h e) (hopen : Open e.backend)
    (hp : Preserves I Open N (fun _ => False) op) :
    Overlaid I Open N (op.exec h e.backend).2.1 { e with backend := (op.exec h e.backend).2.2 } := by
  obtain ⟨hI, hopen', hs⟩ := hp h e.backend ho.backend hopen
  exact ⟨ho.layered, hI, (ho.coherent.backend hs).mono fun _ hk => hk.elim id id, fun hc => absurd hopen' hc⟩

theorem Overlaid.exec_onBackend {α : Type} {op : Run Backend α} (ho : Overlaid I Open N h e) (hopen : Open e.backend)
    (hp : Preserves I Open N (fun _ => False) op) :
    Overlaid I Open N ((Engine.onBackend op).exec h e).2.1 ((Engine.onBackend op).exec h e).2.2 := by
  rw [Engine.exec_onBackend]
  exact ho.after hopen hp

/-- Keeping an index snapshot, a tag, a query or a count keeps the engine's invariant. -/
theorem Overlaid.put_of_ne (ho : Overlaid I Open N h e) (hopen : Open e.backend) {key : String}
    (hkey : ∀ x : Held, key ≠ x.key) (v : CachedValue) :
    Overlaid I Open N h (e.mapCache (·.put key v cacheClock)) :=
  ho.put hopen (fits_of_ne hkey v) cacheClock

end WriteSteps

end TagStore
