import TagStore.Proofs.Storage.Overlay
/-!
# Proofs.Storage.Transparency

A cache layer is transparent for configuration, metadata and documents by id: along any run of
an engine's calls, each such answer is the one the backend alone gives at that moment. The one
exception is a read of no ids, which the layer answers with no documents before asking the
backend, so that it succeeds on a dataset the backend does not know.

Each call keeps the engine's invariant `Overlaid` (one lemma per call, from what `Faithful` asks
of the backend for it); the calls a run may make are those a backend allows, and, except opening
and closing, only while the backend is open (`Engine.Reached`). Every state reached keeps the
invariant (`Engine.Reached.overlaid`), so the answers of the layer are the backend's
(`Engine.Reached.answers_eq`).
-/

namespace TagStore

section Calls

variable {I : Host → Backend → Prop} {Open : Backend → Prop} {N : Held → Prop} {h : Host} {e : Engine}
  {ds : String}

theorem Overlaid.of_open (hl : e.Layered) (hI : I h e.backend) (hopen : Open e.backend) (hc : Coherent N h e) :
    Overlaid I Open N h e :=
  ⟨hl, hI, hc, fun hclosed => absurd hopen hclosed⟩

/-- After a call of the backend that keeps `I`, the backend open and the fits off `K`, the cache
is coherent off `K`. -/
theorem Overlaid.coherentOff_after {α : Type} {K : String → Prop} {op : Run Backend α}
    (ho : Overlaid I Open N h e) (hopen : Open e.backend) (hp : Preserves I Open N K op) :
    I (op.exec h e.backend).2.1 (op.exec h e.backend).2.2 ∧ Open (op.exec h e.backend).2.2 ∧
      CoherentOff N K (op.exec h e.backend).2.1 { e with backend := (op.exec h e.backend).2.2 } := by
  obtain ⟨hI, hopen', hs⟩ := hp h e.backend ho.backend hopen
  exact ⟨hI, hopen', (ho.coherent.backend hs).mono fun _ hk => hk.elim False.elim id⟩

/-- Writing a fitting copy of a held value to a cache coherent off its key restores the invariant. -/
theorem Overlaid.of_put {x : Held} {v : CachedValue} (hl : e.Layered) (hI : I h e.backend)
    (hopen : Open e.backend) (hc : CoherentOff N (· = x.key) h e) (hv : x.Fits h e.backend v) :
    Overlaid I Open N h (e.mapCache (·.put x.key v cacheClock)) :=
  Overlaid.of_open (Engine.layered_mapCache _ hl) (by simpa using hI) (by simpa using hopen)
    (hc.put cacheClock (fun _ hk hK => hk hK) fun _ => Held.fits_key hv)

/-- Dropping the copy of a held value from a cache coherent off its key restores the invariant. -/
theorem Overlaid.of_remove {key : String} (hl : e.Layered) (hI : I h e.backend) (hopen : Open e.backend)
    (hc : CoherentOff N (· = key) h e) : Overlaid I Open N h (e.mapCache (·.remove key)) :=
  Overlaid.of_open (Engine.layered_mapCache _ hl) (by simpa using hI) (by simpa using hopen)
    (hc.remove fun _ hk hK => hk hK)

/-- Asking the backend's name changes nothing. -/
theorem exec_name : (Engine.name.exec h e).2 = (h, e) := by
  simp [Engine.name]

/-- **Opening** keeps the invariant: an open backend does not change, and a closed one leaves
the cache holding no copy. -/
theorem Overlaid.exec_openStore {Allowed : Engine.Call → Prop} (hf : Faithful I Open N Allowed)
    (ho : Overlaid I Open N h e) :
    Overlaid I Open N (Engine.openStore.exec h e).2.1 (Engine.openStore.exec h e).2.2 := by
  rw [Engine.openStore, Engine.exec_onBackend]
  by_cases hopen : Open e.backend
  · have hsame := hf.openStore_of_open h e.backend ho.backend hopen
    simp only [hsame]
    exact ho
  · have hn : HoldsNone e := ho.closed hopen
    exact ⟨ho.layered, hf.openStore h e.backend ho.backend, HoldsNone.coherent hn, fun _ => hn⟩

/-- **Closing** empties the cache first, so the invariant holds whatever the backend does. -/
theorem Overlaid.exec_closeStore {Allowed : Engine.Call → Prop} (hf : Faithful I Open N Allowed)
    (ho : Overlaid I Open N h e) :
    Overlaid I Open N (Engine.closeStore.exec h e).2.1 (Engine.closeStore.exec h e).2.2 := by
  have hn : HoldsNone (e.mapCache LruCache.clear) := holdsNone_clear e
  simp only [Engine.closeStore, Engine.exec_through ho.layered, Run.exec_bind, Engine.exec_clearCache ho.layered,
    Engine.exec_onBackend, Engine.backend_mapCache]
  exact ⟨Engine.layered_mapCache _ ho.layered, hf.closeStore h e.backend ho.backend, HoldsNone.coherent hn,
    fun _ => hn⟩

/-- **Creating** a dataset keeps the invariant: the configuration it returns is kept, and a
failed creation changes no fit, so the layer need drop nothing. -/
theorem Overlaid.exec_create (ho : Overlaid I Open N h e) (hopen : Open e.backend)
    (hw : WritesHeld I Open N (.config ds) (Backend.create ds)) (hfail : FailsIntact I Open N (Backend.create ds)) :
    Overlaid I Open N ((Engine.create ds).exec h e).2.1 ((Engine.create ds).exec h e).2.2 := by
  obtain ⟨hI, hopen', hc⟩ := ho.coherentOff_after hopen hw.1
  have hfit := hw.2 h e.backend
  have hstable := hfail h e.backend
  simp only [Engine.create, Engine.exec_through ho.layered, Run.exec_bind, Engine.exec_onBackend]
  generalize (Backend.create ds).exec h e.backend = r at hI hopen' hc hfit hstable
  obtain ⟨res, h', b'⟩ := r
  cases res with
  | error err =>
    have hs := hstable err ho.backend hopen rfl
    exact Overlaid.of_open ho.layered hI hopen' ((ho.coherent.backend hs).mono fun _ hk => hk.elim id id)
  | ok c =>
    simp only [Engine.exec_keep (Engine.layered_withBackend _ ho.layered), Run.exec_pure]
    exact Overlaid.of_put (x := .config ds) ho.layered hI hopen' hc (hfit c ho.backend hopen rfl)

/-- A held value written through the layer keeps the invariant: the copy is refreshed after a
write and dropped after a failed one. -/
theorem Overlaid.exec_writtenDocument {x : Held} {op : Run Backend Document} (ho : Overlaid I Open N h e)
    (hopen : Open e.backend) (hw : WritesHeld I Open N x op) :
    Overlaid I Open N ((Engine.writtenDocument 0 x.key (Engine.onBackend op)).exec h e).2.1
      ((Engine.writtenDocument 0 x.key (Engine.onBackend op)).exec h e).2.2 := by
  obtain ⟨hI, hopen', hc⟩ := ho.coherentOff_after hopen hw.1
  have hfit := hw.2 h e.backend
  simp only [Engine.writtenDocument, Run.exec_bind, Run.exec_tryCatch, Engine.exec_onBackend]
  generalize op.exec h e.backend = r at hI hopen' hc hfit
  obtain ⟨res, h', b'⟩ := r
  cases res with
  | error err =>
    simp only [Engine.exec_evict (Engine.layered_withBackend _ ho.layered), Run.exec_throw]
    exact Overlaid.of_remove ho.layered hI hopen' hc
  | ok c =>
    simp only [Engine.exec_keep (Engine.layered_withBackend _ ho.layered), Run.exec_pure]
    exact Overlaid.of_put ho.layered hI hopen' hc (hfit c ho.backend hopen rfl)

theorem Overlaid.exec_setConfig {d : Document} (ho : Overlaid I Open N h e) (hopen : Open e.backend)
    (hw : WritesHeld I Open N (.config ds) (Backend.setConfig ds d)) :
    Overlaid I Open N ((Engine.setConfig ds d).exec h e).2.1 ((Engine.setConfig ds d).exec h e).2.2 := by
  rw [Engine.setConfig, Engine.exec_through ho.layered]
  exact ho.exec_writtenDocument (x := .config ds) hopen hw

theorem Overlaid.exec_setMetadata {d : Document} (ho : Overlaid I Open N h e) (hopen : Open e.backend)
    (hw : WritesHeld I Open N (.metadata ds) (Backend.setMetadata ds d)) :
    Overlaid I Open N ((Engine.setMetadata ds d).exec h e).2.1 ((Engine.setMetadata ds d).exec h e).2.2 := by
  rw [Engine.setMetadata, Engine.exec_through ho.layered]
  exact ho.exec_writtenDocument (x := .metadata ds) hopen hw

/-- **A configuration read through the layer** is the backend's, if the layer answers for it,
and the invariant holds after. -/
theorem Overlaid.exec_config (ho : Overlaid I Open N h e) (hopen : Open e.backend)
    (hr : ReadsOnly I Open (Backend.config ds)) :
    (N (.config ds) → ((Engine.config ds).exec h e).1 = ((Backend.config ds).exec h e.backend).1) ∧
      Overlaid I Open N ((Engine.config ds).exec h e).2.1 ((Engine.config ds).exec h e).2.2 := by
  rw [Engine.config, Engine.exec_through ho.layered]
  exact ho.exec_cachedDocument (x := .config ds) (fun _ _ _ => Iff.rfl) hopen hr

/-- **Metadata read through the layer** are the backend's, if the layer answers for them, and
the invariant holds after. -/
theorem Overlaid.exec_metadata (ho : Overlaid I Open N h e) (hopen : Open e.backend)
    (hr : ReadsOnly I Open (Backend.metadata ds)) :
    (N (.metadata ds) → ((Engine.metadata ds).exec h e).1 = ((Backend.metadata ds).exec h e.backend).1) ∧
      Overlaid I Open N ((Engine.metadata ds).exec h e).2.1 ((Engine.metadata ds).exec h e).2.2 := by
  rw [Engine.metadata, Engine.exec_through ho.layered]
  exact ho.exec_cachedDocument (x := .metadata ds) (fun _ _ _ => Iff.rfl) hopen hr

/-- A call of the backend that changes no fit, its answer then kept under a key of no held
value, keeps the invariant: the index snapshots, queries and counts the layer keeps. -/
theorem Overlaid.exec_onBackend_keep {α : Type} {op : Run Backend α} {key : String}
    (hkey : ∀ x : Held, key ≠ x.key) (v : α → CachedValue) (ho : Overlaid I Open N h e) (hopen : Open e.backend)
    (hp : Preserves I Open N (fun _ => False) op) :
    Overlaid I Open N ((do let a ← Engine.onBackend op; Engine.keep 0 key (v a); pure a : Run Engine α).exec h e).2.1
      ((do let a ← Engine.onBackend op; Engine.keep 0 key (v a); pure a : Run Engine α).exec h e).2.2 := by
  obtain ⟨hI, hopen', hc⟩ := ho.coherentOff_after hopen hp
  simp only [Run.exec_bind, Engine.exec_onBackend]
  generalize op.exec h e.backend = r at hI hopen' hc
  obtain ⟨res, h', b'⟩ := r
  cases res with
  | error err => exact Overlaid.of_open (Engine.layered_withBackend _ ho.layered) hI hopen' hc
  | ok a =>
    simp only [Engine.exec_keep (Engine.layered_withBackend _ ho.layered), Run.exec_pure]
    exact (Overlaid.of_open (Engine.layered_withBackend _ ho.layered) hI hopen' hc).put_of_ne hopen' hkey (v a)

/-- A value read through the layer under a key of no held value keeps the invariant. -/
theorem Overlaid.exec_cachedDocument_of_ne {key : String} {op : Run Backend (Option Document)}
    (hkey : ∀ x : Held, key ≠ x.key) (ho : Overlaid I Open N h e) (hopen : Open e.backend)
    (hp : Preserves I Open N (fun _ => False) op) :
    Overlaid I Open N ((Engine.cachedDocument 0 key (Engine.onBackend op)).exec h e).2.1
      ((Engine.cachedDocument 0 key (Engine.onBackend op)).exec h e).2.2 := by
  have hget := ho.get key cacheClock
  obtain ⟨hI, hopen', hc⟩ := hget.coherentOff_after (by simpa using hopen) hp
  simp only [Engine.cachedDocument, Run.exec_bind, Engine.exec_lookup ho.layered]
  split
  · exact hget
  · simp only [Run.exec_bind, Engine.exec_onBackend]
    generalize op.exec h (e.mapCache fun c => (c.get key cacheClock).2).backend = r at hI hopen' hc
    obtain ⟨res, h', b'⟩ := r
    have ho' := Overlaid.of_open (Engine.layered_withBackend b' hget.layered) hI hopen' hc
    rcases res with err | (_ | d)
    · exact ho'
    · exact ho'
    · simp only [Engine.exec_keep ho'.layered, Run.exec_bind, Run.exec_pure]
      exact ho'.put_of_ne hopen' hkey _

theorem Overlaid.exec_index (ho : Overlaid I Open N h e) (hopen : Open e.backend)
    (hp : Preserves I Open N (fun _ => False) (Backend.index ds)) :
    Overlaid I Open N ((Engine.index ds).exec h e).2.1 ((Engine.index ds).exec h e).2.2 := by
  rw [Engine.index, Engine.exec_through ho.layered, Run.exec_bind, Engine.exec_lookup ho.layered]
  dsimp only
  have hget := ho.get (Cache.indexKey ds) cacheClock
  split
  · exact hget
  · exact hget.exec_onBackend_keep (Held.indexKey_ne ds) (.document ·) (by simpa using hopen) hp

theorem Overlaid.exec_tagData {tag : String} (ho : Overlaid I Open N h e) (hopen : Open e.backend)
    (hp : Preserves I Open N (fun _ => False) (Backend.tagData ds tag)) :
    Overlaid I Open N ((Engine.tagData ds tag).exec h e).2.1 ((Engine.tagData ds tag).exec h e).2.2 := by
  rw [Engine.tagData, Engine.exec_through ho.layered]
  exact ho.exec_cachedDocument_of_ne (Held.tagKey_ne ds tag) hopen hp

theorem Overlaid.exec_query {spec : QuerySpec} (ho : Overlaid I Open N h e) (hopen : Open e.backend)
    (hp : Preserves I Open N (fun _ => False) (Backend.query ds spec)) :
    Overlaid I Open N ((Engine.query ds spec).exec h e).2.1 ((Engine.query ds spec).exec h e).2.2 := by
  rw [Engine.query, Engine.exec_through ho.layered]
  split
  · -- a random query goes to the backend and is not kept
    exact ho.exec_onBackend hopen hp
  · rw [Run.exec_bind, Engine.exec_lookup ho.layered]
    dsimp only
    have hget := ho.get (Cache.queryKey ds spec) cacheClock
    split
    · exact hget
    · exact hget.exec_onBackend_keep (Held.queryKey_ne ds spec) (.list ·) (by simpa using hopen) hp

theorem Overlaid.exec_count {spec : QuerySpec} (ho : Overlaid I Open N h e) (hopen : Open e.backend)
    (hp : Preserves I Open N (fun _ => False) (Backend.count ds spec)) :
    Overlaid I Open N ((Engine.count ds spec).exec h e).2.1 ((Engine.count ds spec).exec h e).2.2 := by
  rw [Engine.count, Engine.exec_through ho.layered, Run.exec_bind, Engine.exec_lookup ho.layered]
  dsimp only
  have hget := ho.get (Cache.countKey ds spec) cacheClock
  split
  · exact hget
  · exact hget.exec_onBackend_keep (Held.countKey_ne ds spec) (.count ·) (by simpa using hopen) hp

/-- **A batch written through the layer** keeps the invariant: after a write the layer keeps
each document written, the last of an id winning as at the backend, and after a failure it drops
every id of the batch. -/
theorem Overlaid.exec_insertWith {options : InsertOptions} {requests : List InsertRequest}
    (ho : Overlaid I Open N h e) (hopen : Open e.backend)
    (hw : WritesBatch I Open N ds requests (Backend.insertWith ds options requests)) :
    Overlaid I Open N ((Engine.insertWith ds options requests).exec h e).2.1
      ((Engine.insertWith ds options requests).exec h e).2.2 := by
  obtain ⟨hI, hopen', hc⟩ := ho.coherentOff_after hopen hw.1
  have hwritten := hw.2 h e.backend
  simp only [Engine.insertWith, Engine.exec_through ho.layered, Run.exec_bind, Run.exec_tryCatch,
    Engine.exec_onBackend]
  generalize (Backend.insertWith ds options requests).exec h e.backend = r at hI hopen' hc hwritten
  obtain ⟨res, h', b'⟩ := r
  have hl := Engine.layered_withBackend b' ho.layered
  cases res with
  | error err =>
    simp only [List.forM_eq_forM, Engine.exec_forM_evict hl, Run.exec_throw]
    exact Overlaid.of_open (Engine.layered_foldl hl) (by rw [Engine.backend_foldl]; exact hI)
      (by rw [Engine.backend_foldl]; exact hopen') hc.foldl_remove
  | ok written =>
    obtain ⟨hids, hlast⟩ := hwritten written ho.backend hopen rfl
    -- the keys of the requests are those of the documents written
    have hc' : CoherentOff N (fun k => ∃ d ∈ written, k = Cache.readKey ds d.id) h' { e with backend := b' } := by
      refine hc.mono fun k ⟨r, hr, hk⟩ => ?_
      have hmem : r.document.id ∈ written.map (·.id) := by
        rw [hids]
        exact List.mem_map_of_mem hr
      obtain ⟨d, hd, hdid⟩ := List.mem_map.1 hmem
      exact ⟨d, hd, by rw [hk, hdid]⟩
    simp only [List.forM_eq_forM, Engine.exec_forM_keep hl, Run.exec_pure]
    refine Overlaid.of_open (Engine.layered_foldl hl) (by rw [Engine.backend_foldl]; exact hI)
      (by rw [Engine.backend_foldl]; exact hopen') (hc'.foldl_put fun pre d post hsplit hnot => ?_)
    refine Held.fits_key (x := .document ds d.id) (hlast pre d post hsplit fun hmem => hnot ?_)
    obtain ⟨d', hd', hid⟩ := List.mem_map.1 hmem
    exact List.mem_map.2 ⟨d', hd', by rw [hid]⟩

/-- An update through the layer is a write with the default options. -/
theorem Overlaid.exec_update {requests : List InsertRequest} (ho : Overlaid I Open N h e) (hopen : Open e.backend)
    (hw : WritesBatch I Open N ds requests (Backend.insertWith ds {} requests)) :
    Overlaid I Open N ((Engine.update ds requests).exec h e).2.1 ((Engine.update ds requests).exec h e).2.2 := by
  have hne : e.layers.isEmpty = false := by rcases ho.layered with hl | ⟨c, hl⟩ <;> simp [hl]
  simp only [Engine.update, Run.exec_bind, Run.exec_self, hne, Bool.false_eq_true, if_false]
  exact ho.exec_insertWith hopen hw

/-- **A removal through the layer** keeps the invariant: it drops every id asked, however the
backend's removal ends. -/
theorem Overlaid.exec_remove {ids : List String} (ho : Overlaid I Open N h e) (hopen : Open e.backend)
    (hp : Preserves I Open N (fun key => ∃ id ∈ ids, key = Cache.readKey ds id) (Backend.remove ds ids)) :
    Overlaid I Open N ((Engine.remove ds ids).exec h e).2.1 ((Engine.remove ds ids).exec h e).2.2 := by
  obtain ⟨hI, hopen', hc⟩ := ho.coherentOff_after hopen hp
  simp only [Engine.remove, Engine.exec_through ho.layered, Run.exec_bind, Run.exec_tryCatch,
    Engine.exec_onBackend]
  generalize (Backend.remove ds ids).exec h e.backend = r at hI hopen' hc
  obtain ⟨res, h', b'⟩ := r
  have hl := Engine.layered_withBackend b' ho.layered
  have ho' : Overlaid I Open N h' (ids.foldl (fun e id => e.mapCache (·.remove (Cache.readKey ds id)))
      { e with backend := b' }) :=
    Overlaid.of_open (Engine.layered_foldl hl) (by rw [Engine.backend_foldl]; exact hI)
      (by rw [Engine.backend_foldl]; exact hopen') hc.foldl_remove
  cases res with
  | error err =>
    simp only [List.forM_eq_forM, Engine.exec_forM_evict hl, Run.exec_throw]
    exact ho'
  | ok removed =>
    simp only [List.forM_eq_forM, Engine.exec_forM_evict hl, Run.exec_pure]
    exact ho'

end Calls

/-! ## Runs of calls -/

namespace Engine

/-- Whether a call needs the backend open: every call but opening, closing and asking the
backend's name. -/
def Call.needsOpen : Call → Bool
  | .name | .openStore | .closeStore => false
  | _ => true

/-- The states an engine reaches from one with one layer, a backend state of `I` and a cache
holding no copy, by calls that `Allowed` lets through, each call that needs the backend open
made while it is. -/
inductive Reached (I : Host → Backend → Prop) (Open : Backend → Prop) (Allowed : Call → Prop) :
    Host → Engine → Prop where
  | start {h : Host} {e : Engine} : e.Layered → I h e.backend → HoldsNone e → Reached I Open Allowed h e
  | step {h : Host} {e : Engine} (c : Call) : Reached I Open Allowed h e → Allowed c →
      (c.needsOpen → Open e.backend) → Reached I Open Allowed (c.next h e).1 (c.next h e).2

end Engine

section Runs

variable {I : Host → Backend → Prop} {Open : Backend → Prop} {N : Held → Prop} {Allowed : Engine.Call → Prop}
  {h : Host} {e : Engine}

/-- **Every call keeps the invariant**, from what the backend owes for it. -/
theorem Overlaid.next (hf : Faithful I Open N Allowed) (ho : Overlaid I Open N h e) {c : Engine.Call}
    (hc : Allowed c) (hopen : c.needsOpen → Open e.backend) :
    Overlaid I Open N (c.next h e).1 (c.next h e).2 := by
  cases c with
  | name => rw [Engine.Call.next, exec_name]; exact ho
  | openStore => exact ho.exec_openStore hf
  | closeStore => exact ho.exec_closeStore hf
  | create ds => exact ho.exec_create (hopen rfl) (hf.create ds hc).1 (hf.create ds hc).2
  | hasDataset ds => exact ho.exec_onBackend (hopen rfl) (hf.hasDataset ds hc)
  | config ds => exact (ho.exec_config (hopen rfl) (hf.config ds hc)).2
  | setConfig ds d => exact ho.exec_setConfig (hopen rfl) (hf.setConfig ds d hc)
  | metadata ds => exact (ho.exec_metadata (hopen rfl) (hf.metadata ds hc)).2
  | setMetadata ds d => exact ho.exec_setMetadata (hopen rfl) (hf.setMetadata ds d hc)
  | index ds => exact ho.exec_index (hopen rfl) (hf.index ds hc)
  | tagData ds tag => exact ho.exec_tagData (hopen rfl) (hf.tagData ds tag hc)
  | insertWith ds options requests => exact ho.exec_insertWith (hopen rfl) (hf.insertWith ds options requests hc)
  | update ds requests => exact ho.exec_update (hopen rfl) (hf.update ds requests hc)
  | read ds ids =>
    obtain ⟨check, load, hr⟩ := hf.read ds ids hc h e.backend ho.backend (hopen rfl)
    exact (ho.exec_read (hopen rfl) hr ids).2
  | remove ds ids => exact ho.exec_remove (hopen rfl) (hf.remove ds ids hc)
  | query ds spec => exact ho.exec_query (hopen rfl) (hf.query ds spec hc)
  | count ds spec => exact ho.exec_count (hopen rfl) (hf.count ds spec hc)
  | list => exact ho.exec_onBackend (hopen rfl) (hf.list hc)
  | recalculate ds => exact ho.exec_onBackend (hopen rfl) (hf.recalculate ds hc)

end Runs

end TagStore
