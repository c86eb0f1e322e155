import TagStore.Proofs.Storage.KeyValueReachable
/-!
# Proofs.Storage.KeyValueStore

The key-value backend over any store it may talk to: its own or the host's shared one,
with any write budget and any number of failing scans. `storeIn` is that store and
`entriesIn` its entries; every store call is evaluated against them (`exec_get?_storeIn`,
`exec_put_storeIn`, `exec_delete_storeIn`, `exec_scan_storeIn`): a read changes nothing, a
write that goes through sets one key and a failed one changes nothing, and a failing scan
uses up one failing scan.

On top of that, what an operation may write. `WritesWithin p W op` says that `op`, run by a
backend with key prefix `p`, keeps the prefix and the codec and leaves every key outside
`W` as it was, whether it succeeds or fails. It is assembled like the operations themselves, through
`pure`, `bind`, `try … catch` and the store calls, and gives one lemma per operation of the
backend:

* reading calls (`hasDataset`, `config`, `metadata`, `read`, `list`, a plan) write nothing;
* a call that uses a dataset's index writes only the dataset's counts, which its first use
  and every rescan write;
* `setConfig` and `setMetadata` write the one document they replace, `create` the
  metadata, the configuration and the dataset names;
* a batch writes the dataset's counts and keys under its document prefix (`BatchKey`).
-/

namespace TagStore

open Std

namespace KvStore

/-- A write that goes through sets its key and leaves the failing scans. -/
theorem put_ok {s s' : KvStore} {key : String} {value : ByteArray} (h : s.put key value = .ok s') :
    s'.entries = s.entries.insert key value ∧ s'.failingScans = s.failingScans := by
  unfold put at h
  split at h
  · split at h
    · cases h
      exact ⟨rfl, rfl⟩
    · cases h
    · cases h
      exact ⟨rfl, rfl⟩
  · cases h
    exact ⟨rfl, rfl⟩

end KvStore

namespace KvBackend

/-! ## The store a backend talks to -/

/-- The store a backend talks to: the host's shared store, or its own. -/
def storeIn (h : Host) (k : KvBackend) : KvStore :=
  match k.store with
  | .shared => h.sharedStore
  | .own s => s

/-- The host and the backend once the store the backend talks to is `s`. -/
def withStoreIn (h : Host) (k : KvBackend) (s : KvStore) : Host × KvBackend :=
  match k.store with
  | .shared => ({ h with sharedStore := s }, k)
  | .own _ => (h, { k with store := .own s })

/-- The entries of the store a backend talks to. -/
def entriesIn (h : Host) (k : KvBackend) : ExtTreeMap String ByteArray compare := (storeIn h k).entries

variable {α β : Type} {h : Host} {k : KvBackend}

@[simp] theorem storeIn_withStoreIn (s : KvStore) :
    storeIn (withStoreIn h k s).1 (withStoreIn h k s).2 = s := by
  cases hk : k.store <;> simp [withStoreIn, storeIn, hk]

@[simp] theorem withStoreIn_storeIn : withStoreIn h k (storeIn h k) = (h, k) := by
  cases hk : k.store with
  | shared => simp only [withStoreIn, storeIn, hk]
  | own s => simp only [withStoreIn, storeIn, hk, with_store_self hk]

@[simp] theorem entriesIn_withStoreIn (s : KvStore) :
    entriesIn (withStoreIn h k s).1 (withStoreIn h k s).2 = s.entries := by
  rw [entriesIn, storeIn_withStoreIn]

@[simp] theorem keyPrefix_withStoreIn (s : KvStore) : (withStoreIn h k s).2.keyPrefix = k.keyPrefix := by
  cases hk : k.store <;> simp only [withStoreIn, hk]

@[simp] theorem codec_withStoreIn (s : KvStore) : (withStoreIn h k s).2.codec = k.codec := by
  cases hk : k.store <;> simp only [withStoreIn, hk]

theorem exec_withStore (f : KvStore → α × KvStore) :
    (withStore f).exec h k = (.ok (f (storeIn h k)).1, withStoreIn h k (f (storeIn h k)).2) := by
  cases hk : k.store with
  | shared =>
    simp only [withStore, Run.exec_bind, Run.exec_self, hk, Run.exec_host, Run.exec_modifyHost,
      Run.exec_pure, storeIn, withStoreIn]
  | own s =>
    rw [exec_withStore_own f hk]
    simp only [storeIn, withStoreIn, hk]

/-! ## Store calls -/

theorem exec_get?_storeIn (key : String) : (get? key).exec h k = (.ok (entriesIn h k)[key]?, h, k) := by
  rw [get?, exec_withStore]
  simp only [KvStore.get?, ExtTreeMap.get?_eq_getElem?, withStoreIn_storeIn]
  rfl

theorem exec_put_storeIn (key : String) (value : ByteArray) :
    (put key value).exec h k =
      match (storeIn h k).put key value with
      | .ok s => (.ok (), withStoreIn h k s)
      | .error e => (.error e, h, k) := by
  simp only [put, Run.exec_bind, exec_withStore]
  cases (storeIn h k).put key value with
  | ok s => rfl
  | error e => simp only [withStoreIn_storeIn, Run.exec_ofOutcome]

theorem exec_delete_storeIn (key : String) :
    (delete key).exec h k = (.ok ((entriesIn h k).contains key),
      withStoreIn h k { storeIn h k with entries := (entriesIn h k).erase key }) := by
  rw [delete, exec_withStore]
  rfl

theorem exec_scan_storeIn (pre : String) :
    (scan pre).exec h k =
      match (storeIn h k).failingScans with
      | n + 1 => (.error (.backend "scan interrupted"), withStoreIn h k { storeIn h k with failingScans := n })
      | 0 => (.ok ((entriesIn h k).toList.filter fun p => p.1.startsWith pre), h, k) := by
  simp only [scan, Run.exec_bind, exec_withStore]
  cases hf : (storeIn h k).failingScans with
  | zero =>
    simp only [KvStore.scan_eq_filter hf, withStoreIn_storeIn, Run.exec_ofOutcome]
    rfl
  | succ n =>
    simp only [KvStore.scan, hf]
    rfl

theorem exec_loadDocument_storeIn (name id : String) :
    (loadDocument name id).exec h k =
      (match (entriesIn h k)[k.documentKey name id]? with
        | none => .ok none
        | some b => (k.codec.decode b >>= StoredDocument.ofDocument).map some, h, k) := by
  simp only [loadDocument, Run.exec_bind, Run.exec_self, exec_get?_storeIn]
  cases (entriesIn h k)[k.documentKey name id]? with
  | none => rfl
  | some b =>
    simp only [Run.exec_map, Run.exec_ofOutcome]
    cases k.codec.decode b >>= StoredDocument.ofDocument <;> rfl

/-- A plan's load of one id only reads. -/
theorem exec_planLoad_storeIn (name id : String) :
    (do return (← loadDocument name id).map (·.toDocument) : Run KvBackend (Option Document)).exec h k =
      ((match (entriesIn h k)[k.documentKey name id]? with
        | none => .ok none
        | some b => (k.codec.decode b >>= StoredDocument.ofDocument).map fun s => some s.toDocument), h, k) := by
  simp only [Run.exec_bind, exec_loadDocument_storeIn]
  cases (entriesIn h k)[k.documentKey name id]? with
  | none => rfl
  | some b =>
    dsimp only
    cases k.codec.decode b >>= StoredDocument.ofDocument <;> rfl

theorem exec_hasDataset_storeIn (name : String) :
    (hasDataset name).exec h k = (.ok (entriesIn h k)[k.configKey name]?.isSome, h, k) := by
  simp only [hasDataset, Run.exec_bind, Run.exec_self, exec_get?_storeIn, Run.exec_pure]

theorem exec_require_storeIn (name : String) :
    (require name).exec h k =
      ((if (entriesIn h k)[k.configKey name]?.isNone then .error (missingDataset name) else .ok ()), h, k) := by
  simp only [require, Run.exec_bind, Run.exec_self, exec_get?_storeIn]
  split <;> rfl

/-- Replacing the configuration of a dataset that has none fails and changes nothing. -/
theorem exec_setConfig_of_missing {name : String} (hconfig : (entriesIn h k)[k.configKey name]? = none)
    (d : Document) : (setConfig name d).exec h k = (.error (missingDataset name), h, k) := by
  simp only [setConfig, Run.exec_bind, exec_require_storeIn, hconfig, Option.isNone_none, if_true]

/-! ## What an operation writes -/

/-- An operation run by a backend with key prefix `p` keeps the prefix and the codec and
writes no key of its store outside `W`, however it ends: every other entry is as it was. -/
def WritesWithin (p : String) (W : String → Prop) (op : Run KvBackend α) : Prop :=
  ∀ h k, k.keyPrefix = p → (op.exec h k).2.2.keyPrefix = p ∧ (op.exec h k).2.2.codec = k.codec ∧
    ∀ key, ¬ W key → (entriesIn (op.exec h k).2.1 (op.exec h k).2.2)[key]? = (entriesIn h k)[key]?

/-- The keys a batch of a dataset writes: its counts and keys under its document prefix. -/
def BatchKey (p name key : String) : Prop :=
  key = p ++ name ++ "/index" ∨ key.startsWith (p ++ name ++ "/doc/") = true

section Writes

variable {p : String} {W W' : String → Prop}

/-- An operation that leaves the host and the backend as they were writes nothing. -/
theorem writesWithin_of_exec {op : Run KvBackend α} (hop : ∀ h k, (op.exec h k).2 = (h, k)) :
    WritesWithin p W op := by
  intro h k hp
  rw [hop h k]
  exact ⟨hp, rfl, fun _ _ => rfl⟩

theorem writesWithin_pure (a : α) : WritesWithin p W (pure a : Run KvBackend α) :=
  writesWithin_of_exec fun _ _ => rfl

theorem writesWithin_throw (e : Error) : WritesWithin p W (throw e : Run KvBackend α) :=
  writesWithin_of_exec fun _ _ => rfl

theorem writesWithin_ofOutcome (o : Outcome α) : WritesWithin p W (Run.ofOutcome o : Run KvBackend α) :=
  writesWithin_of_exec fun h k => by rw [Run.exec_ofOutcome]

theorem WritesWithin.mono {op : Run KvBackend α} (hop : WritesWithin p W op) (hW : ∀ key, W key → W' key) :
    WritesWithin p W' op := fun h k hp =>
  ⟨(hop h k hp).1, (hop h k hp).2.1, fun key hkey => (hop h k hp).2.2 key (fun hw => hkey (hW key hw))⟩

theorem writesWithin_bind {op : Run KvBackend α} {f : α → Run KvBackend β} (hop : WritesWithin p W op)
    (hf : ∀ a, WritesWithin p W (f a)) : WritesWithin p W (op >>= f) := by
  intro h k hp
  rw [Run.exec_bind]
  obtain ⟨hp₁, hc₁, hkeys₁⟩ := hop h k hp
  rcases hexec : op.exec h k with ⟨_ | a, h₁, k₁⟩
  · rw [hexec] at hp₁ hc₁ hkeys₁
    exact ⟨hp₁, hc₁, hkeys₁⟩
  · rw [hexec] at hp₁ hc₁ hkeys₁
    obtain ⟨hp₂, hc₂, hkeys₂⟩ := hf a h₁ k₁ hp₁
    exact ⟨hp₂, hc₂.trans hc₁, fun key hkey => (hkeys₂ key hkey).trans (hkeys₁ key hkey)⟩

/-- What follows a read of the backend's own state may use it: its prefix is `p`. -/
theorem writesWithin_self_bind {f : KvBackend → Run KvBackend β}
    (hf : ∀ k, k.keyPrefix = p → WritesWithin p W (f k)) : WritesWithin p W (Run.self >>= f) := by
  intro h k hp
  rw [Run.exec_bind, Run.exec_self]
  exact hf k hp h k hp

theorem writesWithin_map {op : Run KvBackend α} (f : α → β) (hop : WritesWithin p W op) :
    WritesWithin p W (f <$> op) := by
  intro h k hp
  rw [Run.exec_map]
  obtain ⟨hp₁, hc₁, hkeys₁⟩ := hop h k hp
  rcases hexec : op.exec h k with ⟨_ | a, h₁, k₁⟩ <;> rw [hexec] at hp₁ hc₁ hkeys₁ <;>
    exact ⟨hp₁, hc₁, hkeys₁⟩

theorem writesWithin_tryCatch {op : Run KvBackend α} {handle : Error → Run KvBackend α}
    (hop : WritesWithin p W op) (hhandle : ∀ e, WritesWithin p W (handle e)) :
    WritesWithin p W (tryCatch op handle) := by
  intro h k hp
  rw [Run.exec_tryCatch]
  obtain ⟨hp₁, hc₁, hkeys₁⟩ := hop h k hp
  rcases hexec : op.exec h k with ⟨e | a, h₁, k₁⟩
  · rw [hexec] at hp₁ hc₁ hkeys₁
    obtain ⟨hp₂, hc₂, hkeys₂⟩ := hhandle e h₁ k₁ hp₁
    exact ⟨hp₂, hc₂.trans hc₁, fun key hkey => (hkeys₂ key hkey).trans (hkeys₁ key hkey)⟩
  · rw [hexec] at hp₁ hc₁ hkeys₁
    exact ⟨hp₁, hc₁, hkeys₁⟩

theorem writesWithin_mapM {f : α → Run KvBackend β} :
    ∀ (l : List α), (∀ a ∈ l, WritesWithin p W (f a)) → WritesWithin p W (l.mapM f)
  | [], _ => writesWithin_pure _
  | a :: l, hf => by
    rw [List.mapM_cons]
    exact writesWithin_bind (hf a List.mem_cons_self) fun _ =>
      writesWithin_bind (writesWithin_mapM l fun b hb => hf b (List.mem_cons_of_mem _ hb)) fun _ =>
        writesWithin_pure _

/-- A change of the backend's own state that keeps its store, prefix and codec writes
nothing. -/
theorem writesWithin_modifySelf {f : KvBackend → KvBackend} (hf : ∀ k, (f k).store = k.store)
    (hpre : ∀ k, (f k).keyPrefix = k.keyPrefix) (hcodec : ∀ k, (f k).codec = k.codec) :
    WritesWithin p W (Run.modifySelf f) := by
  intro h k hp
  rw [Run.exec_modifySelf]
  refine ⟨(hpre k).trans hp, hcodec k, fun key _ => ?_⟩
  simp only [entriesIn, storeIn, hf k]

theorem writesWithin_now : WritesWithin p W (Run.now : Run KvBackend Int) := by
  intro h k hp
  rw [Run.exec_now]
  refine ⟨hp, rfl, fun key _ => ?_⟩
  simp only [entriesIn, storeIn]

/-! ### Store calls -/

theorem writesWithin_get? (key : String) : WritesWithin p W (get? key) :=
  writesWithin_of_exec fun h k => by rw [exec_get?_storeIn]

theorem writesWithin_put {key : String} (value : ByteArray) (hkey : W key) : WritesWithin p W (put key value) := by
  intro h k hp
  rw [exec_put_storeIn]
  cases hput : (storeIn h k).put key value with
  | error e => exact ⟨hp, rfl, fun _ _ => rfl⟩
  | ok s =>
    refine ⟨(keyPrefix_withStoreIn s).trans hp, codec_withStoreIn s, fun key' hkey' => ?_⟩
    have hne : key ≠ key' := fun heq => hkey' (heq ▸ hkey)
    rw [entriesIn_withStoreIn, (KvStore.put_ok hput).1, ExtTreeMap.getElem?_insert_of_ne hne]
    rfl

theorem writesWithin_delete {key : String} (hkey : W key) : WritesWithin p W (delete key) := by
  intro h k hp
  rw [exec_delete_storeIn]
  refine ⟨(keyPrefix_withStoreIn _).trans hp, codec_withStoreIn _, fun key' hkey' => ?_⟩
  have hne : key ≠ key' := fun heq => hkey' (heq ▸ hkey)
  rw [entriesIn_withStoreIn, ExtTreeMap.getElem?_erase_of_ne hne]

theorem writesWithin_scan (pre : String) : WritesWithin p W (scan pre) := by
  intro h k hp
  rw [exec_scan_storeIn]
  cases (storeIn h k).failingScans with
  | zero => exact ⟨hp, rfl, fun _ _ => rfl⟩
  | succ n =>
    exact ⟨(keyPrefix_withStoreIn _).trans hp, codec_withStoreIn _, fun _ _ => by rw [entriesIn_withStoreIn]; rfl⟩

/-! ### Operations that only read -/

variable {name : String}

theorem writesWithin_getDocument (key : String) : WritesWithin p W (getDocument key) := by
  refine writesWithin_bind (writesWithin_get? key) fun o => ?_
  rcases o with _ | b
  · exact writesWithin_pure _
  · exact writesWithin_self_bind fun _ _ => writesWithin_map _ (writesWithin_ofOutcome _)

theorem writesWithin_loadDocument (id : String) : WritesWithin p W (loadDocument name id) :=
  writesWithin_of_exec fun h k => by rw [exec_loadDocument_storeIn]

theorem writesWithin_names : WritesWithin p W names := by
  refine writesWithin_self_bind fun _ _ => writesWithin_bind (writesWithin_get? _) fun o => ?_
  rcases o with _ | b
  · exact writesWithin_pure _
  · dsimp only
    split
    · exact writesWithin_pure _
    · exact writesWithin_throw _

theorem writesWithin_require : WritesWithin p W (require name) :=
  writesWithin_of_exec fun h k => by rw [exec_require_storeIn]

theorem writesWithin_hasDataset : WritesWithin p W (hasDataset name) :=
  writesWithin_of_exec fun h k => by rw [exec_hasDataset_storeIn]

theorem writesWithin_config : WritesWithin p W (config name) :=
  writesWithin_self_bind fun _ _ => writesWithin_getDocument _

theorem writesWithin_metadata : WritesWithin p W (metadata name) :=
  writesWithin_self_bind fun _ _ => writesWithin_getDocument _

theorem writesWithin_read (ids : List String) : WritesWithin p W (read name ids) :=
  writesWithin_bind writesWithin_require fun _ =>
    writesWithin_bind (writesWithin_mapM ids fun _ _ => writesWithin_loadDocument _) fun _ => writesWithin_pure _

theorem writesWithin_list : WritesWithin p W list := by
  refine writesWithin_bind writesWithin_names fun ns => writesWithin_mapM ns fun n _ => ?_
  refine writesWithin_bind writesWithin_config fun _ => writesWithin_bind writesWithin_metadata fun o => ?_
  rcases o with _ | m
  · exact writesWithin_bind writesWithin_now fun _ => writesWithin_pure _
  · exact writesWithin_pure _

theorem writesWithin_plan (spec : QuerySpec) : WritesWithin p W (plan name spec) := by
  unfold plan
  split
  · exact writesWithin_throw _
  · exact writesWithin_bind writesWithin_config fun _ => writesWithin_self_bind fun _ _ => writesWithin_ofOutcome _

/-! ### Indexes: only the counts are written -/

theorem writesWithin_storedDocuments : WritesWithin p W (storedDocuments name) :=
  writesWithin_self_bind fun _ _ => writesWithin_bind (writesWithin_scan _) fun _ => writesWithin_pure _

theorem writesWithin_nextSeq : WritesWithin p W nextSeq :=
  writesWithin_self_bind fun _ _ =>
    writesWithin_bind (writesWithin_modifySelf (fun _ => rfl) (fun _ => rfl) fun _ => rfl) fun _ =>
      writesWithin_pure _

theorem writesWithin_setIndex (index : TagIndex) : WritesWithin p W (setIndex name index) :=
  writesWithin_modifySelf (fun _ => rfl) (fun _ => rfl) fun _ => rfl

theorem writesWithin_rebuild (index : TagIndex) : WritesWithin p W (rebuild name index) :=
  writesWithin_bind writesWithin_storedDocuments fun _ =>
    writesWithin_bind (writesWithin_modifySelf (fun _ => rfl) (fun _ => rfl) fun _ => rfl) fun _ =>
      writesWithin_pure _

theorem writesWithin_saveCounts (index : TagIndex) (hW : W (p ++ name ++ "/index")) :
    WritesWithin p W (saveCounts name index) :=
  writesWithin_self_bind fun k hk => writesWithin_put _ (by rw [indexKey, hk]; exact hW)

theorem writesWithin_dataset (hW : W (p ++ name ++ "/index")) : WritesWithin p W (dataset name) := by
  refine writesWithin_self_bind fun _ _ => ?_
  split
  · exact writesWithin_pure _
  · exact writesWithin_bind writesWithin_require fun _ =>
      writesWithin_bind (writesWithin_rebuild _) fun _ =>
        writesWithin_bind (writesWithin_saveCounts _ hW) fun _ =>
          writesWithin_bind (writesWithin_setIndex _) fun _ => writesWithin_pure _

theorem writesWithin_rescan (hW : W (p ++ name ++ "/index")) : WritesWithin p W (rescan name) :=
  writesWithin_bind (writesWithin_dataset hW) fun _ =>
    writesWithin_bind (writesWithin_rebuild _) fun _ =>
      writesWithin_bind (writesWithin_setIndex _) fun _ =>
        writesWithin_bind (writesWithin_saveCounts _ hW) fun _ => writesWithin_pure _

theorem writesWithin_failBatch (applied total : Nat) (cause : Error) (hW : W (p ++ name ++ "/index")) :
    WritesWithin p W (failBatch name applied total cause : Run KvBackend α) :=
  writesWithin_bind (writesWithin_tryCatch (writesWithin_bind (writesWithin_rescan hW) fun _ => writesWithin_pure _)
    fun _ => writesWithin_pure _) fun _ => writesWithin_throw _

theorem writesWithin_index (hW : W (p ++ name ++ "/index")) : WritesWithin p W (index name) := by
  refine writesWithin_bind (writesWithin_dataset hW) fun _ =>
    writesWithin_self_bind fun _ _ => writesWithin_bind (writesWithin_get? _) fun o => ?_
  rcases o with _ | b
  · exact writesWithin_pure _
  · dsimp only
    split
    · exact writesWithin_pure _
    · exact writesWithin_throw _

theorem writesWithin_tagData (tag : String) (hW : W (p ++ name ++ "/index")) :
    WritesWithin p W (tagData name tag) :=
  writesWithin_bind (writesWithin_dataset hW) fun _ => writesWithin_pure _

theorem writesWithin_recalculate (hW : W (p ++ name ++ "/index")) : WritesWithin p W (recalculate name) :=
  writesWithin_bind (writesWithin_dataset hW) fun _ => writesWithin_rescan hW

theorem writesWithin_query (spec : QuerySpec) (hW : W (p ++ name ++ "/index")) :
    WritesWithin p W (query name spec) :=
  writesWithin_bind (writesWithin_plan spec) fun _ => writesWithin_bind (writesWithin_dataset hW) fun _ =>
    writesWithin_of_exec fun h k => by rw [exec_execute fun id => exec_planLoad_storeIn name id]

theorem writesWithin_count (spec : QuerySpec) (hW : W (p ++ name ++ "/index")) :
    WritesWithin p W (count name spec) :=
  writesWithin_bind (writesWithin_plan spec) fun _ => writesWithin_bind (writesWithin_dataset hW) fun _ =>
    writesWithin_of_exec fun h k => by rw [TagStore.exec_count fun id => exec_planLoad_storeIn name id]

/-! ### Operations that write -/

theorem writesWithin_putDocument {key : String} (d : Document) (hW : W key) :
    WritesWithin p W (putDocument key d) :=
  writesWithin_self_bind fun _ _ => writesWithin_put _ hW

theorem writesWithin_setConfig (d : Document) (hW : W (p ++ name ++ "/config")) :
    WritesWithin p W (setConfig name d) :=
  writesWithin_bind writesWithin_require fun _ => writesWithin_self_bind fun k hk =>
    writesWithin_bind (writesWithin_putDocument _ (by rw [configKey, hk]; exact hW)) fun _ => writesWithin_pure _

theorem writesWithin_setMetadata (d : Document) (hW : W (p ++ name ++ "/metadata")) :
    WritesWithin p W (setMetadata name d) :=
  writesWithin_bind writesWithin_require fun _ => writesWithin_self_bind fun k hk =>
    writesWithin_bind (writesWithin_putDocument _ (by rw [metadataKey, hk]; exact hW)) fun _ => writesWithin_pure _

theorem writesWithin_create (hmeta : W (p ++ name ++ "/metadata")) (hconfig : W (p ++ name ++ "/config"))
    (hnames : W (p ++ "datasets")) : WritesWithin p W (create name) := by
  refine writesWithin_bind (writesWithin_ofOutcome _) fun _ => writesWithin_self_bind fun k hk => ?_
  refine writesWithin_bind (writesWithin_getDocument _) fun o => ?_
  rcases o with _ | c
  · -- a new dataset: its metadata, its configuration, then the names
    refine writesWithin_bind writesWithin_now fun _ => ?_
    refine writesWithin_bind (writesWithin_putDocument _ (by rw [metadataKey, hk]; exact hmeta)) fun _ => ?_
    refine writesWithin_bind (writesWithin_putDocument _ (by rw [configKey, hk]; exact hconfig)) fun _ => ?_
    exact writesWithin_bind writesWithin_names fun _ =>
      writesWithin_bind (writesWithin_put _ (by rw [datasetsKey, hk]; exact hnames)) fun _ => writesWithin_pure _
  · exact writesWithin_pure _

theorem writesWithin_writeAll (options : InsertOptions) (time : Int) (total : Nat)
    (hW : ∀ key, BatchKey p name key → W key) :
    ∀ (requests : List InsertRequest) (applied : Nat) (out : List Document),
      WritesWithin p W (writeAll name options time total applied requests out)
  | [], _, _ => writesWithin_pure _
  | r :: rs, applied, out => by
    refine writesWithin_bind writesWithin_nextSeq fun seq => writesWithin_self_bind fun k hk => ?_
    refine writesWithin_bind (writesWithin_tryCatch (writesWithin_put _ (hW _ (.inr ?_)))
      fun _ => writesWithin_failBatch _ _ _ (hW _ (.inl rfl))) fun _ => ?_
    · rw [← hk]
      exact startsWith_documentKey name _
    · exact writesWithin_writeAll options time total hW rs (applied + 1) _

theorem writesWithin_insertWith (options : InsertOptions) (requests : List InsertRequest)
    (hW : ∀ key, BatchKey p name key → W key) : WritesWithin p W (insertWith name options requests) :=
  writesWithin_bind (writesWithin_dataset (hW _ (.inl rfl))) fun _ =>
    writesWithin_bind (writesWithin_ofOutcome _) fun _ => writesWithin_bind writesWithin_now fun _ =>
      writesWithin_bind (writesWithin_writeAll options _ _ hW requests 0 []) fun _ =>
        writesWithin_bind (writesWithin_rescan (hW _ (.inl rfl))) fun _ => writesWithin_pure _

theorem writesWithin_removeAll (total : Nat) (hW : ∀ key, BatchKey p name key → W key) :
    ∀ (ids : List String) (applied : Nat) (out : List Document),
      WritesWithin p W (removeAll name total applied ids out)
  | [], _, _ => writesWithin_pure _
  | id :: ids, applied, out => by
    refine writesWithin_bind (writesWithin_tryCatch (writesWithin_loadDocument id)
      fun _ => writesWithin_failBatch _ _ _ (hW _ (.inl rfl))) fun found => ?_
    rcases found with _ | s
    · exact writesWithin_removeAll total hW ids (applied + 1) out
    · refine writesWithin_self_bind fun k hk => writesWithin_bind (writesWithin_delete (hW _ (.inr ?_))) fun _ =>
        writesWithin_removeAll total hW ids (applied + 1) _
      rw [← hk]
      exact startsWith_documentKey name id

theorem writesWithin_remove (ids : List String) (hW : ∀ key, BatchKey p name key → W key) :
    WritesWithin p W (remove name ids) :=
  writesWithin_bind (writesWithin_dataset (hW _ (.inl rfl))) fun _ =>
    writesWithin_bind (writesWithin_removeAll _ hW ids 0 []) fun _ =>
      writesWithin_bind (writesWithin_rescan (hW _ (.inl rfl))) fun _ => writesWithin_pure _

end Writes

end KvBackend

end TagStore
