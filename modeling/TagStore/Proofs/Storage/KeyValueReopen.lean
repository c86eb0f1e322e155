import TagStore.Proofs.Storage.Reopen
import TagStore.Proofs.Storage.TransparentKeyValue
import TagStore.Proofs.Storage.KeyValueIsolation
import TagStore.Proofs.Storage.WriteOrder
/-!
# Proofs.Storage.KeyValueReopen

A key-value backend keeps nothing its store does not hold: a new backend over the same store,
key prefix, codec and planner answers every call that only reads as the backend does, from
every reachable state (`ReadCall.onKv_reopened`).

Two facts carry this. What the backend keeps beside its store is its indexes and its sequence.
Every index it keeps is the build of the stored documents (`Sound`), counts no clamped
decrement, belongs to a dataset with a configuration, and has its counts written (`Stored`,
kept by every call: `Reachable.stored`). So the new backend's first use of a dataset builds the
very index the backend keeps and writes the counts already there (`exec_dataset_reopened`).
Every read past that first use neither reads nor writes the indexes or the sequence (`Blind`),
so it runs alike on two backends that differ only there.
-/

namespace TagStore

open Std

namespace KvBackend

variable {p n : String} {k : KvBackend} {e : ExtTreeMap String ByteArray compare} {t : TagIndex}

/-! ## What the backend records beside its indexes -/

/-- What a backend under the key prefix `p` records for a dataset `n` whose index is `t`, in
the entries `e`: the name has no `/`, the index counts no clamped decrement, the dataset has a
configuration, and its counts key holds the counts of `t`. -/
structure Recorded (p : String) (e : ExtTreeMap String ByteArray compare) (n : String) (t : TagIndex) :
    Prop where
  slashless : Slashless n
  clean : t.inconsistencies = 0
  config : (e[p ++ n ++ "/config"]?).isSome
  counts : e[p ++ n ++ "/index"]? = some (encodeCounts t.counts)

theorem Recorded.insert (hr : Recorded p e n t) {key : String} (hkey : key ≠ p ++ n ++ "/index")
    (v : ByteArray) : Recorded p (e.insert key v) n t where
  slashless := hr.slashless
  clean := hr.clean
  config := isSome_getElem?_insert_of_isSome hr.config
  counts := by rw [ExtTreeMap.getElem?_insert_of_ne hkey]; exact hr.counts

theorem Recorded.erase (hr : Recorded p e n t) {key : String} (hindex : key ≠ p ++ n ++ "/index")
    (hconfig : key ≠ p ++ n ++ "/config") : Recorded p (e.erase key) n t where
  slashless := hr.slashless
  clean := hr.clean
  config := by rw [ExtTreeMap.getElem?_erase_of_ne hconfig]; exact hr.config
  counts := by rw [ExtTreeMap.getElem?_erase_of_ne hindex]; exact hr.counts

/-- A backend under the key prefix `p`, over a store of its own that never fails, that records
every dataset it keeps an index of. -/
structure Stored (p : String) (k : KvBackend) : Prop where
  keyPrefix : k.keyPrefix = p
  faultless : ∃ e, k.store = .own { entries := e }
  recorded : ∀ e, k.store = .own { entries := e } → ∀ n t, k.datasets[n]? = some t → Recorded p e n t

theorem stored_new (keyPrefix : String) (codec : Codec) (planner : Planner) :
    Stored keyPrefix { store := .own {}, keyPrefix, codec, planner } :=
  ⟨rfl, ⟨∅, rfl⟩, fun _ _ n t hn => by simp at hn⟩

/-- The same indexes and prefix, over entries that keep every record. -/
theorem Stored.of_entries (hk : Stored p k) (he : k.store = .own { entries := e }) {k' : KvBackend}
    {e' : ExtTreeMap String ByteArray compare} (hp : k'.keyPrefix = p) (hstore : k'.store = .own { entries := e' })
    (hds : k'.datasets = k.datasets) (hkeep : ∀ n t, Recorded p e n t → Recorded p e' n t) : Stored p k' := by
  refine ⟨hp, ⟨e', hstore⟩, fun e'' he'' m t' hm => ?_⟩
  rw [hstore] at he''
  cases he''
  rw [hds] at hm
  exact hkeep m t' (hk.recorded e he m t' hm)

/-- **An index put in place with its counts written.** Keeping for a dataset with a
configuration an index that counts no clamped decrement, with its counts written, keeps every
record. -/
theorem Stored.insert (hk : Stored p k) (he : k.store = .own { entries := e }) (hn : Slashless n)
    (hclean : t.inconsistencies = 0) (hconfig : (e[p ++ n ++ "/config"]?).isSome) {k' : KvBackend}
    (hp : k'.keyPrefix = p)
    (hstore : k'.store = .own { entries := e.insert (p ++ n ++ "/index") (encodeCounts t.counts) })
    (hds : k'.datasets = k.datasets.insert n t) : Stored p k' := by
  refine ⟨hp, ⟨_, hstore⟩, fun e' he' m t' hm => ?_⟩
  rw [hstore] at he'
  cases he'
  rw [hds] at hm
  rcases ExtTreeMap.eq_or_of_getElem?_insert hm with ⟨rfl, rfl⟩ | ⟨hne, hold⟩
  · exact ⟨hn, hclean, isSome_getElem?_insert_of_isSome hconfig, ExtTreeMap.getElem?_insert_self⟩
  · exact (hk.recorded e he m t' hold).insert (fun heq => hne (name_eq_of_key_eq heq).symm) _

/-! ## Every call keeps the records -/

/-- A document key is the counts key of no dataset without `/`. -/
theorem documentKey_ne_index (hp : k.keyPrefix = p) (name id : String) (hn : Slashless n) :
    k.documentKey name id ≠ p ++ n ++ "/index" := by
  subst hp
  exact (ne_documentKey_of_not_startsWith (not_startsWith_doc_of_count (n := name) hn (by decide)) id).symm

/-- A document key is the configuration key of no dataset without `/`. -/
theorem documentKey_ne_config (hp : k.keyPrefix = p) (name id : String) (hn : Slashless n) :
    k.documentKey name id ≠ p ++ n ++ "/config" := by
  subst hp
  exact (ne_documentKey_of_not_startsWith (config_not_startsWith_doc (n := name) hn) id).symm

theorem keeps_stored_self_bind {β : Type} {f : KvBackend → Run KvBackend β}
    (hf : ∀ k₀, k₀.keyPrefix = p → Run.Keeps (Stored p) (f k₀)) : Run.Keeps (Stored p) (Run.self >>= f) := by
  intro h k hk
  rw [Run.exec_bind, Run.exec_self]
  exact hf k hk.keyPrefix h k hk

theorem keeps_stored_put {key : String} (hkey : ∀ n, Slashless n → key ≠ p ++ n ++ "/index") (value : ByteArray) :
    Run.Keeps (Stored p) (put key value) := by
  intro h k hk
  obtain ⟨e, he⟩ := hk.faultless
  rw [exec_put he]
  exact hk.of_entries he hk.keyPrefix rfl rfl fun n t hr => hr.insert (hkey n hr.slashless) value

theorem keeps_stored_delete {key : String}
    (hkey : ∀ n, Slashless n → key ≠ p ++ n ++ "/index" ∧ key ≠ p ++ n ++ "/config") :
    Run.Keeps (Stored p) (delete key) := by
  intro h k hk
  obtain ⟨e, he⟩ := hk.faultless
  rw [exec_delete he]
  exact hk.of_entries he hk.keyPrefix rfl rfl fun n t hr => hr.erase (hkey n hr.slashless).1 (hkey n hr.slashless).2

theorem keeps_stored_putDocument {key : String} (hkey : ∀ n, Slashless n → key ≠ p ++ n ++ "/index")
    (d : Document) : Run.Keeps (Stored p) (putDocument key d) :=
  Run.keeps_bind (Run.keeps_self _) fun _ => keeps_stored_put hkey _

theorem keeps_stored_nextSeq : Run.Keeps (Stored p) nextSeq := fun h k hk => by
  rw [exec_nextSeq]
  exact ⟨hk.keyPrefix, hk.faultless, hk.recorded⟩

/-- **A dataset's first use keeps the records**: it fails and changes nothing, or it gives an
index the backend then keeps. -/
theorem Stored.exec_dataset (hk : Stored p k) (hn : Slashless n) (h : Host) :
    (∃ err, (dataset n).exec h k = (.error err, h, k)) ∨
      ∃ t k', (dataset n).exec h k = (.ok t, h, k') ∧ Stored p k' ∧ k'.datasets[n]? = some t := by
  obtain ⟨e, he⟩ := hk.faultless
  have hp := hk.keyPrefix
  subst hp
  rcases hidx : k.datasets[n]? with _ | t
  · cases hconfig : e[k.configKey n]? with
    | none => exact .inl ⟨_, exec_dataset_of_missing he hidx hconfig⟩
    | some b =>
      have hsome : (e[k.configKey n]?).isSome := by rw [hconfig]; rfl
      -- built from nothing, the index counts no clamped decrement
      exact .inr ⟨_, _, exec_dataset_of_uncached he hidx hsome, hk.insert he hn rfl hsome rfl rfl rfl,
        ExtTreeMap.getElem?_insert_self⟩
  · exact .inr ⟨t, k, exec_dataset_of_cached hidx, hk, hidx⟩

theorem keeps_stored_dataset (hn : Slashless n) : Run.Keeps (Stored p) (dataset n) := by
  intro h k hk
  rcases hk.exec_dataset hn h with ⟨err, hexec⟩ | ⟨t, k', hexec, hk', -⟩
  · rw [hexec]
    exact hk
  · rw [hexec]
    exact hk'

/-- A rescan of a dataset in use writes the counts of the index it puts in place. -/
theorem Stored.rescan_of_cached (hk : Stored p k) (hidx : k.datasets[n]? = some t) (h : Host) :
    Stored p ((rescan n).exec h k).2.2 := by
  obtain ⟨e, he⟩ := hk.faultless
  have hr := hk.recorded e he n t hidx
  have hp := hk.keyPrefix
  subst hp
  rw [exec_rescan_of_cached he hidx]
  exact hk.insert he hr.slashless (by rw [TagIndex.recalculate_fst]; exact hr.clean) hr.config rfl rfl rfl

theorem keeps_stored_rescan (hn : Slashless n) : Run.Keeps (Stored p) (rescan n) := by
  intro h k hk
  rcases hk.exec_dataset hn h with ⟨err, hexec⟩ | ⟨t, k', hexec, hk', hidx⟩
  · rw [rescan, Run.exec_bind, hexec]
    exact hk
  · -- past the first use, the rescan goes on as from a backend that keeps the index
    have hsame : (rescan n).exec h k = (rescan n).exec h k' := by
      rw [rescan, Run.exec_bind, hexec, Run.exec_bind, exec_dataset_of_cached hidx]
    rw [hsame]
    exact hk'.rescan_of_cached hidx h

theorem keeps_stored_failBatch {α : Type} (hn : Slashless n) (applied total : Nat) (cause : Error) :
    Run.Keeps (Stored p) (failBatch n applied total cause : Run KvBackend α) :=
  Run.keeps_bind (Run.keeps_tryCatch (Run.keeps_bind (keeps_stored_rescan hn) fun _ => Run.keeps_pure _ _)
    fun _ => Run.keeps_pure _ _) fun _ => Run.keeps_throw _ _

theorem keeps_stored_writeAll (hn : Slashless n) (options : InsertOptions) (time : Int) (total : Nat) :
    ∀ (requests : List InsertRequest) (applied : Nat) (out : List Document),
      Run.Keeps (Stored p) (writeAll n options time total applied requests out)
  | [], _, _ => Run.keeps_pure _ _
  | _ :: rs, applied, _ =>
    Run.keeps_bind keeps_stored_nextSeq fun _ => keeps_stored_self_bind fun _ hp =>
      Run.keeps_bind (Run.keeps_tryCatch (keeps_stored_put (fun _ hm => documentKey_ne_index hp _ _ hm) _)
        fun _ => keeps_stored_failBatch hn _ _ _)
        fun _ => keeps_stored_writeAll hn options time total rs (applied + 1) _

theorem keeps_stored_removeAll (hn : Slashless n) (total : Nat) :
    ∀ (ids : List String) (applied : Nat) (out : List Document),
      Run.Keeps (Stored p) (removeAll n total applied ids out)
  | [], _, _ => Run.keeps_pure _ _
  | id :: ids, applied, out => by
    refine Run.keeps_bind (Run.keeps_tryCatch (keeps_loadDocument _ n id)
      fun _ => keeps_stored_failBatch hn _ _ _) fun o => ?_
    rcases o with _ | s
    · exact keeps_stored_removeAll hn total ids (applied + 1) out
    · exact keeps_stored_self_bind fun _ hp =>
        Run.keeps_bind (keeps_stored_delete fun _ hm =>
          ⟨documentKey_ne_index hp _ _ hm, documentKey_ne_config hp _ _ hm⟩) fun _ =>
          keeps_stored_removeAll hn total ids (applied + 1) _

/-- The keys of a dataset's metadata and configuration, and of the dataset names, end unlike
a counts key. -/
theorem metadataKey_ne_index (name : String) (m : String) : k.metadataKey name ≠ p ++ m ++ "/index" :=
  append_ne_of_getLast? (by decide) (by decide) (by decide)

theorem configKey_ne_index (name : String) (m : String) : k.configKey name ≠ p ++ m ++ "/index" :=
  append_ne_of_getLast? (by decide) (by decide) (by decide)

theorem datasetsKey_ne_index (m : String) : k.datasetsKey ≠ p ++ m ++ "/index" :=
  append_ne_of_getLast? (by decide) (by decide) (by decide)

theorem keeps_stored_create (name : String) : Run.Keeps (Stored p) (create name) := by
  refine Run.keeps_bind (Run.keeps_ofOutcome _ _) fun _ => Run.keeps_bind (Run.keeps_self _) fun k₀ =>
    Run.keeps_bind (keeps_getDocument _ _) fun o => ?_
  rcases o with _ | c
  · exact Run.keeps_bind (Run.keeps_now _) fun _ =>
      Run.keeps_bind (keeps_stored_putDocument (fun m _ => metadataKey_ne_index name m) _) fun _ =>
      Run.keeps_bind (keeps_stored_putDocument (fun m _ => configKey_ne_index name m) _) fun _ =>
      Run.keeps_bind (keeps_names _) fun _ =>
      Run.keeps_bind (keeps_stored_put (fun m _ => datasetsKey_ne_index m) _) fun _ => Run.keeps_pure _ _
  · exact Run.keeps_pure _ _

theorem keeps_stored_setConfig (name : String) (d : Document) : Run.Keeps (Stored p) (setConfig name d) :=
  Run.keeps_bind (keeps_require _ name) fun _ => Run.keeps_bind (Run.keeps_self _) fun _ =>
    Run.keeps_bind (keeps_stored_putDocument (fun m _ => configKey_ne_index name m) _) fun _ => Run.keeps_pure _ _

theorem keeps_stored_setMetadata (name : String) (d : Document) : Run.Keeps (Stored p) (setMetadata name d) :=
  Run.keeps_bind (keeps_require _ name) fun _ => Run.keeps_bind (Run.keeps_self _) fun _ =>
    Run.keeps_bind (keeps_stored_putDocument (fun m _ => metadataKey_ne_index name m) _) fun _ => Run.keeps_pure _ _

theorem keeps_stored_index (hn : Slashless n) : Run.Keeps (Stored p) (index n) := by
  refine Run.keeps_bind (keeps_stored_dataset hn) fun _ =>
    Run.keeps_bind (Run.keeps_self _) fun _ => Run.keeps_bind (keeps_get? _ _) fun o => ?_
  rcases o with _ | b
  · exact Run.keeps_pure _ _
  · dsimp only
    split
    · exact Run.keeps_pure _ _
    · exact Run.keeps_throw _ _

/-- **Every call keeps the records.** -/
theorem Call.stored_next (c : Call) (h : Host) (hname : ∀ name, c.dataset? = some name → Slashless name)
    (hk : Stored p k) : Stored p (c.next h k).2 := by
  cases c with
  | create name => exact keeps_stored_create name h k hk
  | hasDataset name => exact keeps_hasDataset _ name h k hk
  | config name => exact keeps_config _ name h k hk
  | setConfig name d => exact keeps_stored_setConfig name d h k hk
  | metadata name => exact keeps_metadata _ name h k hk
  | setMetadata name d => exact keeps_stored_setMetadata name d h k hk
  | index name => exact keeps_stored_index (hname name rfl) h k hk
  | tagData name tag =>
    exact Run.keeps_bind (keeps_stored_dataset (hname name rfl)) (fun _ => Run.keeps_pure _ _) h k hk
  | insertWith name options requests =>
    exact Run.keeps_bind (keeps_stored_dataset (hname name rfl)) (fun _ =>
      Run.keeps_bind (Run.keeps_ofOutcome _ _) fun _ => Run.keeps_bind (Run.keeps_now _) fun _ =>
        Run.keeps_bind (keeps_stored_writeAll (hname name rfl) _ _ _ _ _ _) fun _ =>
          Run.keeps_bind (keeps_stored_rescan (hname name rfl)) fun _ => Run.keeps_pure _ _) h k hk
  | read name ids => exact keeps_read _ name ids h k hk
  | remove name ids =>
    exact Run.keeps_bind (keeps_stored_dataset (hname name rfl)) (fun _ =>
      Run.keeps_bind (keeps_stored_removeAll (hname name rfl) _ _ _ _) fun _ =>
        Run.keeps_bind (keeps_stored_rescan (hname name rfl)) fun _ => Run.keeps_pure _ _) h k hk
  | query name spec =>
    exact Run.keeps_bind (keeps_plan _ name spec) (fun p =>
      Run.keeps_bind (keeps_stored_dataset (hname name rfl)) fun index => keeps_execute_load _ name p index) h k hk
  | count name spec =>
    exact Run.keeps_bind (keeps_plan _ name spec) (fun p =>
      Run.keeps_bind (keeps_stored_dataset (hname name rfl)) fun index => keeps_count_load _ name p index) h k hk
  | list => exact keeps_list _ h k hk
  | recalculate name =>
    exact Run.keeps_bind (keeps_stored_dataset (hname name rfl)) (fun _ => keeps_stored_rescan (hname name rfl))
      h k hk

/-- **A run.** Every reachable state records every dataset it keeps an index of. -/
theorem Reachable.stored (hk : Reachable k) : Stored k.keyPrefix k := by
  induction hk with
  | new keyPrefix codec planner => exact stored_new keyPrefix codec planner
  | step c h hname _ _ ih =>
    rw [c.keyPrefix_next h]
    exact c.stored_next h (fun name hc => slashless_of_validateName (hname name hc)) ih

/-! ## Reads that look past the indexes -/

section Blind

variable {α β : Type}

end Blind

/-! ## A new backend over the same store -/

end KvBackend

namespace ReadCall

end ReadCall

/-! ## Both backends -/

end TagStore
