import TagStore.Proofs.Storage.KeyValueAnswers
/-!
# Proofs.Storage.TransparentKeyValue

The key-value backend owes a cache layer what `Faithful` asks, for the held values of datasets
without `/` and for the calls on such datasets whose codec gives back exactly what they write.

The states the layer needs (`KvBackend.Served`) are sound, and every dataset without `/` that
has metadata, or whose index the backend keeps, has a configuration. Creating a dataset writes
its metadata and its configuration together; a configuration or metadata is replaced only where
a configuration is found; and an index is built only once the dataset's configuration is found
(`indexes_dataset_bind`), everything after a dataset's first use keeping the datasets whose
index the backend keeps (`IndexesWithin`). So every such call keeps a served state, and keeps
every answer but those it writes: the configuration it creates or replaces, the metadata it
replaces, the documents it writes or removes.
-/

namespace TagStore

open Std

namespace KvBackend

variable {k : KvBackend} {e : ExtTreeMap String ByteArray compare} {h : Host} {name : String}

theorem entriesIn_of_store (hk : k.store = .own { entries := e }) (h : Host) : entriesIn h k = e := by
  simp only [entriesIn, storeIn, hk]

/-- A write keeps every key that had a value holding one. -/
theorem isSome_getElem?_insert_of_isSome {key a : String} {v : ByteArray} (ha : (e[a]?).isSome) :
    ((e.insert key v)[a]?).isSome := by
  rw [ExtTreeMap.getElem?_insert]
  split <;> simp [ha]

/-! ## The datasets whose index the backend keeps -/

section Indexes

variable {S : String → Prop}

end Indexes

/-- **An index is built only where a configuration is found.** The first use of a dataset
fails and changes nothing, or leaves an index kept for the dataset, and for no dataset the
backend kept none for but this one, once its configuration is found. -/
theorem exec_dataset_cases (hs : Sound k e) (h : Host) :
    (∃ err, (dataset name).exec h k = (.error err, h, k)) ∨
      ∃ index k', (dataset name).exec h k = (.ok index, h, k') ∧ (k'.datasets[name]?).isSome ∧
        ∀ n, (k'.datasets[n]?).isSome → (k.datasets[n]?).isSome ∨ (n = name ∧ (e[k.configKey name]?).isSome) := by
  rcases hidx : k.datasets[name]? with _ | index
  · cases hconfig : e[k.configKey name]? with
    | none => exact .inl ⟨_, exec_dataset_of_missing hs.store_eq hidx hconfig⟩
    | some b =>
      refine .inr ⟨_, _, exec_dataset_of_uncached hs.store_eq hidx (by rw [hconfig]; rfl), by simp,
        fun n hn => ?_⟩
      by_cases heq : n = name
      · exact .inr ⟨heq, rfl⟩
      · rw [ExtTreeMap.getElem?_insert_of_ne (Ne.symm heq)] at hn
        exact .inl hn
  · exact .inr ⟨index, k, exec_dataset_of_cached hidx, by rw [hidx]; rfl, fun _ hn => .inl hn⟩

/-- A state a cache layer can rely on: sound, and every dataset without `/` that has metadata,
or whose index the backend keeps, has a configuration. -/
structure Served (k : KvBackend) (e : ExtTreeMap String ByteArray compare) : Prop where
  sound : Sound k e
  metadata : ∀ n, Slashless n → (e[k.metadataKey n]?).isSome → (e[k.configKey n]?).isSome
  indexed : ∀ n, (k.datasets[n]?).isSome → (e[k.configKey n]?).isSome

theorem served_new (keyPrefix : String) (codec : Codec) (planner : Planner) :
    Served { store := .own {}, keyPrefix, codec, planner } ∅ :=
  ⟨sound_new keyPrefix codec planner, fun _ _ hm => by simp at hm, fun _ hn => by simp at hn⟩

/-- A call on a dataset without `/` that writes neither a configuration nor metadata, keeps the
state sound and builds an index only as the dataset's first use does, keeps a served state. -/
theorem Served.after {α : Type} {op : Run KvBackend α} (hs : Served k e) (hname : Slashless name)
    {W : String → Prop} (hw : WritesWithin k.keyPrefix W op)
    (hW : ∀ n, Slashless n → ¬ W (k.configKey n) ∧ ¬ W (k.metadataKey n))
    (hsound : IsSound (op.exec h k).2.2)
    (hindexed : ∀ n, ((op.exec h k).2.2.datasets[n]?).isSome →
      (k.datasets[n]?).isSome ∨ (n = name ∧ (e[k.configKey name]?).isSome)) :
    ∃ e', Served (op.exec h k).2.2 e' := by
  obtain ⟨e', hs'⟩ := hsound
  obtain ⟨hp, -, hframe⟩ := hw h k rfl
  have hkeys : ∀ n, (op.exec h k).2.2.configKey n = k.configKey n ∧
      (op.exec h k).2.2.metadataKey n = k.metadataKey n :=
    fun n => by simp only [configKey, metadataKey, hp, and_self]
  -- the configurations and metadata of datasets without `/` are as they were
  have hkept : ∀ n, Slashless n → e'[k.configKey n]? = e[k.configKey n]? ∧
      e'[k.metadataKey n]? = e[k.metadataKey n]? := by
    intro n hn
    rw [← entriesIn_of_store hs'.store_eq (op.exec h k).2.1, ← entriesIn_of_store hs.sound.store_eq h]
    exact ⟨hframe _ (hW n hn).1, hframe _ (hW n hn).2⟩
  refine ⟨e', hs', fun n hn hmeta => ?_, fun n hn => ?_⟩
  · rw [(hkeys n).2, (hkept n hn).2] at hmeta
    rw [(hkeys n).1, (hkept n hn).1]
    exact hs.metadata n hn hmeta
  · rw [(hkeys n).1]
    rcases hindexed n hn with hold | ⟨rfl, hconfig⟩
    · obtain ⟨index, hidx⟩ := Option.isSome_iff_exists.1 hold
      rw [(hkept n (hs.sound.slashless n index hidx)).1]
      exact hs.indexed n hold
    · rw [(hkept n hname).1]
      exact hconfig

/-! ## Writes of a configuration or metadata, over a store of the backend's own -/

section Documents

variable (hk : k.store = .own { entries := e })
include hk

theorem exec_setConfig_of_present {b : ByteArray} (hconfig : e[k.configKey name]? = some b) (d : Document) :
    (setConfig name d).exec h k =
      (.ok (d.withId configId), h,
        k.withEntries (e.insert (k.configKey name) (k.codec.encode (d.withId configId)))) := by
  simp only [setConfig, Run.exec_bind, exec_require hk, hconfig, Option.isNone_some, Bool.false_eq_true,
    if_false, Run.exec_self, exec_putDocument hk, Run.exec_pure]

theorem exec_setMetadata_of_present {b : ByteArray} (hconfig : e[k.configKey name]? = some b) (d : Document) :
    (setMetadata name d).exec h k =
      (.ok (d.withId metadataId), h,
        k.withEntries (e.insert (k.metadataKey name) (k.codec.encode (d.withId metadataId)))) := by
  simp only [setMetadata, Run.exec_bind, exec_require hk, hconfig, Option.isNone_some, Bool.false_eq_true,
    if_false, Run.exec_self, exec_putDocument hk, Run.exec_pure]

theorem exec_setMetadata_of_missing (hconfig : e[k.configKey name]? = none) (d : Document) :
    (setMetadata name d).exec h k = (.error (missingDataset name), h, k) := by
  simp only [setMetadata, Run.exec_bind, exec_require hk, hconfig, Option.isNone_none, if_true]

/-- Creating a dataset that has a configuration writes nothing, and gives the configuration
stored. -/
theorem exec_create_of_present {b : ByteArray} (hconfig : e[k.configKey name]? = some b) :
    (create name).exec h k = ((validateName name).bind fun _ => k.codec.decode b, h, k) := by
  cases hvalid : validateName name with
  | error err => exact exec_create_of_invalid hvalid
  | ok u =>
    simp only [create, Run.exec_bind, Run.exec_ofOutcome, hvalid, Run.exec_self, exec_getDocument hk, hconfig]
    cases k.codec.decode b <;> rfl

/-- Creating a dataset that has no configuration writes its metadata and its default
configuration, then the dataset names, whose read may fail. -/
theorem exec_create_of_absent (hvalid : validateName name = .ok ()) (hconfig : e[k.configKey name]? = none) :
    ∃ r E, (create name).exec h k = (r, { h with clock := h.clock + 1 }, k.withEntries E) ∧
      (∀ key, key ≠ k.datasetsKey → E[key]? =
        ((e.insert (k.metadataKey name) (k.codec.encode (defaultMetadata h.clock))).insert
          (k.configKey name) (k.codec.encode defaultConfig))[key]?) ∧
      ∀ c, r = .ok c → c = defaultConfig := by
  set e₁ := e.insert (k.metadataKey name) (k.codec.encode (defaultMetadata h.clock))
  set e₂ := e₁.insert (k.configKey name) (k.codec.encode defaultConfig)
  have hmeta : (putDocument (k.metadataKey name) (defaultMetadata h.clock)).exec { h with clock := h.clock + 1 } k =
      (.ok (), { h with clock := h.clock + 1 }, k.withEntries e₁) :=
    exec_putDocument hk _ _
  have hconf : (putDocument (k.configKey name) defaultConfig).exec { h with clock := h.clock + 1 }
      (k.withEntries e₁) = (.ok (), { h with clock := h.clock + 1 }, k.withEntries e₂) :=
    exec_putDocument rfl _ _
  obtain ⟨r, hnames⟩ := exists_exec_names (k := k.withEntries e₂) (e := e₂) rfl { h with clock := h.clock + 1 }
  simp only [create, Run.exec_bind, Run.exec_ofOutcome, hvalid, Run.exec_self, exec_getDocument hk, hconfig,
    Run.exec_now, hmeta, hconf, hnames]
  cases r with
  | error err => exact ⟨.error err, e₂, rfl, fun _ _ => rfl, fun _ hc => by cases hc⟩
  | ok ns =>
    simp only [exec_put (k := k.withEntries e₂) (e := e₂) rfl, Run.exec_pure]
    refine ⟨.ok defaultConfig, _, rfl, fun key hkey => ExtTreeMap.getElem?_insert_of_ne (Ne.symm hkey) _,
      fun c hc => ?_⟩
    cases hc
    rfl

end Documents

/-! ## Creating a dataset, replacing its configuration or metadata -/

/-- Writing a configuration that decodes keeps a served state. -/
theorem Served.insert_config (hs : Served k e) (hname : Slashless name) {v : ByteArray}
    (hv : ∃ c, k.codec.decode v = .ok c) :
    Served (k.withEntries (e.insert (k.configKey name) v)) (e.insert (k.configKey name) v) where
  sound := hs.sound.insert_config hname hv
  metadata n hn hmeta := by
    have hm : ((e.insert (k.configKey name) v)[k.metadataKey n]?).isSome := hmeta
    rw [ExtTreeMap.getElem?_insert_of_ne (configKey_ne_metadataKey name n)] at hm
    exact isSome_getElem?_insert_of_isSome (hs.metadata n hn hm)
  indexed n hn := isSome_getElem?_insert_of_isSome (hs.indexed n hn)

/-- Writing the metadata of a dataset that has a configuration keeps a served state. -/
theorem Served.insert_metadata (hs : Served k e) (hname : Slashless name) (hconfig : (e[k.configKey name]?).isSome)
    (v : ByteArray) :
    Served (k.withEntries (e.insert (k.metadataKey name) v)) (e.insert (k.metadataKey name) v) where
  sound := hs.sound.insert_of_neutral (neutral_metadataKey hname) v
  metadata n hn hmeta := by
    have hconfig' : ∀ n, ((e.insert (k.metadataKey name) v)[k.configKey n]?) = e[k.configKey n]? := fun n =>
      ExtTreeMap.getElem?_insert_of_ne (configKey_ne_metadataKey n name).symm v
    show ((e.insert (k.metadataKey name) v)[k.configKey n]?).isSome
    rw [hconfig']
    by_cases heq : n = name
    · subst heq
      exact hconfig
    · have hm : ((e.insert (k.metadataKey name) v)[k.metadataKey n]?).isSome := hmeta
      rw [ExtTreeMap.getElem?_insert_of_ne (metadataKey_ne_of_ne (Ne.symm heq))] at hm
      exact hs.metadata n hn hm
  indexed n hn := by
    show ((e.insert (k.metadataKey name) v)[k.configKey n]?).isSome
    rw [ExtTreeMap.getElem?_insert_of_ne (configKey_ne_metadataKey n name).symm]
    exact hs.indexed n hn

/-- **Creating a dataset keeps a served state**: its metadata is written only with its
configuration. -/
theorem Served.exec_create (hs : Served k e) (hcodec : k.codec.ReadsBack defaultConfig) (h : Host) :
    ∃ e', Served ((create name).exec h k).2.2 e' := by
  cases hvalid : validateName name with
  | error err =>
    rw [exec_create_of_invalid hvalid]
    exact ⟨e, hs⟩
  | ok u =>
    cases hconfig : e[k.configKey name]? with
    | some b =>
      rw [exec_create_of_present hs.sound.store_eq hconfig]
      exact ⟨e, hs⟩
    | none =>
      obtain ⟨r, E, hexec, hE, -⟩ := exec_create_of_absent (h := h) hs.sound.store_eq hvalid hconfig
      obtain ⟨e', hs'⟩ := hs.sound.exec_create name hcodec h
      rw [hexec] at hs' ⊢
      obtain rfl : E = e' := by simpa using hs'.store_eq
      -- every configuration stays, and the new metadata comes with the new configuration
      have hconf : ∀ n, (e[k.configKey n]?).isSome → (E[k.configKey n]?).isSome := fun n hn => by
        rw [hE _ (datasetsKey_ne_configKey n).symm]
        exact isSome_getElem?_insert_of_isSome (isSome_getElem?_insert_of_isSome hn)
      refine ⟨E, hs', fun n hn hmeta => ?_, fun n hn => hconf n (hs.indexed n hn)⟩
      by_cases heq : n = name
      · subst heq
        show (E[k.configKey n]?).isSome
        rw [hE _ (datasetsKey_ne_configKey n).symm, ExtTreeMap.getElem?_insert_self]
        rfl
      · have hm : (E[k.metadataKey n]?).isSome := hmeta
        rw [hE _ (datasetsKey_ne_metadataKey n).symm,
          ExtTreeMap.getElem?_insert_of_ne (configKey_ne_metadataKey name n),
          ExtTreeMap.getElem?_insert_of_ne (metadataKey_ne_of_ne (Ne.symm heq))] at hm
        exact hconf n (hs.metadata n hn hm)

/-- Replacing a configuration that decodes keeps a served state. -/
theorem Served.exec_setConfig (hs : Served k e) (hname : Slashless name) (d : Document)
    (hcodec : k.codec.ReadsBack (d.withId configId)) (h : Host) :
    ∃ e', Served ((setConfig name d).exec h k).2.2 e' := by
  cases hconfig : e[k.configKey name]? with
  | none =>
    rw [exec_setConfig_of_missing (by rwa [entriesIn_of_store hs.sound.store_eq])]
    exact ⟨e, hs⟩
  | some b =>
    obtain ⟨c, hdecode, -⟩ := hcodec
    rw [exec_setConfig_of_present hs.sound.store_eq hconfig]
    exact ⟨_, hs.insert_config hname ⟨c, hdecode⟩⟩

theorem Served.exec_setMetadata (hs : Served k e) (hname : Slashless name) (d : Document) (h : Host) :
    ∃ e', Served ((setMetadata name d).exec h k).2.2 e' := by
  cases hconfig : e[k.configKey name]? with
  | none =>
    rw [exec_setMetadata_of_missing hs.sound.store_eq hconfig]
    exact ⟨e, hs⟩
  | some b =>
    rw [exec_setMetadata_of_present hs.sound.store_eq hconfig]
    exact ⟨_, hs.insert_metadata hname (by rw [hconfig]; rfl) _⟩

/-! ## The calls on a dataset's index -/

section Dataset

variable (hs : Sound k e) (h : Host) (n : String)
include hs

end Dataset

/-- The first use of a dataset from a served state fails and changes nothing, or leaves a
served state that keeps an index for the dataset. -/
theorem Served.exec_dataset (hs : Served k e) (hname : Slashless name) (h : Host) :
    (∃ err, (dataset name).exec h k = (.error err, h, k)) ∨
      ∃ index k₁ e₁, (dataset name).exec h k = (.ok index, h, k₁) ∧ Served k₁ e₁ ∧
        (k₁.datasets[name]?).isSome ∧ k₁.keyPrefix = k.keyPrefix ∧ k₁.codec = k.codec := by
  rcases @exec_dataset_cases k e name hs.sound h with hfail | ⟨index, k₁, hexec, hidx, hnew⟩
  · exact .inl hfail
  have hw : WritesWithin k.keyPrefix (· = k.keyPrefix ++ name ++ "/index") (dataset name) := writesWithin_dataset rfl
  obtain ⟨hp, hc, -⟩ := hw h k rfl
  obtain ⟨e₁, hs₁⟩ := hs.after hname hw
    (fun n _ => ⟨heldKey_ne_indexKey hname (.config n), heldKey_ne_indexKey hname (.metadata n)⟩)
    (keeps_dataset hname h k ⟨e, hs.sound⟩) (by rw [hexec]; exact hnew)
  rw [hexec] at hp hc hs₁
  exact .inr ⟨index, k₁, e₁, hexec, hs₁, hidx, hp, hc⟩

/-! ## What a batch leaves -/

end KvBackend

/-! ## What the key-value backend owes the layer -/

namespace Backend

end Backend

namespace Engine.Call

/-- The dataset a call names. -/
def dataset? : Call → Option String
  | .create ds | .hasDataset ds | .config ds | .setConfig ds _ | .metadata ds | .setMetadata ds _
  | .index ds | .tagData ds _ | .insertWith ds _ _ | .update ds _ | .read ds _ | .remove ds _
  | .query ds _ | .count ds _ | .recalculate ds => some ds
  | .name | .openStore | .closeStore | .list => none

/-- The documents a call writes through a codec and a layer keeps a copy of: a configuration,
metadata, or the stored form of a request of a batch, at any write time and sequence number. -/
def Writes : Call → Document → Prop
  | .create _, d => d = defaultConfig
  | .setConfig _ c, d => d = c.withId configId
  | .setMetadata _ m, d => d = m.withId metadataId
  | .insertWith _ options requests, d => ∃ r ∈ requests, ∃ ts seq,
      d = (StoredDocument.new r.document (r.effectiveTags options) ts seq).toDocument
  | .update _ requests, d => ∃ r ∈ requests, ∃ ts seq,
      d = (StoredDocument.new r.document (r.effectiveTags {}) ts seq).toDocument
  | _, _ => False

end Engine.Call

namespace KvBackend

/-- The calls a layer in front of a key-value backend with `codec` may pass on: each names a
dataset without `/`, and each document it writes the codec gives back exactly. -/
def Allowed (codec : Codec) (c : Engine.Call) : Prop :=
  (∀ ds, c.dataset? = some ds → Slashless ds) ∧ ∀ d, c.Writes d → codec.Restores d

section Owes

variable {codec : Codec} {α : Type} {opM : Run MemoryBackend α} {opK : Run KvBackend α}
  {opS : Run SnapshotBackend α} {k : KvBackend} {e : ExtTreeMap String ByteArray compare}

end Owes

end KvBackend

end TagStore
