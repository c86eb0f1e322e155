import TagStore.Proofs.Storage.Mirror
/-!
# Proofs.Storage.KeyValueReachable

The states a key-value backend reaches through its API from a store of its own, and what
holds of every one of them when each call names a valid dataset and the codec reads back,
under the same id, every document a call writes (`Reachable`).

A valid dataset name has no `/`, so the keys of two such datasets are told apart by where
their first `/` stands (`prefix_slash`): no key of one dataset is under the document
prefix of another, and the configuration key of a dataset is no other key the backend
writes. Every call then keeps three facts (`Sound`):

1. the configuration of every such dataset, if stored, decodes;
2. every stored document of such a dataset that decodes sits under the key of its own id;
3. the index the backend keeps for a dataset is the build of the stored documents of it.

A batch brings the third fact back by its closing rescan: while it writes, the dataset's
index is stale, which `SoundBut` records as the backend being sound once that index is
forgotten.

**Main statement.** `KvBackend.Reachable.sound`: every reachable state is sound, from the
step lemma `Call.sound_next`.

The theory stops at valid names on purpose. A document id may hold `/`, so a document of
one dataset can sit under the configuration key of a dataset whose name is not valid, and
a call on that name then reads and writes the first dataset's documents.
-/

namespace TagStore

open Std

/-! ## Names without `/` -/

/-- A name without `/`. -/
def Slashless (name : String) : Prop := '/' ∉ name.toList

/-- Every valid dataset name is one. -/
theorem slashless_of_validateName {name : String} (h : validateName name = .ok ()) : Slashless name := by
  intro hmem
  have hany : name.any (fun c => c == '/' || c == '\\') = true := by
    rw [String.any, String.contains_bool_eq, List.any_eq_true]
    exact ⟨'/', hmem, by decide⟩
  simp [validateName, hany] at h

/-- Two texts without `/`, each followed by a `/`: when one starts the other, the texts are
the same, and what follows the first `/` of one starts what follows it in the other. -/
theorem prefix_slash {a b r r' : List Char} (ha : '/' ∉ a) (hb : '/' ∉ b)
    (h : b ++ '/' :: r' <+: a ++ '/' :: r) : a = b ∧ r' <+: r := by
  induction a generalizing b with
  | nil =>
    cases b with
    | nil => exact ⟨rfl, (List.cons_prefix_cons.1 h).2⟩
    | cons c b =>
      have hc : c = '/' := (List.cons_prefix_cons.1 h).1
      exact absurd (by rw [hc]; exact List.mem_cons_self) hb
  | cons c a ih =>
    cases b with
    | nil =>
      have hc : '/' = c := (List.cons_prefix_cons.1 h).1
      exact absurd (by rw [← hc]; exact List.mem_cons_self) ha
    | cons d b =>
      obtain ⟨hdc, hrest⟩ := List.cons_prefix_cons.1 h
      obtain ⟨hab, hr⟩ := ih (fun hm => ha (List.mem_cons_of_mem _ hm))
        (fun hm => hb (List.mem_cons_of_mem _ hm)) hrest
      exact ⟨by rw [hab, hdc], hr⟩

theorem ExtTreeMap.getElem?_insert_of_ne {β : Type} {e : ExtTreeMap String β compare} {key a : String}
    (h : key ≠ a) (v : β) : (e.insert key v)[a]? = e[a]? := by
  rw [ExtTreeMap.getElem?_insert, if_neg (by simpa using h)]

theorem ExtTreeMap.getElem?_erase_of_ne {β : Type} {e : ExtTreeMap String β compare} {key a : String}
    (h : key ≠ a) : (e.erase key)[a]? = e[a]? := by
  rw [ExtTreeMap.getElem?_erase, if_neg (by simpa using h)]

/-- Two maps that agree on the keys a predicate picks list the same pairs under it. -/
theorem ExtTreeMap.filter_toList_congr {β : Type} {e e' : ExtTreeMap String β compare} (p : String → Bool)
    (h : ∀ key, p key = true → e'[key]? = e[key]?) :
    e'.toList.filter (fun q => p q.1) = e.toList.filter (fun q => p q.1) := by
  -- both lists are sorted by key without ties, so their members decide them
  have hirr : Std.Irrefl (fun a b : String × β => compare a.1 b.1 = .lt) := ⟨fun a => by simp⟩
  have hanti : Std.Antisymm (fun a b : String × β => compare a.1 b.1 = .lt) :=
    ⟨fun a b hab hba => by
      have hswap : compare a.1 b.1 = (compare b.1 a.1).swap := Std.OrientedCmp.eq_swap
      rw [hswap, hba] at hab
      cases hab⟩
  apply List.Pairwise.eq_of_mem_iff (ExtTreeMap.ordered_keys_toList.sublist List.filter_sublist)
    (ExtTreeMap.ordered_keys_toList.sublist List.filter_sublist)
  rintro ⟨key, v⟩
  simp only [List.mem_filter, ExtTreeMap.mem_toList_iff_getElem?_eq_some]
  constructor
  · rintro ⟨hv, hp⟩
    exact ⟨(h key hp) ▸ hv, hp⟩
  · rintro ⟨hv, hp⟩
    exact ⟨(h key hp).symm ▸ hv, hp⟩

theorem ExtTreeMap.eq_or_of_getElem?_insert {β : Type} {m : ExtTreeMap String β compare} {a n : String}
    {v i : β} (h : (m.insert a v)[n]? = some i) : n = a ∧ i = v ∨ n ≠ a ∧ m[n]? = some i := by
  by_cases hn : a = n
  · subst hn
    rw [ExtTreeMap.getElem?_insert_self, Option.some.injEq] at h
    exact .inl ⟨rfl, h.symm⟩
  · rw [ExtTreeMap.getElem?_insert_of_ne hn] at h
    exact .inr ⟨Ne.symm hn, h⟩

theorem ExtTreeMap.getElem?_erase_eq_some {β : Type} {m : ExtTreeMap String β compare} {a n : String}
    {i : β} : (m.erase a)[n]? = some i ↔ n ≠ a ∧ m[n]? = some i := by
  by_cases hn : a = n
  · subst hn
    simp
  · rw [ExtTreeMap.getElem?_erase_of_ne hn]
    exact ⟨fun h => ⟨Ne.symm hn, h⟩, fun h => h.2⟩

/-- The codec reads a document it wrote back, under the same id. -/
def Codec.ReadsBack (codec : Codec) (d : Document) : Prop :=
  ∃ d', codec.decode (codec.encode d) = .ok d' ∧ d'.id = d.id

theorem StoredDocument.id_of_ofDocument {d : Document} {s : StoredDocument}
    (h : StoredDocument.ofDocument d = .ok s) : s.id = d.id := by
  unfold StoredDocument.ofDocument at h
  split at h
  · cases h
  · cases h
    rfl

namespace KvBackend

variable {k : KvBackend} {e : ExtTreeMap String ByteArray compare}

/-! ## Keys of datasets without `/` -/

/-- Keys made of a prefix, a name without `/` and a last part that starts with `/`: when
one starts the other, the names are the same and the last parts start alike. -/
theorem eq_of_startsWith_key {pre n n' last last' : String} {r r' : List Char} (hn : Slashless n)
    (hn' : Slashless n') (hlast : last.toList = '/' :: r) (hlast' : last'.toList = '/' :: r')
    (h : (pre ++ n ++ last).startsWith (pre ++ n' ++ last') = true) : n = n' ∧ r' <+: r := by
  rw [String.append_assoc, String.append_assoc, startsWith_append_iff, String.toList_append,
    String.toList_append, hlast, hlast'] at h
  obtain ⟨hnn, hr⟩ := prefix_slash hn hn' h
  exact ⟨String.toList_inj.1 hnn, hr⟩

theorem toList_doc : "/doc/".toList = '/' :: "doc/".toList := by decide

theorem documentKey_eq (n id : String) : k.documentKey n id = k.keyPrefix ++ n ++ ("/doc/" ++ id) := by
  simp only [documentKey, documentsPrefix, String.append_assoc]

/-- A key of a dataset whose last part does not start with `/doc/` is under no document
prefix. -/
theorem not_startsWith_documentsPrefix {n name last : String} {r : List Char} (hn : Slashless n)
    (hname : Slashless name) (hlast : last.toList = '/' :: r) (hdoc : ¬ "doc/".toList <+: r) :
    (k.keyPrefix ++ n ++ last).startsWith (k.documentsPrefix name) = false := by
  rw [Bool.eq_false_iff]
  intro h
  exact hdoc (eq_of_startsWith_key hn hname hlast toList_doc h).2

theorem eq_of_documentKey_startsWith {n name id : String} (hn : Slashless n) (hname : Slashless name)
    (h : (k.documentKey n id).startsWith (k.documentsPrefix name) = true) : n = name := by
  have hlast : ("/doc/" ++ id).toList = '/' :: ("doc/".toList ++ id.toList) := by
    rw [String.toList_append]
    rfl
  rw [documentKey_eq] at h
  exact (eq_of_startsWith_key hn hname hlast toList_doc h).1

/-- A key under the document prefixes of two datasets without `/` belongs to one of them. -/
theorem eq_of_startsWith_documentsPrefix {key n name : String} (hn : Slashless n) (hname : Slashless name)
    (h : key.startsWith (k.documentsPrefix n) = true) (h' : key.startsWith (k.documentsPrefix name) = true) :
    n = name := by
  rw [String.startsWith_string_iff] at h h'
  rcases List.prefix_or_prefix_of_prefix h h' with hp | hp
  · exact ((eq_of_startsWith_key hname hn toList_doc toList_doc
      (String.startsWith_string_iff.2 hp)).1).symm
  · exact (eq_of_startsWith_key hn hname toList_doc toList_doc (String.startsWith_string_iff.2 hp)).1

theorem configKey_startsWith_eq_false {n name : String} (hn : Slashless n) (hname : Slashless name) :
    (k.configKey n).startsWith (k.documentsPrefix name) = false :=
  not_startsWith_documentsPrefix hn hname (by decide : "/config".toList = '/' :: "config".toList) (by decide)

/-- A key of a dataset whose last part does not start with `/config` is no configuration key
of a dataset without `/`. -/
theorem ne_configKey {n n' last : String} {r : List Char} (hn : Slashless n) (hn' : Slashless n')
    (hlast : last.toList = '/' :: r) (hconfig : ¬ "config".toList <+: r) :
    k.keyPrefix ++ n ++ last ≠ k.configKey n' := by
  intro heq
  have h : (k.keyPrefix ++ n ++ last).startsWith (k.configKey n') = true := by
    rw [heq]
    exact String.startsWith_string_iff.2 (List.prefix_refl _)
  exact hconfig (eq_of_startsWith_key hn hn' hlast (by decide : "/config".toList = '/' :: "config".toList) h).2

theorem documentKey_ne_configKey {n n' id : String} (hn : Slashless n) (hn' : Slashless n') :
    k.documentKey n id ≠ k.configKey n' := by
  intro heq
  have h := configKey_startsWith_eq_false (k := k) hn' hn
  rw [← heq, startsWith_documentKey] at h
  cases h

/-- A key under no document prefix and the configuration key of no dataset without `/`. -/
def Neutral (k : KvBackend) (key : String) : Prop :=
  ∀ n, Slashless n → key.startsWith (k.documentsPrefix n) = false ∧ key ≠ k.configKey n

theorem neutral_datasetsKey : Neutral k k.datasetsKey :=
  fun n _ => ⟨datasetsKey_not_startsWith n, datasetsKey_ne_configKey n⟩

theorem neutral_metadataKey {name : String} (hname : Slashless name) : Neutral k (k.metadataKey name) :=
  have hlast : "/metadata".toList = '/' :: "metadata".toList := by decide
  fun _ hn => ⟨not_startsWith_documentsPrefix hname hn hlast (by decide), ne_configKey hname hn hlast (by decide)⟩

theorem neutral_indexKey {name : String} (hname : Slashless name) : Neutral k (k.indexKey name) :=
  have hlast : "/index".toList = '/' :: "index".toList := by decide
  fun _ hn => ⟨not_startsWith_documentsPrefix hname hn hlast (by decide), ne_configKey hname hn hlast (by decide)⟩

/-! ## What a scan reads -/

/-- The stored documents of a dataset are read off the entries under its prefix alone. -/
theorem scanned_congr {e' : ExtTreeMap String ByteArray compare} {name : String}
    (h : ∀ key : String, key.startsWith (k.documentsPrefix name) = true → e'[key]? = e[key]?) :
    k.scanned e' name = k.scanned e name :=
  congrArg (List.filterMap _)
    (ExtTreeMap.filter_toList_congr (fun key : String => key.startsWith (k.documentsPrefix name)) h)

theorem scanned_insert_of_neutral {key : String} (hkey : Neutral k key) {name : String}
    (hname : Slashless name) (v : ByteArray) : k.scanned (e.insert key v) name = k.scanned e name :=
  scanned_congr fun _ hkey' => ExtTreeMap.getElem?_insert_of_ne (by
    rintro rfl
    rw [(hkey name hname).1] at hkey'
    cases hkey') v

/-- Writing documents of one dataset changes no stored document of another. -/
theorem scanned_writeDocuments_of_ne {n name : String} (hn : Slashless n) (hname : Slashless name)
    (hne : n ≠ name) (stored : List StoredDocument) :
    k.scanned (k.writeDocuments name e stored) n = k.scanned e n := by
  refine scanned_congr fun key hkey => getElem?_writeDocuments_of_not_startsWith ?_ stored
  rw [Bool.eq_false_iff]
  exact fun hkey' => hne (eq_of_startsWith_documentsPrefix hn hname hkey hkey')

theorem scanned_erase_of_ne {n name id : String} (hn : Slashless n) (hname : Slashless name)
    (hne : n ≠ name) : k.scanned (e.erase (k.documentKey name id)) n = k.scanned e n :=
  scanned_congr fun _ hkey => ExtTreeMap.getElem?_erase_of_ne
    (fun heq => hne (eq_of_documentKey_startsWith hname hn (heq ▸ hkey)).symm)

/-! ## Keyed entries -/

/-- The entries of a store as the backend's keys have them, for every dataset without `/`:
its configuration, if stored, decodes, and each of its documents that decodes sits under
the key of its own id. -/
structure Keyed (k : KvBackend) (e : ExtTreeMap String ByteArray compare) : Prop where
  config : ∀ name b, Slashless name → e[k.configKey name]? = some b → ∃ c, k.codec.decode b = .ok c
  document : ∀ name key b s, Slashless name → e[key]? = some b →
    key.startsWith (k.documentsPrefix name) = true → readStored k.codec b = some s →
      key = k.documentKey name s.id

theorem keyed_empty : Keyed k ∅ :=
  ⟨fun _ _ _ h => by simp at h, fun _ _ _ _ _ h => by simp at h⟩

theorem Keyed.of_same {k' : KvBackend} (hk : Keyed k e) (hp : k'.keyPrefix = k.keyPrefix)
    (hc : k'.codec = k.codec) : Keyed k' e := by
  have hkeys : ∀ name, k'.configKey name = k.configKey name ∧ k'.documentsPrefix name = k.documentsPrefix name :=
    fun name => by simp only [configKey, documentsPrefix, hp, and_self]
  refine ⟨fun name b hname hb => ?_, fun name key b s hname hb hkey hs => ?_⟩
  · rw [(hkeys name).1] at hb
    rw [hc]
    exact hk.config name b hname hb
  · rw [(hkeys name).2] at hkey
    rw [hc] at hs
    rw [hk.document name key b s hname hb hkey hs, documentKey, documentKey, (hkeys name).2]

theorem Keyed.insert_of_neutral (hk : Keyed k e) {key : String} (hkey : Neutral k key) (v : ByteArray) :
    Keyed k (e.insert key v) := by
  refine ⟨fun name b hname hb => ?_, fun name key' b s hname hb hkey' hs => ?_⟩
  · rw [ExtTreeMap.getElem?_insert_of_ne (hkey name hname).2 v] at hb
    exact hk.config name b hname hb
  · have hne : key ≠ key' := fun heq => by
      rw [← heq, (hkey name hname).1] at hkey'
      cases hkey'
    rw [ExtTreeMap.getElem?_insert_of_ne hne v] at hb
    exact hk.document name key' b s hname hb hkey' hs

theorem Keyed.insert_config (hk : Keyed k e) {name : String} (hname : Slashless name) {v : ByteArray}
    (hv : ∃ c, k.codec.decode v = .ok c) : Keyed k (e.insert (k.configKey name) v) := by
  refine ⟨fun n b hn hb => ?_, fun n key b s hn hb hkey hs => ?_⟩
  · by_cases hnn : k.configKey name = k.configKey n
    · rw [hnn, ExtTreeMap.getElem?_insert_self, Option.some.injEq] at hb
      exact hb ▸ hv
    · rw [ExtTreeMap.getElem?_insert_of_ne hnn v] at hb
      exact hk.config n b hn hb
  · have hne : k.configKey name ≠ key := fun heq => by
      rw [← heq, configKey_startsWith_eq_false hname hn] at hkey
      cases hkey
    rw [ExtTreeMap.getElem?_insert_of_ne hne v] at hb
    exact hk.document n key b s hn hb hkey hs

theorem Keyed.insert_document (hk : Keyed k e) {name id : String} (hname : Slashless name) {v : ByteArray}
    (hv : ∀ s, readStored k.codec v = some s → s.id = id) : Keyed k (e.insert (k.documentKey name id) v) := by
  refine ⟨fun n b hn hb => ?_, fun n key b s hn hb hkey hs => ?_⟩
  · rw [ExtTreeMap.getElem?_insert_of_ne (documentKey_ne_configKey hname hn) v] at hb
    exact hk.config n b hn hb
  · by_cases hkk : k.documentKey name id = key
    · -- the written key: its dataset is `name` and the document read back keeps the id
      subst hkk
      rw [ExtTreeMap.getElem?_insert_self, Option.some.injEq] at hb
      subst hb
      rw [eq_of_documentKey_startsWith hname hn hkey, hv s hs]
    · rw [ExtTreeMap.getElem?_insert_of_ne hkk v] at hb
      exact hk.document n key b s hn hb hkey hs

/-- Writing a batch keeps the entries keyed when every written document reads back under
its own id. -/
theorem Keyed.writeDocuments {name : String} (hname : Slashless name) :
    ∀ {e : ExtTreeMap String ByteArray compare} {stored : List StoredDocument}, Keyed k e →
      (∀ s ∈ stored, ∀ s', readStored k.codec (k.codec.encode s.toDocument) = some s' → s'.id = s.id) →
      Keyed k (k.writeDocuments name e stored)
  | _, [], hk, _ => hk
  | _, s :: stored, hk, hstored => by
    rw [KvBackend.writeDocuments, List.foldl_cons, ← KvBackend.writeDocuments]
    exact Keyed.writeDocuments hname (hk.insert_document hname (hstored s List.mem_cons_self))
      fun s' hs' => hstored s' (List.mem_cons_of_mem _ hs')

theorem Keyed.erase (hk : Keyed k e) (key : String) : Keyed k (e.erase key) := by
  refine ⟨fun n b hn hb => ?_, fun n key' b s hn hb hkey hs => ?_⟩
  · rw [ExtTreeMap.getElem?_erase] at hb
    split at hb
    · cases hb
    · exact hk.config n b hn hb
  · rw [ExtTreeMap.getElem?_erase] at hb
    split at hb
    · cases hb
    · exact hk.document n key' b s hn hb hkey hs

/-! ## Sound states -/

/-- What a scan reads of the backend: its key prefix and its codec. -/
theorem scanned_of_same (k₁ k₂ : KvBackend) (hp : k₁.keyPrefix = k₂.keyPrefix) (hc : k₁.codec = k₂.codec) :
    k₁.scanned = k₂.scanned := by
  obtain ⟨_, p₁, c₁, _, _, _⟩ := k₁
  obtain ⟨_, p₂, c₂, _, _, _⟩ := k₂
  simp only at hp hc
  subst hp hc
  rfl

/-- A sound state: the backend talks to a fault-free store of its own holding `e`, whose
entries are keyed, and every dataset it keeps an index of has a name without `/` and, as its
index, the build of its stored documents. -/
structure Sound (k : KvBackend) (e : ExtTreeMap String ByteArray compare) : Prop where
  store_eq : k.store = .own { entries := e }
  keyed : Keyed k e
  slashless : ∀ name index, k.datasets[name]? = some index → Slashless name
  current : ∀ name index, k.datasets[name]? = some index →
    index.state = IndexState.build ((k.scanned e name).map (·.entry))

theorem sound_new (keyPrefix : String) (codec : Codec) (planner : Planner) :
    Sound { store := .own {}, keyPrefix, codec, planner } ∅ :=
  ⟨rfl, keyed_empty, fun _ _ h => by simp at h, fun _ _ h => by simp at h⟩

/-- Soundness reads the store, the keys, the codec and the indexes kept: it survives any
change to the rest, and forgetting indexes. -/
theorem Sound.forget {k' : KvBackend} (hs : Sound k e) (hstore : k'.store = k.store)
    (hp : k'.keyPrefix = k.keyPrefix) (hc : k'.codec = k.codec)
    (hds : ∀ (name : String) (index : TagIndex), k'.datasets[name]? = some index →
      k.datasets[name]? = some index) :
    Sound k' e where
  store_eq := hstore.trans hs.store_eq
  keyed := hs.keyed.of_same hp hc
  slashless name index hidx := hs.slashless name index (hds name index hidx)
  current name index hidx := by
    rw [scanned_of_same k' k hp hc]
    exact hs.current name index (hds name index hidx)

/-- Writing a key that is neither a document key nor a configuration key keeps a state
sound. -/
theorem Sound.insert_of_neutral (hs : Sound k e) {key : String} (hkey : Neutral k key) (v : ByteArray) :
    Sound (k.withEntries (e.insert key v)) (e.insert key v) where
  store_eq := rfl
  keyed := (hs.keyed.insert_of_neutral hkey v).of_same rfl rfl
  slashless := hs.slashless
  current name index hidx := by
    rw [scanned_of_same (k.withEntries _) k rfl rfl,
      scanned_insert_of_neutral hkey (hs.slashless name index hidx)]
    exact hs.current name index hidx

/-- Writing a configuration that decodes keeps a state sound. -/
theorem Sound.insert_config (hs : Sound k e) {name : String} (hname : Slashless name) {v : ByteArray}
    (hv : ∃ c, k.codec.decode v = .ok c) :
    Sound (k.withEntries (e.insert (k.configKey name) v)) (e.insert (k.configKey name) v) where
  store_eq := rfl
  keyed := (hs.keyed.insert_config hname hv).of_same rfl rfl
  slashless := hs.slashless
  current n index hidx := by
    have hn := hs.slashless n index hidx
    -- a configuration key is under no document prefix
    have hscan : k.scanned (e.insert (k.configKey name) v) n = k.scanned e n :=
      scanned_congr fun _ hkey => ExtTreeMap.getElem?_insert_of_ne (by
        rintro rfl
        rw [configKey_startsWith_eq_false hname hn] at hkey
        cases hkey) v
    rw [scanned_of_same (k.withEntries _) k rfl rfl, hscan]
    exact hs.current n index hidx

/-- **Keeping a dataset's build.** Keeping the build of a dataset's stored documents as its
index, with its counts written, keeps a state sound. -/
theorem Sound.withBuilt (hs : Sound k e) {name : String} (hname : Slashless name) {index : TagIndex}
    (hindex : index.state = IndexState.build ((k.scanned e name).map (·.entry))) {k' : KvBackend}
    {counts : ByteArray} (hstore : k'.store = .own { entries := e.insert (k.indexKey name) counts })
    (hp : k'.keyPrefix = k.keyPrefix) (hc : k'.codec = k.codec)
    (hds : ∀ n i, k'.datasets[n]? = some i → n = name ∧ i = index ∨ k.datasets[n]? = some i) :
    Sound k' (e.insert (k.indexKey name) counts) := by
  have hslash : ∀ n i, k'.datasets[n]? = some i → Slashless n := fun n i hi =>
    (hds n i hi).elim (fun h => h.1 ▸ hname) (hs.slashless n i)
  refine ⟨hstore, (hs.keyed.insert_of_neutral (neutral_indexKey hname) counts).of_same hp hc, hslash,
    fun n i hi => ?_⟩
  rw [scanned_of_same k' k hp hc, scanned_insert_of_neutral (neutral_indexKey hname) (hslash n i hi)]
  rcases hds n i hi with ⟨rfl, rfl⟩ | hold
  · exact hindex
  · exact hs.current n i hold

/-! ## A dataset's first use -/

/-- **First use of a dataset from a sound state.** It fails, when the dataset has no
configuration, and changes nothing, or gives an index the backend now keeps for the
dataset, from a sound state whose scans are those it had. -/
theorem Sound.exec_dataset (hs : Sound k e) {name : String} (hname : Slashless name) (h : Host) :
    (∃ err, e[k.configKey name]? = none ∧ (dataset name).exec h k = (.error err, h, k)) ∨
      ∃ index k' e', (dataset name).exec h k = (.ok index, h, k') ∧ Sound k' e' ∧
        k'.datasets[name]? = some index ∧ k'.keyPrefix = k.keyPrefix ∧ k'.codec = k.codec ∧
        k'.planner = k.planner ∧ ∀ n, Slashless n → k.scanned e' n = k.scanned e n := by
  cases hidx : k.datasets[name]? with
  | some index =>
    exact .inr ⟨index, k, e, exec_dataset_of_cached hidx, hs, hidx, rfl, rfl, rfl, fun _ _ => rfl⟩
  | none =>
    cases hconfig : e[k.configKey name]? with
    | none => exact .inl ⟨_, rfl, exec_dataset_of_missing hs.store_eq hidx hconfig⟩
    | some b =>
      -- the index is built from the stored documents and its counts written
      have hbuilt : (({} : TagIndex).recalculate ((k.scanned e name).map (·.entry))).1.state =
          IndexState.build ((k.scanned e name).map (·.entry)) := by
        rw [TagIndex.recalculate_fst]
      refine .inr ⟨_, _, _, exec_dataset_of_uncached hs.store_eq hidx (by rw [hconfig]; rfl),
        hs.withBuilt hname hbuilt rfl rfl rfl fun n i hi => ?_,
        ExtTreeMap.getElem?_insert_self, rfl, rfl, rfl,
        fun n hn => scanned_insert_of_neutral (neutral_indexKey hname) hn _⟩
      rcases ExtTreeMap.eq_or_of_getElem?_insert hi with ⟨hn, hi⟩ | ⟨_, hold⟩
      · exact .inl ⟨hn, hi⟩
      · exact .inr hold

/-- A call that opens with a dataset's first use keeps a state sound when what follows
keeps sound every state that first use may leave: one that keeps an index of the dataset,
with the same codec. -/
theorem Sound.exec_bind_dataset {α : Type} (hs : Sound k e) {name : String} (hname : Slashless name)
    {f : TagIndex → Run KvBackend α} (h : Host)
    (hf : ∀ index k' e', Sound k' e' → k'.datasets[name]? = some index → k'.codec = k.codec →
      ∃ e'', Sound ((f index).exec h k').2.2 e'') :
    ∃ e', Sound ((dataset name >>= f).exec h k).2.2 e' := by
  rcases hs.exec_dataset hname h with ⟨err, -, hexec⟩ | ⟨index, k', e', hexec, hs', hidx, -, hc, -⟩
  · rw [Run.exec_bind, hexec]
    exact ⟨e, hs⟩
  · rw [Run.exec_bind, hexec]
    exact hf index k' e' hs' hidx hc

/-! ## Batches -/

/-- Sound but for the index kept for `name`, as while a batch writes to the dataset: the
backend is sound once that index is forgotten, and it keeps one. -/
structure SoundBut (name : String) (k : KvBackend) (e : ExtTreeMap String ByteArray compare) : Prop where
  forgotten : Sound { k with datasets := k.datasets.erase name } e
  cached : (k.datasets[name]?).isSome

theorem SoundBut.store_eq {name : String} (hs : SoundBut name k e) : k.store = .own { entries := e } :=
  hs.forgotten.store_eq

theorem Sound.soundBut (hs : Sound k e) {name : String} {index : TagIndex}
    (hidx : k.datasets[name]? = some index) : SoundBut name k e :=
  ⟨hs.forget rfl rfl rfl fun _ _ hi => (ExtTreeMap.getElem?_erase_eq_some.1 hi).2, by rw [hidx]; rfl⟩

/-- A state sound but for `name` stays so through a change of the entries that keeps them
keyed and leaves the stored documents of every other dataset as they were. -/
theorem SoundBut.of_entries {name : String} (hs : SoundBut name k e) {k' : KvBackend}
    {e' : ExtTreeMap String ByteArray compare} (hstore : k'.store = .own { entries := e' })
    (hp : k'.keyPrefix = k.keyPrefix) (hc : k'.codec = k.codec) (hds : k'.datasets = k.datasets)
    (hkeyed : Keyed k e') (hscan : ∀ n, Slashless n → n ≠ name → k.scanned e' n = k.scanned e n) :
    SoundBut name k' e' := by
  have hforget : ∀ (n : String) (i : TagIndex), (k'.datasets.erase name)[n]? = some i →
      (k.datasets.erase name)[n]? = some i :=
    fun n i hi => by rwa [hds] at hi
  refine ⟨⟨hstore, hkeyed.of_same hp hc, fun n i hi => hs.forgotten.slashless n i (hforget n i hi),
    fun n i hi => ?_⟩, by rw [hds]; exact hs.cached⟩
  have hn := hs.forgotten.slashless n i (hforget n i hi)
  have hne : n ≠ name := (ExtTreeMap.getElem?_erase_eq_some.1 (hforget n i hi)).1
  have hcur := hs.forgotten.current n i (hforget n i hi)
  rw [scanned_of_same { k' with datasets := k'.datasets.erase name } k hp hc, hscan n hn hne]
  rwa [scanned_of_same { k with datasets := k.datasets.erase name } k rfl rfl] at hcur

/-- Writing documents of the dataset under their ids, each read back under its id, keeps a
state sound but for it. -/
theorem SoundBut.writeDocuments {name : String} (hs : SoundBut name k e) (hname : Slashless name)
    {stored : List StoredDocument}
    (hstored : ∀ s ∈ stored, ∀ s', readStored k.codec (k.codec.encode s.toDocument) = some s' → s'.id = s.id)
    (sequence : Nat) :
    SoundBut name { k with store := .own { entries := k.writeDocuments name e stored }, sequence }
      (k.writeDocuments name e stored) :=
  hs.of_entries rfl rfl rfl rfl
    ((hs.forgotten.keyed.of_same rfl rfl : Keyed k e).writeDocuments hname hstored)
    fun _ hn hne => scanned_writeDocuments_of_ne hn hname hne stored

theorem SoundBut.erase {name : String} (hs : SoundBut name k e) (hname : Slashless name) (id : String) :
    SoundBut name (k.withEntries (e.erase (k.documentKey name id))) (e.erase (k.documentKey name id)) :=
  hs.of_entries rfl rfl rfl rfl ((hs.forgotten.keyed.of_same rfl rfl : Keyed k e).erase _)
    fun _ hn hne => scanned_erase_of_ne hn hname hne

/-- **The closing rescan** brings a state sound but for the dataset back to a sound one. -/
theorem SoundBut.exec_rescan {name : String} (hs : SoundBut name k e) (hname : Slashless name) (h : Host) :
    ∃ report k' e', (rescan name).exec h k = (.ok report, h, k') ∧ Sound k' e' := by
  obtain ⟨index, hidx⟩ := Option.isSome_iff_exists.1 hs.cached
  have hbuilt : (index.recalculate ((k.scanned e name).map (·.entry))).1.state =
      IndexState.build ((k.scanned e name).map (·.entry)) := by
    rw [TagIndex.recalculate_fst]
  refine ⟨_, _, _, exec_rescan_of_cached hs.store_eq hidx,
    hs.forgotten.withBuilt hname hbuilt rfl rfl rfl fun n i hi => ?_⟩
  rcases ExtTreeMap.eq_or_of_getElem?_insert hi with ⟨hn, hi⟩ | ⟨hne, hold⟩
  · exact .inl ⟨hn, hi⟩
  · exact .inr (ExtTreeMap.getElem?_erase_eq_some.2 ⟨hne, hold⟩)

theorem SoundBut.exec_failBatch {α : Type} {name : String} (hs : SoundBut name k e) (hname : Slashless name)
    (applied total : Nat) (cause : Error) (h : Host) :
    ∃ k' e', (failBatch name applied total cause : Run KvBackend α).exec h k =
      (.error (.partialBatch applied total cause), h, k') ∧ Sound k' e' := by
  obtain ⟨report, k', e', hrescan, hs'⟩ := hs.exec_rescan hname h
  refine ⟨k', e', ?_, hs'⟩
  simp only [failBatch, Run.exec_bind, Run.exec_tryCatch, hrescan, Run.exec_pure, Run.exec_throw]

/-- **Removing a batch from a state sound but for its dataset.** It ends with the state
still sound but for the dataset, or fails, once the index is rebuilt, from a sound state. -/
theorem SoundBut.exec_removeAll {name : String} (hname : Slashless name) (total : Nat) (h : Host) :
    ∀ (ids : List String) (applied : Nat) (out : List Document) (k : KvBackend)
      (e : ExtTreeMap String ByteArray compare), SoundBut name k e →
      (∃ r k' e', (removeAll name total applied ids out).exec h k = (.ok r, h, k') ∧ SoundBut name k' e') ∨
        ∃ err k' e', (removeAll name total applied ids out).exec h k = (.error err, h, k') ∧ Sound k' e'
  | [], _, _, k, e, hs => .inl ⟨_, k, e, rfl, hs⟩
  | id :: ids, applied, out, k, e, hs => by
    cases hget : e[k.documentKey name id]? with
    | none =>
      have hload : (loadDocument name id).exec h k = (.ok none, h, k) := by
        rw [exec_loadDocument hs.store_eq, hget]
      simp only [removeAll, Run.exec_bind, Run.exec_tryCatch, hload]
      exact SoundBut.exec_removeAll hname total h ids (applied + 1) out k e hs
    | some b =>
      cases hread : k.codec.decode b >>= StoredDocument.ofDocument with
      | error cause =>
        -- the batch stops: the index is rebuilt and the failure reported
        have hload : (loadDocument name id).exec h k = (.error cause, h, k) := by
          rw [exec_loadDocument hs.store_eq, hget]
          simp only [hread]
          rfl
        obtain ⟨k', e', hfail, hs'⟩ := hs.exec_failBatch (α := Option StoredDocument) hname applied total cause h
        refine .inr ⟨.partialBatch applied total cause, k', e', ?_, hs'⟩
        simp only [removeAll, Run.exec_bind, Run.exec_tryCatch, hload, hfail]
      | ok s =>
        have hload : (loadDocument name id).exec h k = (.ok (some s), h, k) := by
          rw [exec_loadDocument hs.store_eq, hget]
          simp only [hread]
          rfl
        simp only [removeAll, Run.exec_bind, Run.exec_tryCatch, hload, Run.exec_self, exec_delete hs.store_eq]
        exact SoundBut.exec_removeAll hname total h ids (applied + 1) _ _ _ (hs.erase hname id)

/-! ## Calls that only read -/

/-- A backend whose some entries make it sound. -/
def IsSound (k : KvBackend) : Prop := ∃ e, Sound k e

/-- Reading a key leaves the backend as it was, whichever store it talks to. -/
theorem exec_get?_state (key : String) (h : Host) (k : KvBackend) : ((get? key).exec h k).2.2 = k := by
  cases hstore : k.store with
  | shared =>
    simp only [get?, withStore, Run.exec_bind, Run.exec_self, hstore, Run.exec_host, Run.exec_modifyHost,
      Run.exec_pure]
  | own s =>
    rw [get?, exec_withStore_own _ hstore]
    exact with_store_self hstore

section Reads

variable (P : KvBackend → Prop)

theorem keeps_get? (key : String) : Run.Keeps P (get? key) :=
  Run.keeps_of_exec (exec_get?_state key) P

theorem keeps_getDocument (key : String) : Run.Keeps P (getDocument key) := by
  refine Run.keeps_bind (keeps_get? P key) fun o => ?_
  cases o with
  | none => exact Run.keeps_pure P _
  | some b => exact Run.keeps_bind (Run.keeps_self P) fun _ => Run.keeps_map _ (Run.keeps_ofOutcome P _)

theorem keeps_loadDocument (name id : String) : Run.Keeps P (loadDocument name id) := by
  refine Run.keeps_bind (Run.keeps_self P) fun k => Run.keeps_bind (keeps_get? P _) fun o => ?_
  cases o with
  | none => exact Run.keeps_pure P _
  | some b => exact Run.keeps_map _ (Run.keeps_ofOutcome P _)

theorem keeps_require (name : String) : Run.Keeps P (require name) := by
  refine Run.keeps_bind (Run.keeps_self P) fun _ => Run.keeps_bind (keeps_get? P _) fun o => ?_
  split
  · exact Run.keeps_throw P _
  · exact Run.keeps_pure P _

theorem keeps_names : Run.Keeps P names := by
  refine Run.keeps_bind (Run.keeps_self P) fun _ => Run.keeps_bind (keeps_get? P _) fun o => ?_
  rcases o with _ | b
  · exact Run.keeps_pure P _
  · dsimp only
    split
    · exact Run.keeps_pure P _
    · exact Run.keeps_throw P _

theorem keeps_hasDataset (name : String) : Run.Keeps P (hasDataset name) :=
  Run.keeps_bind (Run.keeps_self P) fun _ => Run.keeps_bind (keeps_get? P _) fun _ => Run.keeps_pure P _

theorem keeps_config (name : String) : Run.Keeps P (config name) :=
  Run.keeps_bind (Run.keeps_self P) fun _ => keeps_getDocument P _

theorem keeps_metadata (name : String) : Run.Keeps P (metadata name) :=
  Run.keeps_bind (Run.keeps_self P) fun _ => keeps_getDocument P _

theorem keeps_read (name : String) (ids : List String) : Run.Keeps P (read name ids) :=
  Run.keeps_bind (keeps_require P name) fun _ =>
    Run.keeps_bind (Run.keeps_mapM ids fun id _ => keeps_loadDocument P name id) fun _ => Run.keeps_pure P _

theorem keeps_list : Run.Keeps P list := by
  refine Run.keeps_bind (keeps_names P) fun ns => Run.keeps_mapM ns fun n _ => ?_
  refine Run.keeps_bind (keeps_config P n) fun _ => Run.keeps_bind (keeps_metadata P n) fun o => ?_
  rcases o with _ | m
  · exact Run.keeps_bind (Run.keeps_now P) fun _ => Run.keeps_pure P _
  · exact Run.keeps_pure P _

theorem keeps_plan (name : String) (spec : QuerySpec) : Run.Keeps P (plan name spec) := by
  unfold plan
  split
  · exact Run.keeps_throw P _
  · exact Run.keeps_bind (keeps_config P name) fun _ =>
      Run.keeps_bind (Run.keeps_self P) fun _ => Run.keeps_ofOutcome P _

end Reads

/-- A plan's load of one id from a store of the backend's own only reads. -/
theorem exec_planLoad (hk : k.store = .own { entries := e }) (name id : String) (h : Host) :
    (do return (← loadDocument name id).map (·.toDocument) : Run KvBackend (Option Document)).exec h k =
      ((match e[k.documentKey name id]? with
        | none => .ok none
        | some b => (k.codec.decode b >>= StoredDocument.ofDocument).map fun s => some s.toDocument), h, k) := by
  simp only [Run.exec_bind, exec_loadDocument hk]
  cases e[k.documentKey name id]? with
  | none => rfl
  | some b =>
    dsimp only
    cases k.codec.decode b >>= StoredDocument.ofDocument <;> rfl

theorem exists_exec_names (hk : k.store = .own { entries := e }) (h : Host) :
    ∃ r, names.exec h k = (r, h, k) := by
  simp only [names, Run.exec_bind, Run.exec_self, exec_get? hk]
  cases e[k.datasetsKey]? with
  | none => exact ⟨_, rfl⟩
  | some b =>
    dsimp only
    cases decodeNames? b <;> exact ⟨_, rfl⟩

/-- A stored document written through a codec that reads it back is read back under its
id. -/
theorem readStored_id {codec : Codec} {s s' : StoredDocument} (hback : codec.ReadsBack s.toDocument)
    (hs' : readStored codec (codec.encode s.toDocument) = some s') : s'.id = s.id := by
  obtain ⟨d', hdecode, hid⟩ := hback
  have hbind : codec.decode (codec.encode s.toDocument) >>= StoredDocument.ofDocument =
      StoredDocument.ofDocument d' := by
    rw [hdecode]
    rfl
  unfold readStored at hs'
  rw [hbind] at hs'
  split at hs'
  next s'' hof =>
    cases hs'
    rw [StoredDocument.id_of_ofDocument hof, hid, StoredDocument.id_toDocument]
  next => cases hs'

/-! ## Calls on a dataset -/

section Dataset

variable {name : String} (hname : Slashless name)
include hname

theorem keeps_dataset : Run.Keeps IsSound (dataset name) := by
  rintro h k ⟨e, hs⟩
  rcases hs.exec_dataset hname h with ⟨err, -, hexec⟩ | ⟨index, k', e', hexec, hs', -⟩
  · rw [hexec]
    exact ⟨e, hs⟩
  · rw [hexec]
    exact ⟨e', hs'⟩

theorem keeps_index : Run.Keeps IsSound (index name) := by
  refine Run.keeps_bind (keeps_dataset hname) fun _ =>
    Run.keeps_bind (Run.keeps_self _) fun _ => Run.keeps_bind (keeps_get? _ _) fun o => ?_
  rcases o with _ | b
  · exact Run.keeps_pure _ _
  · dsimp only
    split
    · exact Run.keeps_pure _ _
    · exact Run.keeps_throw _ _

theorem keeps_tagData (tag : String) : Run.Keeps IsSound (tagData name tag) :=
  Run.keeps_bind (keeps_dataset hname) fun _ => Run.keeps_pure _ _

theorem keeps_query (spec : QuerySpec) : Run.Keeps IsSound (query name spec) := by
  refine Run.keeps_bind (keeps_plan _ name spec) fun p => Run.keeps_bind (keeps_dataset hname) fun index => ?_
  rintro h k ⟨e, hs⟩
  rw [exec_execute fun id => exec_planLoad hs.store_eq name id h]
  exact ⟨e, hs⟩

theorem keeps_count (spec : QuerySpec) : Run.Keeps IsSound (count name spec) := by
  refine Run.keeps_bind (keeps_plan _ name spec) fun p => Run.keeps_bind (keeps_dataset hname) fun index => ?_
  rintro h k ⟨e, hs⟩
  rw [TagStore.exec_count fun id => exec_planLoad hs.store_eq name id h]
  exact ⟨e, hs⟩

theorem keeps_recalculate : Run.Keeps IsSound (recalculate name) := by
  rintro h k ⟨e, hs⟩
  refine hs.exec_bind_dataset hname h fun index k₁ e₁ hs₁ hidx _ => ?_
  obtain ⟨report, k₂, e₂, hrescan, hs₂⟩ := (hs₁.soundBut hidx).exec_rescan hname h
  rw [hrescan]
  exact ⟨e₂, hs₂⟩

theorem keeps_remove (ids : List String) : Run.Keeps IsSound (remove name ids) := by
  rintro h k ⟨e, hs⟩
  refine hs.exec_bind_dataset hname h fun index k₁ e₁ hs₁ hidx _ => ?_
  rcases SoundBut.exec_removeAll hname ids.length h ids 0 [] k₁ e₁ (hs₁.soundBut hidx) with
    ⟨out, k₂, e₂, hremove, hbut⟩ | ⟨err, k₂, e₂, hremove, hs₂⟩
  · -- the batch went through: the closing rescan brings the index back
    obtain ⟨report, k₃, e₃, hrescan, hs₃⟩ := hbut.exec_rescan hname h
    simp only [Run.exec_bind, hremove, hrescan, Run.exec_pure]
    exact ⟨e₃, hs₃⟩
  · simp only [Run.exec_bind, hremove]
    exact ⟨e₂, hs₂⟩

end Dataset

variable {name : String}

/-- **Creating a dataset keeps a state sound** when the codec reads the default
configuration back. -/
theorem Sound.exec_create (hs : Sound k e) (name : String) (hcodec : k.codec.ReadsBack defaultConfig)
    (h : Host) : IsSound ((create name).exec h k).2.2 := by
  cases hvalid : validateName name with
  | error err =>
    rw [exec_create_of_invalid hvalid]
    exact ⟨e, hs⟩
  | ok u =>
    have hname : Slashless name := slashless_of_validateName hvalid
    cases hconfig : e[k.configKey name]? with
    | some b =>
      -- the dataset exists: nothing is written
      simp only [create, Run.exec_bind, Run.exec_ofOutcome, hvalid, Run.exec_self, exec_getDocument hs.store_eq,
        hconfig]
      cases k.codec.decode b <;> exact ⟨e, hs⟩
    | none =>
      -- the metadata, the configuration, then the names
      obtain ⟨d', hdecode, -⟩ := hcodec
      obtain ⟨e₁, he₁⟩ : ∃ e₁, e₁ = e.insert (k.metadataKey name) (k.codec.encode (defaultMetadata h.clock)) :=
        ⟨_, rfl⟩
      obtain ⟨e₂, he₂⟩ : ∃ e₂, e₂ = e₁.insert (k.configKey name) (k.codec.encode defaultConfig) := ⟨_, rfl⟩
      have hs₁ : Sound (k.withEntries e₁) e₁ := by
        rw [he₁]
        exact hs.insert_of_neutral (neutral_metadataKey hname) _
      have hs₂ : Sound (k.withEntries e₂) e₂ := by
        rw [he₂]
        exact hs₁.insert_config hname ⟨d', hdecode⟩
      have hmeta : (putDocument (k.metadataKey name) (defaultMetadata h.clock)).exec
          { h with clock := h.clock + 1 } k = (.ok (), { h with clock := h.clock + 1 }, k.withEntries e₁) := by
        rw [he₁]
        exact exec_putDocument hs.store_eq _ _
      have hconf : (putDocument (k.configKey name) defaultConfig).exec { h with clock := h.clock + 1 }
          (k.withEntries e₁) = (.ok (), { h with clock := h.clock + 1 }, k.withEntries e₂) := by
        rw [he₂]
        exact exec_putDocument rfl _ _
      obtain ⟨r, hnames⟩ := exists_exec_names hs₂.store_eq { h with clock := h.clock + 1 }
      simp only [create, Run.exec_bind, Run.exec_ofOutcome, hvalid, Run.exec_self, exec_getDocument hs.store_eq,
        hconfig, Run.exec_now, hmeta, hconf, hnames]
      cases r with
      | error _ => exact ⟨e₂, hs₂⟩
      | ok ns =>
        simp only [exec_put hs₂.store_eq, Run.exec_pure]
        exact ⟨_, hs₂.insert_of_neutral neutral_datasetsKey _⟩

theorem Sound.exec_setConfig (hs : Sound k e) (hname : Slashless name) (d : Document)
    (hcodec : k.codec.ReadsBack (d.withId configId)) (h : Host) : IsSound ((setConfig name d).exec h k).2.2 := by
  cases hconfig : e[k.configKey name]? with
  | none =>
    simp only [setConfig, Run.exec_bind, exec_require hs.store_eq, hconfig, Option.isNone_none, if_true]
    exact ⟨e, hs⟩
  | some b =>
    obtain ⟨d', hdecode, -⟩ := hcodec
    simp only [setConfig, Run.exec_bind, exec_require hs.store_eq, hconfig, Option.isNone_some,
      Bool.false_eq_true, if_false, Run.exec_self, exec_putDocument hs.store_eq, Run.exec_pure]
    exact ⟨_, hs.insert_config hname ⟨d', hdecode⟩⟩

theorem Sound.exec_setMetadata (hs : Sound k e) (hname : Slashless name) (d : Document) (h : Host) :
    IsSound ((setMetadata name d).exec h k).2.2 := by
  cases hconfig : e[k.configKey name]? with
  | none =>
    simp only [setMetadata, Run.exec_bind, exec_require hs.store_eq, hconfig, Option.isNone_none, if_true]
    exact ⟨e, hs⟩
  | some b =>
    simp only [setMetadata, Run.exec_bind, exec_require hs.store_eq, hconfig, Option.isNone_some,
      Bool.false_eq_true, if_false, Run.exec_self, exec_putDocument hs.store_eq, Run.exec_pure]
    exact ⟨_, hs.insert_of_neutral (neutral_metadataKey hname) _⟩

/-- **Writing a batch keeps a state sound** when the codec reads every written document
back under its id: the batch writes on a stale index, and the closing rescan rebuilds it. -/
theorem Sound.exec_insertWith (hs : Sound k e) (hname : Slashless name) (options : InsertOptions)
    (requests : List InsertRequest)
    (hcodec : ∀ r ∈ requests, ∀ ts seq,
      k.codec.ReadsBack (StoredDocument.new r.document (r.effectiveTags options) ts seq).toDocument)
    (h : Host) : IsSound ((insertWith name options requests).exec h k).2.2 := by
  refine hs.exec_bind_dataset hname h fun index k₁ e₁ hs₁ hidx hc => ?_
  cases hvalid : validateIds (requests.map (·.document.id)) with
  | error err =>
    simp only [Run.exec_bind, Run.exec_ofOutcome]
    exact ⟨e₁, hs₁⟩
  | ok u =>
    have hstored : ∀ s ∈ storedBatch options h.clock k₁.sequence requests, ∀ s',
        readStored k₁.codec (k₁.codec.encode s.toDocument) = some s' → s'.id = s.id := by
      intro s hs s' hs'
      obtain ⟨r, hr, n, -, rfl⟩ := mem_storedBatch hs
      rw [hc] at hs'
      exact readStored_id (hcodec r hr _ _) hs'
    have hbut := (hs₁.soundBut hidx).writeDocuments hname hstored (k₁.sequence + requests.length)
    obtain ⟨report, k₂, e₂, hrescan, hs₂⟩ := hbut.exec_rescan hname { h with clock := h.clock + 1 }
    simp only [Run.exec_bind, Run.exec_ofOutcome, Run.exec_now,
      exec_writeAll name options h.clock requests.length requests 0 [] k₁ e₁ hs₁.store_eq, hrescan,
      Run.exec_pure]
    exact ⟨e₂, hs₂⟩

/-! ## Reachable states -/

/-- A call of the backend's API. -/
inductive Call where
  | create (name : String)
  | hasDataset (name : String)
  | config (name : String)
  | setConfig (name : String) (d : Document)
  | metadata (name : String)
  | setMetadata (name : String) (d : Document)
  | index (name : String)
  | tagData (name tag : String)
  | insertWith (name : String) (options : InsertOptions) (requests : List InsertRequest)
  | read (name : String) (ids : List String)
  | remove (name : String) (ids : List String)
  | query (name : String) (spec : QuerySpec)
  | count (name : String) (spec : QuerySpec)
  | list
  | recalculate (name : String)

namespace Call

/-- The dataset a call names. -/
def dataset? : Call → Option String
  | .create name | .hasDataset name | .config name | .setConfig name _ | .metadata name
  | .setMetadata name _ | .index name | .tagData name _ | .insertWith name _ _ | .read name _
  | .remove name _ | .query name _ | .count name _ | .recalculate name => some name
  | .list => none

/-- The documents a call may write through the codec and read back by id: a configuration,
or the stored form of a request of a batch, at any write time and sequence number. -/
def Writes : Call → Document → Prop
  | .create _, d => d = defaultConfig
  | .setConfig _ c, d => d = c.withId configId
  | .insertWith _ options requests, d => ∃ r ∈ requests, ∃ ts seq,
      d = (StoredDocument.new r.document (r.effectiveTags options) ts seq).toDocument
  | _, _ => False

/-- The host and the backend after a call, however it ends. -/
def next : Call → Host → KvBackend → Host × KvBackend
  | .create name, h, k => ((KvBackend.create name).exec h k).2
  | .hasDataset name, h, k => ((KvBackend.hasDataset name).exec h k).2
  | .config name, h, k => ((KvBackend.config name).exec h k).2
  | .setConfig name d, h, k => ((KvBackend.setConfig name d).exec h k).2
  | .metadata name, h, k => ((KvBackend.metadata name).exec h k).2
  | .setMetadata name d, h, k => ((KvBackend.setMetadata name d).exec h k).2
  | .index name, h, k => ((KvBackend.index name).exec h k).2
  | .tagData name tag, h, k => ((KvBackend.tagData name tag).exec h k).2
  | .insertWith name options requests, h, k => ((KvBackend.insertWith name options requests).exec h k).2
  | .read name ids, h, k => ((KvBackend.read name ids).exec h k).2
  | .remove name ids, h, k => ((KvBackend.remove name ids).exec h k).2
  | .query name spec, h, k => ((KvBackend.query name spec).exec h k).2
  | .count name spec, h, k => ((KvBackend.count name spec).exec h k).2
  | .list, h, k => (KvBackend.list.exec h k).2
  | .recalculate name, h, k => ((KvBackend.recalculate name).exec h k).2

end Call

/-- The states a backend with a store of its own, new and empty, reaches through calls made
from any host, each naming a valid dataset and writing only documents that the codec reads
back under their ids. -/
inductive Reachable : KvBackend → Prop where
  | new (keyPrefix : String) (codec : Codec) (planner : Planner) :
      Reachable { store := .own {}, keyPrefix, codec, planner }
  | step {k : KvBackend} (c : Call) (h : Host)
      (hname : ∀ name, c.dataset? = some name → validateName name = .ok ())
      (hcodec : ∀ d, c.Writes d → k.codec.ReadsBack d) :
      Reachable k → Reachable (c.next h k).2

/-- **Every call keeps a state sound.** -/
theorem Call.sound_next (c : Call) (h : Host) (hname : ∀ name, c.dataset? = some name → validateName name = .ok ())
    (hcodec : ∀ d, c.Writes d → k.codec.ReadsBack d) (hs : Sound k e) : IsSound (c.next h k).2 := by
  have hsound : IsSound k := ⟨e, hs⟩
  have hvalid : ∀ name, c.dataset? = some name → Slashless name := fun name hc =>
    slashless_of_validateName (hname name hc)
  cases c with
  | create name => exact hs.exec_create name (hcodec _ rfl) h
  | hasDataset name => exact keeps_hasDataset _ name h k hsound
  | config name => exact keeps_config _ name h k hsound
  | setConfig name d => exact hs.exec_setConfig (hvalid name rfl) d (hcodec _ rfl) h
  | metadata name => exact keeps_metadata _ name h k hsound
  | setMetadata name d => exact hs.exec_setMetadata (hvalid name rfl) d h
  | index name => exact keeps_index (hvalid name rfl) h k hsound
  | tagData name tag => exact keeps_tagData (hvalid name rfl) tag h k hsound
  | insertWith name options requests =>
    exact hs.exec_insertWith (hvalid name rfl) options requests
      (fun r hr ts seq => hcodec _ ⟨r, hr, ts, seq, rfl⟩) h
  | read name ids => exact keeps_read _ name ids h k hsound
  | remove name ids => exact keeps_remove (hvalid name rfl) ids h k hsound
  | query name spec => exact keeps_query (hvalid name rfl) spec h k hsound
  | count name spec => exact keeps_count (hvalid name rfl) spec h k hsound
  | list => exact keeps_list _ h k hsound
  | recalculate name => exact keeps_recalculate (hvalid name rfl) h k hsound

/-- **Every reachable state is sound.** -/
theorem Reachable.sound (hk : Reachable k) : IsSound k := by
  induction hk with
  | new keyPrefix codec planner => exact ⟨∅, sound_new keyPrefix codec planner⟩
  | step c h hname hcodec _ ih =>
    obtain ⟨e, hs⟩ := ih
    exact c.sound_next h hname hcodec hs

end KvBackend

end TagStore
