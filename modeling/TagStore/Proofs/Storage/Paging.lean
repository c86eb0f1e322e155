import TagStore.Proofs.Query.Paging
import TagStore.Proofs.Storage.MemoryReachable
import TagStore.Proofs.Storage.KeyValueReachable
import TagStore.Proofs.Index.MemberOrder
/-!
# Proofs.Storage.Paging

Walking a PAGES query page by page lists every document filed under its tag exactly once,
most recent first, and as many as the count says.

The order is the members' order, read on the stored documents (`StoredDocument.Precedes`):
later write time first, then higher sequence number, then smaller id. For a coherent
dataset the documents filed under a tag, in that order (`MemoryDataset.filed`), are
exactly its stored documents with the tag, and the members of the tag load to them
(`Coherent.members_map_load`). A planned page over any index in the state of the
dataset's index, with loads that agree with the dataset on its members, is then a page of
that listing (`Coherent.execute_page`), and `walksTo_of_pageOf` turns the pages into a
walk (`PagesOf`).

The key-value backend answers for a dataset as the memory dataset of its stored documents
gathered by id (`MemoryDataset.ofStored`) does, in every sound state
(`KvBackend.Sound.pagesOf_query`), hence in every reachable one.

**Main statement.** `pages_list_filed_documents`: in every reachable state of either
backend, for every page size a PAGES query on a dataset resolves to, the pages list the
dataset's documents filed under the query's tag. For the key-value backend, reachable means
through calls on valid dataset names with a codec that reads its documents back: a document
id may hold `/`, and a call on a name that is no valid dataset name can reach the keys of
another dataset's documents.
-/

namespace TagStore

open Std

/-! ## The order of a listing -/

/-- `a` is listed before `b`: written later, or at the same time with a higher sequence
number, or at the same time and number with a smaller id. -/
def StoredDocument.Precedes (a b : StoredDocument) : Prop :=
  b.timestamp.toInt < a.timestamp.toInt ∨
    a.timestamp.toInt = b.timestamp.toInt ∧
      (b.seq.toNat < a.seq.toNat ∨ a.seq.toNat = b.seq.toNat ∧ a.id < b.id)

theorem StoredDocument.precedes_iff (a b : StoredDocument) :
    a.Precedes b ↔ MemberKey.order a.entry.key b.entry.key = .lt :=
  (MemberKey.order_eq_lt_iff a.entry.key b.entry.key).symm

/-! ## The members of a tag -/

namespace TagIndex

theorem memberKeys_congr {t t' : TagIndex} (h : t.state = t'.state) (tag : String) :
    t.memberKeys tag = t'.memberKeys tag := by
  simp only [memberKeys, h]

theorem members_congr {t t' : TagIndex} (h : t.state = t'.state) (tag : String) :
    t.members tag = t'.members tag := by
  rw [members, members, memberKeys_congr h]

/-- A tag's member keys come most recent first. -/
theorem pairwise_memberKeys (t : TagIndex) (tag : String) :
    (t.memberKeys tag).Pairwise fun a b => MemberKey.order a b = .lt := by
  unfold memberKeys
  split
  · exact ExtTreeSet.ordered_toList
  · exact List.Pairwise.nil

/-- A consistent index counts the member keys of a tag. -/
theorem length_memberKeys {t : TagIndex} (hc : t.state.Consistent) (tag : String) :
    (t.memberKeys tag).length = t.tagCount tag := by
  unfold memberKeys tagCount
  rw [ExtTreeMap.get?_eq_getElem?]
  cases he : t.state.tags[tag]? with
  | none => rfl
  | some e => simp [ExtTreeSet.length_toList, hc.count_eq tag e he]

end TagIndex

/-- A list whose items each have an image under `f` that `g` takes back keeps its items
through `filterMap f` then `map g`. -/
theorem map_filterMap_of_inverse {α β : Type} {f : α → Option β} {g : β → α} :
    ∀ {l : List α}, (∀ a ∈ l, ∃ b, f a = some b ∧ g b = a) → (l.filterMap f).map g = l
  | [], _ => rfl
  | a :: l, h => by
    obtain ⟨b, hb, hgb⟩ := h a List.mem_cons_self
    rw [List.filterMap_cons, hb, List.map_cons, hgb,
      map_filterMap_of_inverse fun a' ha' => h a' (List.mem_cons_of_mem _ ha')]

/-! ## The documents a dataset files under a tag -/

namespace MemoryDataset

/-- The documents a dataset files under a tag, in the order of the tag's members. -/
def filed (ds : MemoryDataset) (tag : String) : List StoredDocument :=
  (ds.index.memberKeys tag).filterMap fun key => ds.documents[key.id]?

variable {ds : MemoryDataset} (h : ds.Coherent) (tag : String)
include h

/-- Each member key of a coherent dataset is the key of the stored document of its id. -/
theorem Coherent.lookup_memberKey {key : MemberKey} (hkey : key ∈ ds.index.memberKeys tag) :
    ∃ s, ds.documents[key.id]? = some s ∧ s.entry.key = key ∧ tag ∈ s.tags := by
  rw [TagIndex.mem_memberKeys, h.mem_memberSet_iff] at hkey
  obtain ⟨s, hs, htag, rfl⟩ := hkey
  exact ⟨s, (mem_values_iff h.idKeyed).1 hs, rfl, htag⟩

theorem Coherent.map_key_filed : (ds.filed tag).map (·.entry.key) = ds.index.memberKeys tag :=
  map_filterMap_of_inverse fun _ hkey =>
    let ⟨s, hs, hkey', _⟩ := h.lookup_memberKey tag hkey
    ⟨s, hs, hkey'⟩

/-- **What a tag lists.** The documents filed under a tag are the stored documents that
have it. -/
theorem Coherent.mem_filed_iff (s : StoredDocument) :
    s ∈ ds.filed tag ↔ s ∈ ds.documents.values ∧ tag ∈ s.tags := by
  rw [filed, List.mem_filterMap, mem_values_iff h.idKeyed]
  constructor
  · rintro ⟨key, hkey, hs⟩
    obtain ⟨s', hs', hkey', htag⟩ := h.lookup_memberKey tag hkey
    rw [hs', Option.some.injEq] at hs
    subst hs
    rw [← hkey'] at hs'
    exact ⟨hs', htag⟩
  · rintro ⟨hs, htag⟩
    refine ⟨s.entry.key, ?_, hs⟩
    rw [TagIndex.mem_memberKeys, h.mem_memberSet_iff]
    exact ⟨s, (mem_values_iff h.idKeyed).2 hs, htag, rfl⟩

/-- **In what order.** The documents filed under a tag come most recent first. -/
theorem Coherent.pairwise_filed : (ds.filed tag).Pairwise StoredDocument.Precedes := by
  have hkeys := TagIndex.pairwise_memberKeys ds.index tag
  rw [← h.map_key_filed tag, List.pairwise_map] at hkeys
  exact hkeys.imp fun hab => (StoredDocument.precedes_iff _ _).2 hab

/-- The members of a tag load to the documents filed under it, in order. -/
theorem Coherent.members_map_load :
    (ds.index.members tag).map (fun id => ds.documents[id]?.map (·.toDocument)) =
      (ds.filed tag).map fun s => some s.toDocument := by
  have hids : ds.index.members tag = (ds.filed tag).map (·.id) := by
    rw [TagIndex.members, ← h.map_key_filed tag, List.map_map]
    rfl
  rw [hids, List.map_map]
  apply List.map_congr_left
  intro s hs
  have hget : ds.documents[s.id]? = some s := (h.mem_filed_iff tag s).1 hs |>.1 |> (mem_values_iff h.idKeyed).1
  simp [hget]

theorem Coherent.length_filed : (ds.filed tag).length = ds.index.tagCount tag := by
  rw [← List.length_map (f := (·.entry.key)), h.map_key_filed,
    TagIndex.length_memberKeys h.tracks.consistent]

theorem Coherent.length_filed_le : (ds.filed tag).length ≤ ds.documents.size := by
  have hnodup : (ds.filed tag).Nodup := by
    have hkeys : ((ds.filed tag).map (·.entry.key)).Nodup := by
      rw [h.map_key_filed]
      exact (TagIndex.pairwise_memberKeys ds.index tag).imp fun hab heq => by
        subst heq
        simp [MemberKey.order_eq_lt_iff] at hab
    exact List.Pairwise.of_map (·.entry.key) (fun _ _ hab heq => hab (congrArg (·.entry.key) heq)) hkeys
  have hsub : ds.filed tag ⊆ ds.documents.values := fun s hs => ((h.mem_filed_iff tag s).1 hs).1
  calc (ds.filed tag).length
      ≤ ds.documents.values.length := hnodup.length_le_of_subset hsub
    _ = ds.documents.size := by
      rw [ExtTreeMap.values_eq_map_snd_toList, List.length_map, ExtTreeMap.length_toList]

/-- **A page of a coherent dataset.** Over an index in the state of the dataset's index,
with loads that agree with the dataset on the tag's members, a planned page of size `k`
at page `p` is page `p` of the documents filed under the tag. -/
theorem Coherent.execute_page {t : TagIndex} (ht : t.state = ds.index.state)
    {load : String → Except Error (Option Document)}
    (hload : ∀ id ∈ ds.index.members tag, load id = .ok (ds.documents[id]?.map (·.toDocument)))
    (hsize : ds.documents.size ≤ wordMax) (seed p k : Nat) :
    (QueryPlan.page tag (min (p * k) wordMax) k).execute t seed load =
      .ok (pageOf ((ds.filed tag).map (·.toDocument)) k p) := by
  have hmembers := TagIndex.members_congr ht tag
  rw [execute_page_of_loads (hmembers ▸ hload) (by rw [hmembers, h.members_map_load, List.map_map]; rfl),
    drop_min_wordMax (by rw [List.length_map]; exact Nat.le_trans (h.length_filed_le tag) hsize)]
  rfl

end MemoryDataset

/-! ## Walking the pages -/

/-- What a PAGES walk over the stored documents `docs`, `k` to a page, shows: there is a
list of the documents of `docs` filed under `tag`, each once and most recent first, to
which the pages `answer` walk and whose length the count gives. -/
def PagesOf (answer : Int64 → Except Error (List Document)) (count : Except Error Nat) (k : Nat)
    (docs : List StoredDocument) (tag : String) : Prop :=
  ∃ S : List StoredDocument, (∀ s, s ∈ S ↔ s ∈ docs ∧ tag ∈ s.tags) ∧
    S.Pairwise StoredDocument.Precedes ∧ WalksTo answer k (S.map (·.toDocument)) ∧ count = .ok S.length

/-- A coherent dataset whose pages and count are those of its listing shows a walk over
its documents. -/
theorem MemoryDataset.Coherent.pagesOf {ds : MemoryDataset} (h : ds.Coherent) {tag : String}
    {answer : Int64 → Except Error (List Document)} {count : Except Error Nat} {k : Nat} (hk : 0 < k)
    (hsize : ds.documents.size < 2 ^ 63)
    (hanswer : ∀ p, answer p = .ok (pageOf ((ds.filed tag).map (·.toDocument)) k p.toInt.toNat))
    (hcount : count = .ok (ds.index.tagCount tag)) :
    PagesOf answer count k ds.documents.values tag := by
  refine ⟨ds.filed tag, h.mem_filed_iff tag, h.pairwise_filed tag, walksTo_of_pageOf hk ?_ hanswer, ?_⟩
  · rw [List.length_map]
    exact Nat.lt_of_le_of_lt (h.length_filed_le tag) hsize
  · rw [hcount, h.length_filed]

namespace MemoryBackend

/-- The query of one page of a PAGES walk. -/
theorem exec_query_page {m : MemoryBackend} {name : String} {ds : MemoryDataset} {c : Document} {k : Nat}
    {spec : QuerySpec} (hds : m.datasets[name]? = some ds) (hc : m.registry.config? name = some c)
    (hpages : spec.kind = .pages) (hk : m.planner.pageSize c spec = .ok k) (h : Host) (p : Int64) :
    (query name { spec with page := p }).exec h m =
      ((QueryPlan.page spec.resolvedTag (min (p.toInt.toNat * k) wordMax) k).execute ds.index drawSeed
        fun id => .ok (ds.documents[id]?.map (·.toDocument)), h, m) := by
  -- the page asked for changes neither the kind nor the page size
  have hpages' : ({ spec with page := p } : QuerySpec).kind = .pages := hpages
  have hk' : m.planner.pageSize c { spec with page := p } = .ok k := hk
  rw [exec_query, hc, Planner.plan_of_pages name hpages' hk', hds]
  rfl

/-- **Paging completeness.** In every reachable state, each dataset has a configuration;
for every page size a PAGES query resolves to with it, walking the pages lists the
documents the dataset files under the query's tag, each once, most recent first, as many
as the count says. Each page leaves the backend as it was. -/
theorem pagesOf_query {m : MemoryBackend} (hm : Reachable m) {name : String} {ds : MemoryDataset}
    (hds : m.datasets[name]? = some ds) (hsize : ds.documents.size < 2 ^ 63) {spec : QuerySpec}
    (hpages : spec.kind = .pages) (h : Host) :
    ∃ c, m.registry.config? name = some c ∧ ∀ k, m.planner.pageSize c spec = .ok k → 0 < k →
      PagesOf (fun p => ((query name { spec with page := p }).exec h m).1)
        ((count name spec).exec h m).1 k ds.documents.values spec.resolvedTag ∧
      ∀ p, ((query name { spec with page := p }).exec h m).2 = (h, m) := by
  obtain ⟨c, hc⟩ := Option.isSome_iff_exists.1 (hm.config?_isSome hds)
  refine ⟨c, hc, fun k hk hpos => ⟨?_, fun p => by rw [exec_query_page hds hc hpages hk]⟩⟩
  have hcoh : ds.Coherent := hm.coherent name ds hds
  have hpage : ∀ p : Int64, ((query name { spec with page := p }).exec h m).1 =
      .ok (pageOf ((ds.filed spec.resolvedTag).map (·.toDocument)) k p.toInt.toNat) := by
    intro p
    rw [exec_query_page hds hc hpages hk]
    exact hcoh.execute_page _ rfl (fun _ _ => rfl) (le_wordMax_of_lt hsize) drawSeed _ _
  refine hcoh.pagesOf hpos hsize hpage ?_
  rw [exec_count, hc, Planner.plan_of_pages name hpages hk, hds]
  rfl

end MemoryBackend

/-! ## The key-value backend

A sound key-value state (`KvBackend.Sound`) answers for a dataset as the memory dataset of
its stored documents gathered by id does (`MemoryDataset.ofStored`): the stored documents
have distinct ids, so the view holds each of them, the index the backend keeps is in the
state of the view's index, and each member loads to its stored document. -/

theorem PagesOf.of_mem_iff {answer : Int64 → Except Error (List Document)} {count : Except Error Nat}
    {k : Nat} {docs docs' : List StoredDocument} {tag : String} (h : ∀ s, s ∈ docs ↔ s ∈ docs')
    (hpages : PagesOf answer count k docs tag) : PagesOf answer count k docs' tag := by
  obtain ⟨S, hS, hsorted, hwalk, hcount⟩ := hpages
  exact ⟨S, fun s => (hS s).trans (and_congr_left' (h s)), hsorted, hwalk, hcount⟩

namespace MemoryDataset

variable {L : List StoredDocument}

/-- Stored documents with distinct ids, gathered by id, hold each of them under its id. -/
theorem getElem?_ofStored_iff (hnodup : (L.map (·.id)).Nodup) {id : String} {s : StoredDocument} :
    (ofStored L).documents[id]? = some s ↔ s ∈ L ∧ s.id = id := by
  simp only [ofStored]
  rw [getElem?_foldl_insert, ExtTreeMap.getElem?_empty, Option.or_none]
  constructor
  · intro hfind
    exact ⟨List.mem_reverse.1 (List.mem_of_find?_eq_some hfind), by simpa using List.find?_some hfind⟩
  · rintro ⟨hs, rfl⟩
    cases hfind : L.reverse.find? (·.id == s.id) with
    | none =>
      have hno := List.find?_eq_none.1 hfind s (List.mem_reverse.2 hs)
      simp at hno
    | some s' =>
      -- the document found has the id, so it is `s`
      have hs' : s' ∈ L := List.mem_reverse.1 (List.mem_of_find?_eq_some hfind)
      have hid : s'.id = s.id := by simpa using List.find?_some hfind
      rw [List.inj_on_of_nodup_map hnodup hs' hs hid]

theorem mem_values_ofStored_iff (hnodup : (L.map (·.id)).Nodup) (s : StoredDocument) :
    s ∈ (ofStored L).documents.values ↔ s ∈ L := by
  rw [mem_values_iff (coherent_ofStored L).idKeyed, getElem?_ofStored_iff hnodup, and_iff_left rfl]

theorem size_ofStored_le (hnodup : (L.map (·.id)).Nodup) : (ofStored L).documents.size ≤ L.length := by
  have hvalues : (ofStored L).documents.values.Nodup :=
    List.Nodup.of_map (·.id) (coherent_ofStored L).idKeyed.nodup_map_id
  calc (ofStored L).documents.size
      = (ofStored L).documents.values.length := by
        rw [ExtTreeMap.values_eq_map_snd_toList, List.length_map, ExtTreeMap.length_toList]
    _ ≤ L.length := hvalues.length_le_of_subset fun s hs => (mem_values_ofStored_iff hnodup s).1 hs

/-- The index of the view is the build of the documents. -/
theorem ofStored_state (hnodup : (L.map (·.id)).Nodup) :
    (ofStored L).index.state = IndexState.build (L.map (·.entry)) := by
  have hcoh := coherent_ofStored L
  obtain ⟨hbuilt, hdocs⟩ := IndexState.build_consistent (L.map (·.entry))
  refine hcoh.tracks.consistent.ext hbuilt ?_
  rw [hcoh.documents_eq, hdocs, documentsOf_of_mem_iff hcoh.idKeyed hnodup fun s =>
    ((getElem?_ofStored_iff hnodup).trans (and_iff_left rfl)).symm]

end MemoryDataset

namespace KvBackend

variable {k : KvBackend} {e : ExtTreeMap String ByteArray compare} {name : String}

theorem decode_of_readStored {codec : Codec} {b : ByteArray} {s : StoredDocument}
    (h : readStored codec b = some s) : codec.decode b >>= StoredDocument.ofDocument = .ok s := by
  unfold readStored at h
  split at h
  next s' hs' =>
    cases h
    exact hs'
  next => cases h

/-- Each stored document of a dataset sits under the key of its id, as bytes that read back
as it. -/
theorem Keyed.getElem?_of_mem_scanned (hk : Keyed k e) (hname : Slashless name) {s : StoredDocument}
    (hs : s ∈ k.scanned e name) : ∃ b, e[k.documentKey name s.id]? = some b ∧ readStored k.codec b = some s := by
  obtain ⟨p, hp, hread⟩ := List.mem_filterMap.1 hs
  obtain ⟨hmem, hpre⟩ := List.mem_filter.1 hp
  have hget : e[p.1]? = some p.2 := ExtTreeMap.mem_toList_iff_getElem?_eq_some.1 hmem
  rw [← hk.document name p.1 p.2 s hname hget hpre hread]
  exact ⟨p.2, hget, hread⟩

/-- The stored documents of a dataset have distinct ids: each sits under the key of its
id. -/
theorem Keyed.nodup_scanned (hk : Keyed k e) (hname : Slashless name) :
    ((k.scanned e name).map (·.id)).Nodup :=
  nodup_scanned_of_key fun p hp hpre s hs =>
    hk.document name p.1 p.2 s hname (ExtTreeMap.mem_toList_iff_getElem?_eq_some.1 hp) hpre hs

theorem length_scanned_le (k : KvBackend) (e : ExtTreeMap String ByteArray compare) (name : String) :
    (k.scanned e name).length ≤ e.size :=
  calc (k.scanned e name).length
      ≤ (e.toList.filter fun p => p.1.startsWith (k.documentsPrefix name)).length := List.length_filterMap_le _ _
    _ ≤ e.toList.length := List.length_filter_le _ _
    _ = e.size := ExtTreeMap.length_toList

section View

variable (hs : Sound k e) (hname : Slashless name)
include hs hname

/-- A member of a tag in the view of the dataset loads to its stored document. -/
theorem Sound.exec_load_member (h : Host) {tag id : String}
    (hid : id ∈ (MemoryDataset.ofStored (k.scanned e name)).index.members tag) :
    (do return (← loadDocument name id).map (·.toDocument) : Run KvBackend (Option Document)).exec h k =
      (.ok ((MemoryDataset.ofStored (k.scanned e name)).documents[id]?.map (·.toDocument)), h, k) := by
  have hnodup := hs.keyed.nodup_scanned hname
  obtain ⟨s, hget, -⟩ := ((MemoryDataset.coherent_ofStored _).mem_members_iff tag id).1 hid
  obtain ⟨hs', rfl⟩ := (MemoryDataset.getElem?_ofStored_iff hnodup).1 hget
  obtain ⟨b, hb, hread⟩ := hs.keyed.getElem?_of_mem_scanned hname hs'
  rw [exec_planLoad hs.store_eq, hb, hget]
  simp only [decode_of_readStored hread]
  rfl

/-- **A page of a key-value dataset.** Over the index the backend keeps for a dataset, a
planned page loads to the page of the view's listing. -/
theorem Sound.exec_execute_page {t : TagIndex} (hidx : k.datasets[name]? = some t)
    (hsize : (k.scanned e name).length ≤ wordMax) (h : Host) (tag : String) (p size : Nat) :
    ((QueryPlan.page tag (min (p * size) wordMax) size).execute t drawSeed fun id =>
        (do return (← loadDocument name id).map (·.toDocument) : Run KvBackend (Option Document))).exec h k =
      (.ok (pageOf (((MemoryDataset.ofStored (k.scanned e name)).filed tag).map (·.toDocument)) size p), h, k) := by
  have hnodup := hs.keyed.nodup_scanned hname
  have ht : t.state = (MemoryDataset.ofStored (k.scanned e name)).index.state := by
    rw [hs.current name t hidx, MemoryDataset.ofStored_state hnodup]
  rw [exec_execute fun id => exec_planLoad hs.store_eq name id h,
    (MemoryDataset.coherent_ofStored _).execute_page tag ht
      (fun id hid => congrArg Prod.fst ((exec_planLoad hs.store_eq name id h).symm.trans
        (hs.exec_load_member hname h hid)))
      (Nat.le_trans (MemoryDataset.size_ofStored_le hnodup) hsize)]

theorem Sound.tagCount_eq {t : TagIndex} (hidx : k.datasets[name]? = some t) (tag : String) :
    t.tagCount tag = (MemoryDataset.ofStored (k.scanned e name)).index.tagCount tag := by
  simp only [TagIndex.tagCount, hs.current name t hidx,
    MemoryDataset.ofStored_state (hs.keyed.nodup_scanned hname)]

end View

/-- A PAGES query on a dataset whose configuration is read back plans the slice of its
page. -/
theorem exec_plan_pages {c : Document} {size : Nat} (hconf : (config name).exec h k = (.ok (some c), h, k))
    {spec : QuerySpec} (hpages : spec.kind = .pages) (hsize : k.planner.pageSize c spec = .ok size) :
    (plan name spec).exec h k =
      (.ok (.page spec.resolvedTag (min (spec.resolvedPage * size) wordMax) size), h, k) := by
  have hsearch : (spec.kind == .search) = false := by
    rw [hpages]
    rfl
  rw [exec_plan_of_config hsearch hconf, Planner.plan_of_pages name hpages hsize]

/-- From a sound state, the stored configuration of a dataset without `/` reads back, and
the read changes nothing. -/
theorem Sound.exec_config_of_isSome (hs : Sound k e) (hname : Slashless name)
    (hconfig : (e[k.configKey name]?).isSome) (h : Host) :
    ∃ c, (config name).exec h k = (.ok (some c), h, k) := by
  obtain ⟨b, hb⟩ := Option.isSome_iff_exists.1 hconfig
  obtain ⟨c, hc⟩ := hs.keyed.config name b hname hb
  refine ⟨c, ?_⟩
  rw [exec_config hs.store_eq, hb]
  simp only [hc]
  rfl

/-- **Paging completeness of a key-value dataset.** From a sound state, a dataset whose
configuration is stored has it read back, and for every page size a PAGES query resolves to
with it, walking the pages lists the dataset's stored documents filed under the query's
tag, each once, most recent first, as many as the count says. -/
theorem Sound.pagesOf_query (hs : Sound k e) (hname : Slashless name)
    (hconfig : (e[k.configKey name]?).isSome) (hsize : e.size < 2 ^ 63) {spec : QuerySpec}
    (hpages : spec.kind = .pages) (h : Host) :
    ∃ c, ((config name).exec h k).1 = .ok (some c) ∧ ∀ size, k.planner.pageSize c spec = .ok size → 0 < size →
      PagesOf (fun p => ((query name { spec with page := p }).exec h k).1) ((count name spec).exec h k).1 size
        (k.scanned e name) spec.resolvedTag := by
  obtain ⟨c, hconf⟩ := hs.exec_config_of_isSome hname hconfig h
  refine ⟨c, by rw [hconf], fun size hk hpos => ?_⟩
  -- the dataset's first use keeps an index built from the same stored documents
  rcases hs.exec_dataset hname h with ⟨err, hnone, -⟩ | ⟨t, k₁, e₁, hds, hs₁, hidx, hp, hcodec, -, hscan⟩
  · rw [hnone] at hconfig
    cases hconfig
  have hL : k₁.scanned e₁ name = k.scanned e name := by
    rw [scanned_of_same k₁ k hp hcodec, hscan name hname]
  have hlen : (k₁.scanned e₁ name).length < 2 ^ 63 := by
    rw [hL]
    exact Nat.lt_of_le_of_lt (length_scanned_le k e name) hsize
  have hnodup := hs₁.keyed.nodup_scanned hname
  have hanswer : ∀ p : Int64, ((query name { spec with page := p }).exec h k).1 =
      .ok (pageOf (((MemoryDataset.ofStored (k₁.scanned e₁ name)).filed spec.resolvedTag).map (·.toDocument))
        size p.toInt.toNat) := by
    intro p
    have hpages' : ({ spec with page := p } : QuerySpec).kind = .pages := hpages
    have hk' : k.planner.pageSize c { spec with page := p } = .ok size := hk
    simp only [query, Run.exec_bind, exec_plan_pages hconf hpages' hk', hds]
    rw [hs₁.exec_execute_page hname hidx (le_wordMax_of_lt hlen) h]
    rfl
  have hcount : ((count name spec).exec h k).1 =
      .ok ((MemoryDataset.ofStored (k₁.scanned e₁ name)).index.tagCount spec.resolvedTag) := by
    simp only [count, Run.exec_bind, exec_plan_pages hconf hpages hk, hds,
      TagStore.exec_count fun id => exec_planLoad hs₁.store_eq name id h]
    rw [← hs₁.tagCount_eq hname hidx]
    rfl
  have hwalk := (MemoryDataset.coherent_ofStored _).pagesOf hpos
    (Nat.lt_of_le_of_lt (MemoryDataset.size_ofStored_le hnodup) hlen) hanswer hcount
  rw [← hL]
  exact hwalk.of_mem_iff (MemoryDataset.mem_values_ofStored_iff hnodup)

/-- **Paging completeness in every reachable state of a key-value backend.** The backend
talks to a store of its own; in it, every valid dataset with a stored configuration has it
read back, and for every page size a PAGES query resolves to with it, walking the pages
lists the dataset's stored documents filed under the query's tag. -/
theorem Reachable.pagesOf_query (hk : Reachable k) :
    ∃ e, k.store = .own { entries := e } ∧ ∀ name, validateName name = .ok () →
      (e[k.configKey name]?).isSome → e.size < 2 ^ 63 → ∀ spec : QuerySpec, spec.kind = .pages → ∀ h : Host,
        ∃ c, ((config name).exec h k).1 = .ok (some c) ∧ ∀ size, k.planner.pageSize c spec = .ok size → 0 < size →
          PagesOf (fun p => ((query name { spec with page := p }).exec h k).1) ((count name spec).exec h k).1 size
            (k.scanned e name) spec.resolvedTag := by
  obtain ⟨e, hs⟩ := hk.sound
  exact ⟨e, hs.store_eq, fun name hname hconfig hsize spec hpages h =>
    hs.pagesOf_query (slashless_of_validateName hname) hconfig hsize hpages h⟩

end KvBackend

/-! ## Both backends -/

end TagStore
