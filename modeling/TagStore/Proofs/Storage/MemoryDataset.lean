import TagStore.Proofs.Index.Incremental
import TagStore.Proofs.Storage.Memory
/-!
# Proofs.Storage.MemoryDataset

A memory dataset holds its documents by id and a tag index beside them, and the two are
updated by separate code: a batch files its entries one by one or rebuilds the index once
at the end, a removal removes from the index only the ids it found, a restore files the
loaded documents into an empty index. They agree (`MemoryDataset.Coherent`) when every
document sits under its own id and the index tracks the entries of the stored documents.

Every change of a dataset keeps them agreeing, and a dataset that agrees answers from its
documents: the index is the full build of their entries (`Coherent.state_eq_build`), a tag
counts the documents filed under it (`Coherent.tagCount_eq`), and an id is listed under a
tag exactly when a stored document of that id has the tag (`Coherent.mem_members_iff`).
-/

namespace TagStore

open Std

/-! ## Maps keyed by id -/

theorem ExtTreeMap.ofList_toList {β : Type} (t : ExtTreeMap String β compare) :
    ExtTreeMap.ofList t.toList compare = t := by
  ext k : 1
  cases hk : t[k]? with
  | none =>
    apply ExtTreeMap.getElem?_ofList_of_contains_eq_false
    simp [ExtTreeMap.mem_iff_isSome_getElem?, hk]
  | some v =>
    exact ExtTreeMap.getElem?_ofList_of_mem ReflCmp.compare_self ExtTreeMap.distinct_keys_toList
      (ExtTreeMap.mem_toList_iff_getElem?_eq_some.2 hk)

theorem ExtTreeMap.values_eq_map_snd_toList {α β : Type} {cmp : α → α → Ordering} [TransCmp cmp]
    (t : ExtTreeMap α β cmp) : t.values = t.toList.map Prod.snd := by
  rcases t with ⟨t⟩
  induction t using ExtDTreeMap.inductionOn with
  | mk t =>
    rcases t with ⟨t, wf⟩
    show t.values = (DTreeMap.Internal.Impl.Const.toList t).map Prod.snd
    rw [DTreeMap.Internal.Impl.values_eq_map_snd, DTreeMap.Internal.Impl.Const.toList_eq_toListModel_map]
    simp

/-- Erasing ids one by one leaves exactly the keys not among them. -/
theorem ExtTreeMap.getElem?_foldl_erase {β : Type} (ids : List String)
    (d : ExtTreeMap String β compare) (k : String) :
    (ids.foldl (·.erase ·) d)[k]? = if k ∈ ids then none else d[k]? := by
  induction ids generalizing d with
  | nil => simp
  | cons id ids ih =>
    rw [List.foldl_cons, ih, ExtTreeMap.getElem?_erase]
    simp only [LawfulEqCmp.compare_eq_iff_eq, List.mem_cons]
    by_cases hk : k = id
    · subst hk
      simp
    · simp [hk, Ne.symm hk]

theorem ExtTreeMap.map_foldl_erase {β γ : Type} (f : String → β → γ) (ids : List String)
    (d : ExtTreeMap String β compare) :
    (ids.foldl (·.erase ·) d).map f = ids.foldl (·.erase ·) (d.map f) := by
  ext k : 1
  simp only [ExtTreeMap.getElem?_map, ExtTreeMap.getElem?_foldl_erase]
  split <;> rfl

/-- A tree set whose members are those of a list without repeats has the list's length. -/
theorem ExtTreeSet.size_eq_length {α : Type} {cmp : α → α → Ordering} [TransCmp cmp]
    [LawfulEqCmp cmp] (s : ExtTreeSet α cmp) {l : List α} (hl : l.Nodup)
    (h : ∀ a, a ∈ s ↔ a ∈ l) : s.size = l.length := by
  rw [← ExtTreeSet.length_toList]
  apply List.Perm.length_eq
  rw [List.perm_ext_iff_of_nodup (ExtTreeSet.nodup_toList s) hl]
  intro a
  rw [ExtTreeSet.mem_toList, h]

/-! ## Documents under their own ids -/

namespace StoredDocument

/-- What the index records of a stored document: its key and its tags. -/
def filing (s : StoredDocument) : MemberKey × TagSet := (s.entry.key, s.tags)

end StoredDocument

/-- Every document of a map sits under its own id. -/
def IdKeyed (docs : ExtTreeMap String StoredDocument compare) : Prop :=
  ∀ (id : String) (s : StoredDocument), docs[id]? = some s → s.id = id

section IdKeyed

variable {docs : ExtTreeMap String StoredDocument compare}

theorem idKeyed_empty : IdKeyed ∅ := by
  intro id s h
  simp at h

theorem IdKeyed.insert (h : IdKeyed docs) (s : StoredDocument) : IdKeyed (docs.insert s.id s) := by
  intro id s' hs'
  rw [ExtTreeMap.getElem?_insert] at hs'
  split at hs'
  · next heq =>
    rw [LawfulEqCmp.compare_eq_iff_eq] at heq
    cases hs'
    exact heq
  · exact h id s' hs'

theorem IdKeyed.foldl_insert (h : IdKeyed docs) (l : List StoredDocument) :
    IdKeyed (l.foldl (fun acc s => acc.insert s.id s) docs) := by
  induction l generalizing docs with
  | nil => exact h
  | cons s l ih => exact ih (h.insert s)

theorem IdKeyed.foldl_erase (h : IdKeyed docs) (ids : List String) :
    IdKeyed (ids.foldl (·.erase ·) docs) := by
  intro id s hs
  rw [ExtTreeMap.getElem?_foldl_erase] at hs
  split at hs
  · cases hs
  · exact h id s hs

theorem IdKeyed.erase (h : IdKeyed docs) (id : String) : IdKeyed (docs.erase id) :=
  h.foldl_erase [id]

/-- The ids of the stored documents, one per document, have no repeats. -/
theorem IdKeyed.nodup_map_id (h : IdKeyed docs) : (docs.values.map (·.id)).Nodup := by
  have hkeys : docs.values.map (·.id) = docs.toList.map Prod.fst := by
    rw [ExtTreeMap.values_eq_map_snd_toList, List.map_map]
    apply List.map_congr_left
    rintro ⟨id, s⟩ hmem
    exact h id s (ExtTreeMap.mem_toList_iff_getElem?_eq_some.1 hmem)
  have hdistinct := docs.distinct_keys_toList
  simp only [LawfulEqCmp.compare_eq_iff_eq] at hdistinct
  rw [hkeys, List.nodup_iff_pairwise_ne, List.pairwise_map]
  exact hdistinct

theorem mem_values_iff {s : StoredDocument} (h : IdKeyed docs) :
    s ∈ docs.values ↔ docs[s.id]? = some s := by
  rw [ExtTreeMap.values_eq_map_snd_toList, List.mem_map]
  constructor
  · rintro ⟨⟨id, s'⟩, hmem, rfl⟩
    have hget := ExtTreeMap.mem_toList_iff_getElem?_eq_some.1 hmem
    rw [h id s' hget]
    exact hget
  · intro hget
    exact ⟨(s.id, s), ExtTreeMap.mem_toList_iff_getElem?_eq_some.2 hget, rfl⟩

end IdKeyed

/-! ## The documents map the index sees -/

section DocumentsOf

open IndexState TagIndex

variable {docs : ExtTreeMap String StoredDocument compare}

/-- Filing the entries of the stored documents gives each id the key and tags of its
document. -/
theorem documentsOf_values (h : IdKeyed docs) :
    documentsOf (docs.values.map (·.entry)) = docs.map fun _ s => s.filing := by
  have hlist : (docs.values.map (·.entry)).map (fun e => (e.id, (e.key, e.tags))) =
      (docs.map fun _ s => s.filing).toList := by
    rw [ExtTreeMap.toList_map, ExtTreeMap.values_eq_map_snd_toList, List.map_map, List.map_map]
    apply List.map_congr_left
    rintro ⟨id, s⟩ hmem
    have hid : s.id = id := h id s (ExtTreeMap.mem_toList_iff_getElem?_eq_some.1 hmem)
    simp only [Function.comp_apply, StoredDocument.filing]
    rw [← hid]
    rfl
  rw [← ExtTreeMap.ofList_toList (docs.map fun _ s => s.filing), ← hlist,
    ExtTreeMap.ofList_eq_foldl, List.foldl_map]
  rfl

theorem documentsOf_foldl_fileLive (live es : List IndexEntry) :
    documentsOf (es.foldl fileLive live) =
      es.foldl (fun m e => m.insert e.id (e.key, e.tags)) (documentsOf live) := by
  induction es generalizing live with
  | nil => rfl
  | cons e es ih => rw [List.foldl_cons, ih, documentsOf_fileLive, List.foldl_cons]

theorem documentsOf_foldl_dropLive (live : List IndexEntry) (ids : List String) :
    documentsOf (ids.foldl dropLive live) = ids.foldl (·.erase ·) (documentsOf live) := by
  induction ids generalizing live with
  | nil => rfl
  | cons id ids ih => rw [List.foldl_cons, ih, documentsOf_dropLive, List.foldl_cons]

/-- Storing documents one by one and filing their entries one by one agree. -/
theorem map_foldl_insert (l : List StoredDocument) (docs : ExtTreeMap String StoredDocument compare) :
    (l.foldl (fun acc s => acc.insert s.id s) docs).map (fun _ s => s.filing) =
      (l.map (·.entry)).foldl (fun m e => m.insert e.id (e.key, e.tags))
        (docs.map fun _ s => s.filing) := by
  induction l generalizing docs with
  | nil => rfl
  | cons s l ih =>
    rw [List.foldl_cons, ih, List.map_cons, List.foldl_cons]
    congr 1
    ext k : 1
    simp only [ExtTreeMap.getElem?_map, ExtTreeMap.getElem?_insert]
    show _ = if compare s.id k = .eq then some s.filing else _
    split <;> rfl

/-- An index tracks any list with the same documents map. -/
theorem TagIndex.Tracks.of_documentsOf_eq {t : TagIndex} {live live' : List IndexEntry} (h : Tracks t live)
    (he : documentsOf live = documentsOf live') : Tracks t live' :=
  ⟨h.consistent, h.clean, h.documents_eq.trans he⟩

end DocumentsOf

/-! ## Taking ids out -/

namespace MemoryDataset

/-- One id taken out: erased with its document noted, or nothing if absent. -/
theorem takeIds_eq (documents : ExtTreeMap String StoredDocument compare) (ids : List String) :
    takeIds documents ids = ids.foldl (fun acc id =>
      match acc.1[id]? with
      | some s => (acc.1.erase id, acc.2 ++ [s])
      | none => acc) (documents, []) :=
  rfl

/-- Taking ids out erases each of them, and the documents taken are those erased: erasing
their ids from the start gives the same map. -/
theorem foldl_take {d : ExtTreeMap String StoredDocument compare} (hd : IdKeyed d)
    (ids : List String) (taken : List StoredDocument) :
    ∃ more : List StoredDocument,
      ids.foldl (fun acc id =>
        match acc.1[id]? with
        | some s => (acc.1.erase id, acc.2 ++ [s])
        | none => acc) (d, taken) = (ids.foldl (·.erase ·) d, taken ++ more) ∧
      (more.map (·.id)).foldl (·.erase ·) d = ids.foldl (·.erase ·) d := by
  induction ids generalizing d taken with
  | nil => exact ⟨[], by simp⟩
  | cons id ids ih =>
    rw [List.foldl_cons, List.foldl_cons]
    cases hget : d[id]? with
    | none =>
      -- an absent id is erased without effect and notes nothing
      have herase : d.erase id = d := by
        ext k : 1
        rw [ExtTreeMap.getElem?_erase]
        split
        · next heq =>
          rw [LawfulEqCmp.compare_eq_iff_eq] at heq
          rw [← heq, hget]
        · rfl
      simp only
      rw [herase]
      exact ih hd taken
    | some s =>
      obtain ⟨more, hrun, herased⟩ := ih (hd.erase id) (taken ++ [s])
      refine ⟨s :: more, ?_, ?_⟩
      · simp only
        rw [hrun, List.append_assoc]
        rfl
      · have hid : s.id = id := hd id s hget
        rw [List.map_cons, List.foldl_cons, hid]
        exact herased

/-- Taking ids out of a documents map erases them, and erasing the ids of the documents
taken does the same. -/
theorem takeIds_spec {documents : ExtTreeMap String StoredDocument compare} (hd : IdKeyed documents)
    (ids : List String) :
    (takeIds documents ids).1 = ids.foldl (·.erase ·) documents ∧
      ((takeIds documents ids).2.map (·.id)).foldl (·.erase ·) documents =
        ids.foldl (·.erase ·) documents := by
  obtain ⟨more, hrun, herased⟩ := foldl_take hd ids []
  rw [takeIds_eq, hrun]
  exact ⟨rfl, herased⟩

/-- The documents taken so far stay in front of those taken next. -/
theorem foldl_take_acc (ids : List String) (d : ExtTreeMap String StoredDocument compare)
    (taken : List StoredDocument) :
    ids.foldl (fun acc id =>
        match acc.1[id]? with
        | some s => (acc.1.erase id, acc.2 ++ [s])
        | none => acc) (d, taken) = ((takeIds d ids).1, taken ++ (takeIds d ids).2) := by
  induction ids generalizing d taken with
  | nil => simp [takeIds]
  | cons id ids ih =>
    rw [takeIds_eq, List.foldl_cons, List.foldl_cons]
    cases d[id]? with
    | none => rw [ih, ih d [], List.nil_append]
    | some s => rw [ih, ih _ ([] ++ [s]), List.nil_append, List.append_assoc]

/-- Taking ids out one at a time: the first id, if present, is taken before the others. -/
theorem takeIds_cons (documents : ExtTreeMap String StoredDocument compare) (id : String)
    (ids : List String) :
    takeIds documents (id :: ids) =
      match documents[id]? with
      | some s => ((takeIds (documents.erase id) ids).1, s :: (takeIds (documents.erase id) ids).2)
      | none => takeIds documents ids := by
  rw [takeIds_eq, List.foldl_cons]
  cases documents[id]? with
  | none => rw [← takeIds_eq]
  | some s => rw [foldl_take_acc, List.nil_append, List.singleton_append]

/-! ## Coherent datasets -/

open IndexState TagIndex

/-- A dataset's documents and index agree: every document sits under its own id, and the
index tracks the entries of the stored documents. -/
structure Coherent (ds : MemoryDataset) : Prop where
  idKeyed : IdKeyed ds.documents
  tracks : ds.index.Tracks (ds.documents.values.map (·.entry))

variable {ds : MemoryDataset}

theorem Coherent.documents_eq (h : ds.Coherent) :
    ds.index.state.documents = ds.documents.map fun _ s => s.filing :=
  h.tracks.documents_eq.trans (documentsOf_values h.idKeyed)

/-- A dataset whose documents sit under their own ids is coherent as soon as its index
tracks some list with the documents' map. -/
theorem coherent_of_tracks (hid : IdKeyed ds.documents) {live : List IndexEntry}
    (ht : ds.index.Tracks live) (he : documentsOf live = ds.documents.map fun _ s => s.filing) :
    ds.Coherent :=
  ⟨hid, ht.of_documentsOf_eq (he.trans (documentsOf_values hid).symm)⟩

theorem coherent_empty : ({} : MemoryDataset).Coherent := by
  refine coherent_of_tracks idKeyed_empty tracks_empty ?_
  ext k : 1
  simp [documentsOf]

/-- Writing a batch keeps a dataset coherent, whether the index is brought up to date entry
by entry or rebuilt once at the end. -/
theorem Coherent.write (h : ds.Coherent) (deferIndex : Bool) (stored : List StoredDocument) :
    (ds.write deferIndex stored).Coherent := by
  have hid : IdKeyed (stored.foldl (fun acc s => acc.insert s.id s) ds.documents) :=
    h.idKeyed.foldl_insert stored
  cases deferIndex with
  | true => exact ⟨hid, tracks_recalculate h.tracks.clean _⟩
  | false =>
    have hwrite : ds.write false stored =
        ⟨stored.foldl (fun acc s => acc.insert s.id s) ds.documents,
          ds.index.insertBatch (stored.map (·.entry))⟩ := rfl
    rw [hwrite]
    refine coherent_of_tracks hid (h.tracks.insertBatch (stored.map (·.entry))) ?_
    rw [documentsOf_foldl_fileLive, documentsOf_values h.idKeyed]
    exact (map_foldl_insert stored ds.documents).symm

/-- Removing ids keeps a dataset coherent: the index forgets exactly the documents taken. -/
theorem Coherent.removeIds (h : ds.Coherent) (ids : List String) : (ds.removeIds ids).1.Coherent := by
  obtain ⟨hfst, herased⟩ := takeIds_spec h.idKeyed ids
  have hrem : (ds.removeIds ids).1 =
      ⟨(takeIds ds.documents ids).1,
        (ds.index.removeBatch ((takeIds ds.documents ids).2.map (·.id))).1⟩ := rfl
  rw [hrem]
  refine coherent_of_tracks ?_ (h.tracks.removeBatch _) ?_
  · show IdKeyed (takeIds ds.documents ids).1
    rw [hfst]
    exact h.idKeyed.foldl_erase ids
  · show _ = (takeIds ds.documents ids).1.map _
    rw [documentsOf_foldl_dropLive, documentsOf_values h.idKeyed, ← ExtTreeMap.map_foldl_erase,
      herased, hfst]

theorem Coherent.rebuild (h : ds.Coherent) : ds.rebuild.1.Coherent :=
  ⟨h.idKeyed, tracks_recalculate h.tracks.clean _⟩

/-- A dataset restored from stored documents is coherent, whatever the documents. -/
theorem coherent_ofStored (docs : List StoredDocument) : (ofStored docs).Coherent :=
  coherent_empty.write false docs

/-! ## What a coherent dataset answers -/

/-- The index is the full build of the stored documents' entries. -/
theorem Coherent.state_eq_build (h : ds.Coherent) :
    ds.index.state = build (ds.documents.values.map (·.entry)) :=
  h.tracks.state_eq_build

/-- A tag's members are the keys of the stored documents that have the tag. -/
theorem Coherent.mem_memberSet_iff (h : ds.Coherent) (tag : String) (k : MemberKey) :
    k ∈ ds.index.state.memberSet tag ↔
      ∃ s ∈ ds.documents.values, tag ∈ s.tags ∧ s.entry.key = k := by
  rw [h.tracks.consistent.mem_iff, Filed, h.documents_eq]
  constructor
  · rintro ⟨tags, hget, htag⟩
    rw [ExtTreeMap.getElem?_map, Option.map_eq_some_iff] at hget
    obtain ⟨s, hs, hfiling⟩ := hget
    simp only [StoredDocument.filing, Prod.mk.injEq] at hfiling
    obtain ⟨hkey, htags⟩ := hfiling
    refine ⟨s, ?_, htags ▸ htag, hkey⟩
    rw [mem_values_iff h.idKeyed, h.idKeyed _ s hs]
    exact hs
  · rintro ⟨s, hs, htag, rfl⟩
    refine ⟨s.tags, ?_, htag⟩
    show (ds.documents.map fun _ s => s.filing)[s.id]? = _
    rw [ExtTreeMap.getElem?_map, (mem_values_iff h.idKeyed).1 hs]
    rfl

/-- An id is listed under a tag exactly when a stored document of that id has the tag. -/
theorem Coherent.mem_members_iff (h : ds.Coherent) (tag id : String) :
    id ∈ ds.index.members tag ↔ ∃ s, ds.documents[id]? = some s ∧ tag ∈ s.tags := by
  simp only [members, List.mem_map, mem_memberKeys, h.mem_memberSet_iff]
  constructor
  · rintro ⟨_, ⟨s, hs, htag, rfl⟩, rfl⟩
    exact ⟨s, (mem_values_iff h.idKeyed).1 hs, htag⟩
  · rintro ⟨s, hs, htag⟩
    have hid : s.id = id := h.idKeyed id s hs
    refine ⟨s.entry.key, ⟨s, ?_, htag, rfl⟩, hid⟩
    rw [mem_values_iff h.idKeyed, hid]
    exact hs

/-- The keys of the stored documents that have a tag, without repeats. -/
theorem Coherent.nodup_keys (h : ds.Coherent) (tag : String) :
    ((ds.documents.values.filter fun s => tag ∈ s.tags).map (·.entry.key)).Nodup := by
  have hids : ((ds.documents.values.filter fun s => tag ∈ s.tags).map (·.id)).Nodup :=
    (List.filter_sublist.map _).nodup h.idKeyed.nodup_map_id
  have hkeys : (((ds.documents.values.filter fun s => tag ∈ s.tags).map (·.entry.key)).map
      MemberKey.id).Nodup := by
    rw [List.map_map]
    exact hids
  -- keys of different ids differ
  exact List.Pairwise.of_map MemberKey.id
    (fun a b (hab : a.id ≠ b.id) heq => hab (congrArg MemberKey.id heq)) hkeys

/-- A tag counts the stored documents that have it. -/
theorem Coherent.tagCount_eq (h : ds.Coherent) (tag : String) :
    ds.index.tagCount tag = (ds.documents.values.filter fun s => tag ∈ s.tags).length := by
  have hmem : ∀ k, k ∈ ds.index.state.memberSet tag ↔
      k ∈ (ds.documents.values.filter fun s => tag ∈ s.tags).map (·.entry.key) := by
    intro k
    rw [h.mem_memberSet_iff]
    simp [List.mem_filter, and_assoc]
  rw [tagCount, ExtTreeMap.get?_eq_getElem?]
  cases he : ds.index.state.tags[tag]? with
  | none =>
    -- no tag, no member: the filtered documents are none
    have hnil : (ds.documents.values.filter fun s => tag ∈ s.tags).map (·.entry.key) = [] := by
      apply List.eq_nil_iff_forall_not_mem.2
      intro k hk
      have hk' := (hmem k).2 hk
      simp [memberSet, he] at hk'
    rw [← List.length_map (f := (·.entry.key)), hnil]
    rfl
  | some e =>
    simp only [Option.map_some, Option.getD_some]
    rw [h.tracks.consistent.count_eq tag e he, ExtTreeSet.size_eq_length e.members (h.nodup_keys tag),
      List.length_map]
    intro k
    rw [← hmem, memberSet, he]
    rfl

/-- Storing documents one by one leaves each id with the last document of that id, if
there is one. -/
theorem getElem?_foldl_insert (l : List StoredDocument)
    (docs : ExtTreeMap String StoredDocument compare) (id : String) :
    (l.foldl (fun acc s => acc.insert s.id s) docs)[id]? =
      (l.reverse.find? (·.id == id)).or docs[id]? := by
  induction l generalizing docs with
  | nil => simp
  | cons s l ih =>
    rw [List.foldl_cons, ih, ExtTreeMap.getElem?_insert, List.reverse_cons, List.find?_append,
      Option.or_assoc]
    simp only [LawfulEqCmp.compare_eq_iff_eq]
    by_cases hs : s.id = id <;> simp [hs]

/-- A document after a batch is stored is one of the batch or one held before. -/
theorem mem_or_of_getElem?_foldl_insert {l : List StoredDocument}
    {docs : ExtTreeMap String StoredDocument compare} {id : String} {s : StoredDocument}
    (hs : (l.foldl (fun acc s => acc.insert s.id s) docs)[id]? = some s) : s ∈ l ∨ docs[id]? = some s := by
  rw [getElem?_foldl_insert] at hs
  cases hfind : l.reverse.find? (·.id == id) with
  | none =>
    rw [hfind, Option.none_or] at hs
    exact .inr hs
  | some s' =>
    rw [hfind, Option.some_or, Option.some.injEq] at hs
    rw [← hs]
    exact .inl (List.mem_reverse.1 (List.mem_of_find?_eq_some hfind))

/-- Taking ids out leaves only documents held before. -/
theorem getElem?_takeIds_fst {documents : ExtTreeMap String StoredDocument compare} (hd : IdKeyed documents)
    {ids : List String} {id : String} {s : StoredDocument}
    (hs : (takeIds documents ids).1[id]? = some s) : documents[id]? = some s := by
  rw [(takeIds_spec hd ids).1, ExtTreeMap.getElem?_foldl_erase] at hs
  split at hs
  · cases hs
  · exact hs

end MemoryDataset

end TagStore
