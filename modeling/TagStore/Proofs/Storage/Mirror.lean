import TagStore.Proofs.Storage.KeyValue
import TagStore.Proofs.Storage.Record
/-!
# Proofs.Storage.Mirror

A key-value store holds the documents of a map when its entries under the dataset's document
prefix are the map's documents written out, each under its own id (`Mirrors`), and each of
them reads back (`Readable`). Then the store answers as the map does:

* a scan of the prefix decodes to the map's documents, each once (`Mirrors.mem_scanned_iff`,
  `Mirrors.nodup_scanned`), so a rebuild from it gives the index that tracks the map
  (`Mirrors.recalculate_scanned`) and keeps a sequence already past the map's;
* a document loads as the map holds it (`Mirrors.exec_loadDocument`);
* a batch removal takes out of the store what `MemoryDataset.takeIds` takes out of the map,
  in the same order (`Mirrors.exec_removeAll`);
* a batch write keeps the store holding the map that the batch writes (`Mirrors.writeDocuments`).

Keys outside the document prefix are left alone by all of them.
-/

namespace TagStore

open Std IndexState

/-! ## Lists that hold the documents of a map -/

/-- Filing a list that holds exactly the documents of a map, each id once, gives what the
index records of the map. -/
theorem documentsOf_of_mem_iff {docs : ExtTreeMap String StoredDocument compare}
    {l : List StoredDocument} (hkeyed : IdKeyed docs) (hnodup : (l.map (·.id)).Nodup)
    (hmem : ∀ s, s ∈ l ↔ docs[s.id]? = some s) :
    documentsOf (l.map (·.entry)) = docs.map fun _ s => s.filing := by
  have hof : documentsOf (l.map (·.entry)) =
      ExtTreeMap.ofList (l.map fun s => (s.id, s.filing)) compare := by
    rw [ExtTreeMap.ofList_eq_foldl, documentsOf, List.foldl_map, List.foldl_map]
    rfl
  rw [hof]
  ext id : 1
  rw [ExtTreeMap.getElem?_map]
  cases hget : docs[id]? with
  | none =>
    -- no document of the list has the id, or the map would hold it
    apply ExtTreeMap.getElem?_ofList_of_contains_eq_false
    rw [Bool.eq_false_iff, ne_eq, List.contains_iff_mem, List.map_map]
    intro hin
    obtain ⟨s, hs, hsid⟩ := List.mem_map.1 hin
    have hheld := (hmem s).1 hs
    simp only [Function.comp_apply] at hsid
    rw [hsid, hget] at hheld
    cases hheld
  | some s =>
    have hid : s.id = id := hkeyed id s hget
    have hs : s ∈ l := (hmem s).2 (by rw [hid]; exact hget)
    have hne : l.Pairwise fun a b => a.id ≠ b.id := List.pairwise_map.1 hnodup
    refine ExtTreeMap.getElem?_ofList_of_mem (k := s.id) (by rw [hid]; exact ReflCmp.compare_self)
      ?_ (List.mem_map_of_mem hs)
    rw [List.pairwise_map]
    exact hne.imp fun hab heq => hab (LawfulEqCmp.compare_eq_iff_eq.1 heq)

namespace KvBackend

/-- The entries of a store under a dataset's document prefix are the documents of a map
written out through the backend's codec, each under the key of its id. -/
structure Mirrors (k : KvBackend) (name : String) (e : ExtTreeMap String ByteArray compare)
    (docs : ExtTreeMap String StoredDocument compare) : Prop where
  getElem?_documentKey : ∀ id, e[k.documentKey name id]? = docs[id]?.map fun s => k.codec.encode s.toDocument
  documentKey_of_startsWith : ∀ key b, e[key]? = some b →
    key.startsWith (k.documentsPrefix name) = true → ∃ id, key = k.documentKey name id

/-- Every document of a map, written out through a codec, reads back as itself. -/
def Readable (codec : Codec) (docs : ExtTreeMap String StoredDocument compare) : Prop :=
  ∀ (id : String) (s : StoredDocument), docs[id]? = some s →
    codec.decode (codec.encode s.toDocument) >>= StoredDocument.ofDocument = .ok s

variable {k : KvBackend} {name : String} {e : ExtTreeMap String ByteArray compare}
  {docs : ExtTreeMap String StoredDocument compare} {h : Host}

theorem readStored_of_readBack {codec : Codec} {b : ByteArray} {s : StoredDocument}
    (hb : codec.decode b >>= StoredDocument.ofDocument = .ok s) : readStored codec b = some s := by
  rw [readStored, hb]

/-- A map holding only documents of a readable map is readable. -/
theorem Readable.of_sub {codec : Codec} {docs' : ExtTreeMap String StoredDocument compare}
    (hr : Readable codec docs)
    (hsub : ∀ (id : String) (s : StoredDocument), docs'[id]? = some s → docs[id]? = some s) :
    Readable codec docs' :=
  fun id s hs => hr id s (hsub id s hs)

theorem Readable.erase {codec : Codec} (hr : Readable codec docs) (id : String) :
    Readable codec (docs.erase id) := by
  refine hr.of_sub fun id' s hs => ?_
  rw [ExtTreeMap.getElem?_erase] at hs
  split at hs
  · cases hs
  · exact hs

theorem Readable.foldl_insert {codec : Codec} (hr : Readable codec docs) (stored : List StoredDocument)
    (hstored : ∀ s ∈ stored, codec.decode (codec.encode s.toDocument) >>= StoredDocument.ofDocument = .ok s) :
    Readable codec (stored.foldl (fun acc s => acc.insert s.id s) docs) := by
  intro id s hs
  rcases MemoryDataset.mem_or_of_getElem?_foldl_insert hs with hnew | hold
  · exact hstored s hnew
  · exact hr id s hold

/-- Mirroring reads only the backend's key prefix and codec. -/
theorem Mirrors.of_same_keys {k' : KvBackend} (hm : Mirrors k name e docs)
    (hkp : k'.keyPrefix = k.keyPrefix) (hcodec : k'.codec = k.codec) : Mirrors k' name e docs := by
  obtain ⟨hget, hkey⟩ := hm
  cases k
  cases k'
  simp only at hkp hcodec
  subst hkp hcodec
  exact ⟨hget, hkey⟩

/-! ## Writing and erasing entries -/

/-- A key outside the document prefix is no document's key. -/
theorem ne_documentKey_of_not_startsWith {key : String}
    (hkey : key.startsWith (k.documentsPrefix name) = false) (id : String) :
    key ≠ k.documentKey name id := by
  rintro rfl
  rw [startsWith_documentKey] at hkey
  cases hkey

theorem Mirrors.insert_of_not_startsWith (hm : Mirrors k name e docs) {key : String}
    (hkey : key.startsWith (k.documentsPrefix name) = false) (v : ByteArray) :
    Mirrors k name (e.insert key v) docs := by
  constructor
  · intro id
    rw [ExtTreeMap.getElem?_insert, if_neg (by
      rw [LawfulEqCmp.compare_eq_iff_eq]
      exact ne_documentKey_of_not_startsWith hkey id)]
    exact hm.getElem?_documentKey id
  · intro key' b hb hpre
    rw [ExtTreeMap.getElem?_insert] at hb
    split at hb
    · next heq =>
      rw [LawfulEqCmp.compare_eq_iff_eq] at heq
      rw [← heq, hkey] at hpre
      cases hpre
    · exact hm.documentKey_of_startsWith key' b hb hpre

/-- Writing a document under the key of its id writes it into the map as well. -/
theorem Mirrors.write (hm : Mirrors k name e docs) (s : StoredDocument) :
    Mirrors k name (e.insert (k.documentKey name s.id) (k.codec.encode s.toDocument)) (docs.insert s.id s) := by
  constructor
  · intro id
    rw [ExtTreeMap.getElem?_insert, ExtTreeMap.getElem?_insert]
    by_cases hid : s.id = id
    · subst hid
      simp
    · have hkey : k.documentKey name s.id ≠ k.documentKey name id := fun heq => hid (documentKey_inj heq)
      rw [if_neg (by rwa [LawfulEqCmp.compare_eq_iff_eq]), if_neg (by rwa [LawfulEqCmp.compare_eq_iff_eq])]
      exact hm.getElem?_documentKey id
  · intro key b hb hpre
    rw [ExtTreeMap.getElem?_insert] at hb
    split at hb
    · next heq =>
      rw [LawfulEqCmp.compare_eq_iff_eq] at heq
      exact ⟨s.id, heq.symm⟩
    · exact hm.documentKey_of_startsWith key b hb hpre

/-- A written batch is mirrored by the map with the batch stored one document at a time. -/
theorem Mirrors.writeDocuments (hm : Mirrors k name e docs) (stored : List StoredDocument) :
    Mirrors k name (k.writeDocuments name e stored) (stored.foldl (fun acc s => acc.insert s.id s) docs) := by
  induction stored generalizing e docs with
  | nil => exact hm
  | cons s stored ih => exact ih (hm.write s)

theorem getElem?_writeDocuments_of_not_startsWith {key : String}
    (hkey : key.startsWith (k.documentsPrefix name) = false) (stored : List StoredDocument) :
    (k.writeDocuments name e stored)[key]? = e[key]? := by
  induction stored generalizing e with
  | nil => rfl
  | cons s stored ih =>
    rw [KvBackend.writeDocuments, List.foldl_cons, ← KvBackend.writeDocuments, ih,
      ExtTreeMap.getElem?_insert, if_neg]
    rw [LawfulEqCmp.compare_eq_iff_eq]
    exact (ne_documentKey_of_not_startsWith hkey s.id).symm

theorem Mirrors.erase (hm : Mirrors k name e docs) (id : String) :
    Mirrors k name (e.erase (k.documentKey name id)) (docs.erase id) := by
  constructor
  · intro id'
    rw [ExtTreeMap.getElem?_erase, ExtTreeMap.getElem?_erase]
    by_cases hid : id = id'
    · subst hid
      simp
    · have hkey : k.documentKey name id ≠ k.documentKey name id' := fun heq => hid (documentKey_inj heq)
      rw [if_neg (by rwa [LawfulEqCmp.compare_eq_iff_eq]), if_neg (by rwa [LawfulEqCmp.compare_eq_iff_eq])]
      exact hm.getElem?_documentKey id'
  · intro key b hb hpre
    rw [ExtTreeMap.getElem?_erase] at hb
    split at hb
    · cases hb
    · exact hm.documentKey_of_startsWith key b hb hpre

/-! ## Scanning the prefix -/

/-- The stored documents of a dataset have distinct ids when every entry of its prefix
that reads back sits under the key of its document's id: the keys of a store are
distinct. -/
theorem nodup_scanned_of_key
    (hkey : ∀ p ∈ e.toList, p.1.startsWith (k.documentsPrefix name) = true →
      ∀ s, readStored k.codec p.2 = some s → p.1 = k.documentKey name s.id) :
    ((k.scanned e name).map (·.id)).Nodup := by
  have hkeys : e.toList.Pairwise fun a b => a.1 ≠ b.1 := by
    have hdistinct := e.distinct_keys_toList
    simp only [LawfulEqCmp.compare_eq_iff_eq] at hdistinct
    exact hdistinct
  rw [List.nodup_iff_pairwise_ne, List.pairwise_map, scanned, List.pairwise_filterMap]
  refine (hkeys.sublist List.filter_sublist).imp_of_mem ?_
  intro a b ha hb hab s hs s' hs' hid
  obtain ⟨hma, hpa⟩ := List.mem_filter.1 ha
  obtain ⟨hmb, hpb⟩ := List.mem_filter.1 hb
  exact hab (by rw [hkey a hma hpa s hs, hkey b hmb hpb s' hs', hid])

section Scan

variable (hm : Mirrors k name e docs) (hkeyed : IdKeyed docs) (hr : Readable k.codec docs)
include hm hkeyed hr

/-- An entry under the prefix that decodes is the entry of its document's id. -/
theorem Mirrors.of_mem_toList {p : String × ByteArray} (hp : p ∈ e.toList)
    (hpre : p.1.startsWith (k.documentsPrefix name) = true) {s : StoredDocument}
    (hs : readStored k.codec p.2 = some s) : p.1 = k.documentKey name s.id ∧ docs[s.id]? = some s := by
  have hget : e[p.1]? = some p.2 := ExtTreeMap.mem_toList_iff_getElem?_eq_some.1 hp
  obtain ⟨id, hid⟩ := hm.documentKey_of_startsWith p.1 p.2 hget hpre
  have hdoc := hm.getElem?_documentKey id
  rw [← hid, hget] at hdoc
  cases hheld : docs[id]? with
  | none =>
    rw [hheld] at hdoc
    cases hdoc
  | some s' =>
    rw [hheld, Option.map_some, Option.some.injEq] at hdoc
    -- the bytes are those of `s'`, which read back as `s'`
    rw [hdoc, readStored_of_readBack (hr id s' hheld), Option.some.injEq] at hs
    subst hs
    have hsid : s'.id = id := hkeyed id s' hheld
    rw [hsid]
    exact ⟨hid, hheld⟩

/-- **The scan of a mirrored prefix lists the map's documents.** -/
theorem Mirrors.mem_scanned_iff (s : StoredDocument) :
    s ∈ k.scanned e name ↔ docs[s.id]? = some s := by
  constructor
  · intro hs
    obtain ⟨p, hp, hread⟩ := List.mem_filterMap.1 hs
    obtain ⟨hmem, hpre⟩ := List.mem_filter.1 hp
    exact (hm.of_mem_toList hkeyed hr hmem hpre hread).2
  · intro hs
    have hget : e[k.documentKey name s.id]? = some (k.codec.encode s.toDocument) := by
      rw [hm.getElem?_documentKey, hs, Option.map_some]
    refine List.mem_filterMap.2 ⟨(k.documentKey name s.id, k.codec.encode s.toDocument), ?_, ?_⟩
    · exact List.mem_filter.2 ⟨ExtTreeMap.mem_toList_iff_getElem?_eq_some.2 hget, startsWith_documentKey _ _⟩
    · exact readStored_of_readBack (hr s.id s hs)

/-- Each document is scanned once: the keys of the store are distinct. -/
theorem Mirrors.nodup_scanned : ((k.scanned e name).map (·.id)).Nodup :=
  nodup_scanned_of_key fun _ hp hpre _ hs => (hm.of_mem_toList hkeyed hr hp hpre hs).1

theorem Mirrors.documentsOf_scanned :
    documentsOf ((k.scanned e name).map (·.entry)) = docs.map fun _ s => s.filing :=
  documentsOf_of_mem_iff hkeyed (hm.nodup_scanned hkeyed hr) (hm.mem_scanned_iff hkeyed hr)

/-- A sequence past every sequence number of the map is past every scanned one. -/
theorem Mirrors.sequenceAfter_scanned {sequence : Nat}
    (hlt : ∀ (id : String) (s : StoredDocument), docs[id]? = some s → s.seq.toNat < sequence) :
    sequenceAfter sequence (k.scanned e name) = sequence :=
  sequenceAfter_of_lt fun s hs => hlt s.id s ((hm.mem_scanned_iff hkeyed hr s).1 hs)

end Scan

/-- **A rebuild from a mirrored prefix gives the index of the map**, keeping the clamp count
of the index it replaces. -/
theorem Mirrors.recalculate_scanned {ds : MemoryDataset} (hm : Mirrors k name e ds.documents)
    (hds : ds.Coherent) (hr : Readable k.codec ds.documents) (index : TagIndex) :
    (index.recalculate ((k.scanned e name).map (·.entry))).1 = ⟨ds.index.state, index.inconsistencies⟩ := by
  rw [TagIndex.recalculate_fst]
  congr 1
  obtain ⟨hbuilt, hdocs⟩ := build_consistent ((k.scanned e name).map (·.entry))
  refine hbuilt.ext hds.tracks.consistent ?_
  rw [hdocs, hm.documentsOf_scanned hds.idKeyed hr, hds.documents_eq]

/-! ## Loading and removing documents -/

/-- A document of a mirrored prefix loads as the map holds it. -/
theorem Mirrors.exec_loadDocument (hk : k.store = .own { entries := e }) (hm : Mirrors k name e docs)
    (hr : Readable k.codec docs) (id : String) :
    (loadDocument name id).exec h k = (.ok docs[id]?, h, k) := by
  rw [KvBackend.exec_loadDocument hk, hm.getElem?_documentKey]
  cases hget : docs[id]? with
  | none => rfl
  | some s =>
    simp only [Option.map_some, hr id s hget]
    rfl

theorem Mirrors.exec_mapM_loadDocument (hk : k.store = .own { entries := e }) (hm : Mirrors k name e docs)
    (hr : Readable k.codec docs) (ids : List String) :
    (ids.mapM (loadDocument name)).exec h k = (.ok (ids.map fun id => docs[id]?), h, k) := by
  induction ids with
  | nil => rfl
  | cons id ids ih =>
    rw [List.mapM_cons]
    simp only [Run.exec_bind, hm.exec_loadDocument hk hr, ih, Run.exec_pure, List.map_cons]

/-- Reading ids of a dataset whose configuration is stored gives the documents the map
holds, in the order asked. -/
theorem Mirrors.exec_read (hk : k.store = .own { entries := e }) (hm : Mirrors k name e docs)
    (hr : Readable k.codec docs) (hconfig : e[k.configKey name]?.isSome) (ids : List String) :
    (read name ids).exec h k = (.ok (ids.filterMap fun id => docs[id]?.map (·.toDocument)), h, k) := by
  have hnone : e[k.configKey name]?.isNone = false := by
    rw [Option.isNone_eq_false_iff]
    exact hconfig
  simp only [read, Run.exec_bind, exec_require hk, hnone, Bool.false_eq_true, if_false,
    hm.exec_mapM_loadDocument hk hr, Run.exec_pure, List.filterMap_map]
  rfl

/-- **Removing a batch from a mirrored prefix** gives back the documents `takeIds` takes
from the map, in the order asked, and leaves the store mirroring what remains; keys outside
the prefix keep their values. -/
theorem Mirrors.exec_removeAll (total : Nat) :
    ∀ (ids : List String) (applied : Nat) (out : List Document) (k : KvBackend)
      (e : ExtTreeMap String ByteArray compare) (docs : ExtTreeMap String StoredDocument compare),
      k.store = .own { entries := e } → Mirrors k name e docs → Readable k.codec docs → IdKeyed docs →
      ∃ e', (removeAll name total applied ids out).exec h k =
          (.ok (out.reverse ++ (MemoryDataset.takeIds docs ids).2.map (·.toDocument)), h, k.withEntries e') ∧
        Mirrors k name e' (MemoryDataset.takeIds docs ids).1 ∧
        ∀ key : String, key.startsWith (k.documentsPrefix name) = false → e'[key]? = e[key]?
  | [], applied, out, k, e, docs, hk, hm, _, _ => by
    refine ⟨e, ?_, hm, fun _ _ => rfl⟩
    simp only [removeAll, Run.exec_pure, MemoryDataset.takeIds, List.foldl_nil, List.map_nil,
      List.append_nil, with_store_self hk]
  | id :: ids, applied, out, k, e, docs, hk, hm, hr, hkeyed => by
    rw [MemoryDataset.takeIds_cons]
    simp only [removeAll, Run.exec_bind, Run.exec_tryCatch, hm.exec_loadDocument hk hr]
    cases hget : docs[id]? with
    | none =>
      -- an absent id is skipped
      exact Mirrors.exec_removeAll total ids (applied + 1) out k e docs hk hm hr hkeyed
    | some s =>
      -- a present id is deleted from the store as from the map
      obtain ⟨e', hrun, hm', hframe⟩ := Mirrors.exec_removeAll total ids (applied + 1)
        (s.toDocument :: out) (k.withEntries (e.erase (k.documentKey name id))) _ (docs.erase id) rfl
        ((hm.erase id).of_same_keys rfl rfl) (hr.erase id) (hkeyed.erase id)
      refine ⟨e', ?_, hm'.of_same_keys rfl rfl, ?_⟩
      · simp only [Run.exec_bind, Run.exec_self, exec_delete hk, hrun, List.reverse_cons,
          List.append_assoc, List.map_cons, List.singleton_append]
      · intro key hkey
        rw [hframe key hkey, ExtTreeMap.getElem?_erase, if_neg]
        rw [LawfulEqCmp.compare_eq_iff_eq]
        exact (ne_documentKey_of_not_startsWith hkey id).symm

end KvBackend

end TagStore
