import TagStore.Storage.Snapshot
import TagStore.Proofs.Storage.Files
import TagStore.Proofs.Storage.StoredForm
import TagStore.Proofs.Storage.Paging
import TagStore.Proofs.Storage.TransparentMemory
/-!
# Proofs.Storage.Snapshot

What a snapshot backend holds once it has opened a directory tree.

A data file whose text is a JSON object loads as one document (`snapshotDocument_isSome_iff`):
named by its `_id` when that is a non-blank text, else by the file's name without its
extension; its `_metadata` object split off as its metadata, whose `_index` strings and
`_date` are its tags; its time the data field `_timestamp` when that is a 64-bit integer,
else 0; and its sequence number its place among all the dataset's data files, from 1
(`LoadedFrom`, `loadedFrom_of_snapshotDocument`). Any other file is skipped.

A dataset's data files are its `.json` files at any depth below its `data` directory, in
strictly increasing path order (`mem_dataFiles_iff`, `pairwise_lt_dataFiles`). Gathered by
id, the last file of each id wins (`getElem?_ofStored_loaded`).

Loading a dataset directory fails only when its `polydata.json` is there and is not a JSON
object (`loadDataset_succeeds_iff`), so opening fails only for that or a missing root
(`openStore_succeeds_iff`), never for a data file.

**Main statement.** `open_loads_snapshot`: after opening succeeds, the backend holds one
dataset for each directory under the root whose name is a valid dataset name, with the
defaults extended by its `polydata.json` as configuration and metadata, and as documents
the last document of each id among its data files; its index is coherent with them, and
each tag's pages list its documents most recent first, then from the later file.
-/

namespace TagStore

open Std

namespace Json.Fields

theorem get?_erase_of_ne (fs : Fields) {k k' : String} (hne : k' ≠ k) : get? (erase fs k) k' = get? fs k' :=
  get?_filter_of_keep fs _ fun _ => by simpa using hne

end Json.Fields

/-! ## One data file -/

theorem Document.mem_stringsOf {items : List Json} {s : String} :
    s ∈ Document.stringsOf items ↔ Json.string s ∈ items := by
  rw [Document.stringsOf, List.mem_filterMap]
  constructor
  · rintro ⟨x, hx, hs⟩
    cases x <;> simp_all [Json.str?]
  · exact fun h => ⟨_, h, rfl⟩

/-- The fields of a file's `_metadata` object; none when it has no such object. -/
def metadataObject (fs : Json.Fields) : Json.Fields :=
  ((Json.Fields.get? fs fileMetadataKey).bind Json.fields?).getD []

/-- The id a file with the object `fs` names: its `_id` when that is a non-blank text, else
`fallback`. -/
def FileId (fs : Json.Fields) (fallback id : String) : Prop :=
  (∃ s, Json.Fields.get? fs "_id" = some (.string s) ∧ Text.isBlankText s = false ∧ id = s) ∨
    ((∀ s, Json.Fields.get? fs "_id" = some (.string s) → Text.isBlankText s = true) ∧ id = fallback)

/-- What a document loaded from the data file at `path`, the `position`-th of its dataset's
data files, holds when the file's text is the object `fs`. -/
structure LoadedFrom (d : StoredDocument) (path : Path) (fs : Json.Fields) (position : Nat) : Prop where
  /-- Named by the `_id`, else by the file's name without its extension. -/
  id : FileId fs (Path.stem (path.getLast?.getD "")) d.id
  /-- The object without `_metadata` and `_id` as data, the `_metadata` object as metadata,
  less the keys the backend writes itself. -/
  document : d.document = Document.stripWriteMetadata
    ⟨d.id, Json.Fields.erase (Json.Fields.erase fs fileMetadataKey) "_id",
      Json.Fields.extend [] (metadataObject fs)⟩
  /-- Filed under the strings of `_metadata._index`, and under `_date`. -/
  tags : ∀ tag, tag ∈ d.tags ↔ tag = dateTag ∨
    ∃ items, Json.Fields.get? (metadataObject fs) fileIndexKey = some (.array items) ∧ Json.string tag ∈ items
  /-- Written at `_timestamp` when that is a 64-bit integer, else at 0. -/
  timestamp : d.timestamp = ((Json.Fields.get? fs fileTimestampKey).bind Json.toInt64?).getD 0
  /-- Numbered by its place among the data files, from 1. -/
  seq : d.seq = (position + 1).toUInt64

/-- A file read as a document was a JSON object: the document is the object without `_metadata`
and `_id`, named by the `_id` or the fallback, and the `_metadata` object is split off. -/
theorem readFlatFile_eq_ok {path : Path} {bytes : ByteArray} {fallback : String} {doc : Document}
    {md : Option Json.Fields} (h : readFlatFile path bytes fallback = .ok (doc, md)) :
    ∃ fs, Json.parseBytes bytes = .ok (.object fs) ∧ FileId fs fallback doc.id ∧
      doc.data = Json.Fields.erase (Json.Fields.erase fs fileMetadataKey) "_id" ∧ doc.metadata = [] ∧
      md = (Json.Fields.get? fs fileMetadataKey).bind Json.fields? := by
  unfold readFlatFile at h
  split at h
  · cases h
  · next fs hparse =>
    simp only [Except.ok.injEq, Prod.mk.injEq] at h
    obtain ⟨rfl, rfl⟩ := h
    refine ⟨fs, hparse, ?_, rfl, rfl, ?_⟩
    · -- `_metadata` is split off before the `_id` is looked up, which it does not change
      simp only [Json.Fields.get?_erase_of_ne fs (show "_id" ≠ fileMetadataKey by decide)]
      unfold FileId
      split
      · next s hs =>
        cases hb : Text.isBlankText s
        · exact .inl ⟨s, hs, hb, by simp⟩
        · refine .inr ⟨fun s' hs' => ?_, by simp⟩
          rw [hs, Option.some.injEq, Json.string.injEq] at hs'
          rwa [← hs']
      · next hnot =>
        exact .inr ⟨fun s' hs' => absurd hs' (hnot s'), rfl⟩
    · cases Json.Fields.get? fs fileMetadataKey with
      | none => rfl
      | some v => cases v <;> rfl
  · cases h

/-- A file whose text is a JSON object reads as a document. -/
theorem exists_readFlatFile_eq_ok {path : Path} {bytes : ByteArray} {fallback : String} {fs : Json.Fields}
    (h : Json.parseBytes bytes = .ok (.object fs)) : ∃ r, readFlatFile path bytes fallback = .ok r := by
  rw [readFlatFile, h]
  exact ⟨_, rfl⟩

/-- A data file loads as a document exactly when its text is a JSON object. -/
theorem snapshotDocument_isSome_iff {path : Path} {bytes : ByteArray} {position : Nat} :
    (snapshotDocument path bytes position).isSome ↔ ∃ fs, Json.parseBytes bytes = .ok (.object fs) := by
  unfold snapshotDocument
  constructor
  · intro h
    split at h
    · next doc md hread =>
      obtain ⟨fs, hfs, -⟩ := readFlatFile_eq_ok hread
      exact ⟨fs, hfs⟩
    · cases h
  · rintro ⟨fs, hfs⟩
    split
    · rfl
    · next e herr =>
      obtain ⟨r, hr⟩ := @exists_readFlatFile_eq_ok path bytes _ fs hfs
      rw [hr] at herr
      cases herr

/-- **What a data file loads as**: the document `LoadedFrom` describes. -/
theorem loadedFrom_of_snapshotDocument {path : Path} {bytes : ByteArray} {position : Nat} {d : StoredDocument}
    (h : snapshotDocument path bytes position = some d) :
    ∃ fs, Json.parseBytes bytes = .ok (.object fs) ∧ LoadedFrom d path fs position := by
  unfold snapshotDocument at h
  split at h
  · next doc md hread =>
    obtain ⟨fs, hparse, hid, hdata, hmeta, rfl⟩ := readFlatFile_eq_ok hread
    obtain rfl := Option.some.inj h
    obtain ⟨id, data, metadata⟩ := doc
    simp only at hid hdata hmeta
    subst hdata hmeta
    refine ⟨fs, hparse, ⟨hid, rfl, ?_, ?_, rfl⟩⟩
    · intro tag
      simp only [StoredDocument.new]
      rw [ExtTreeSet.mem_insert, LawfulEqCmp.compare_eq_iff_eq, eq_comm (a := dateTag)]
      apply or_congr_right
      rw [metadataObject]
      split
      · next items hitems =>
        rw [ExtTreeSet.mem_ofList, List.contains_iff_mem, Document.mem_stringsOf]
        constructor
        · exact fun h => ⟨items, hitems, h⟩
        · rintro ⟨items', hitems', h⟩
          rw [hitems, Option.some.injEq, Json.array.injEq] at hitems'
          rwa [hitems']
      · next hnot =>
        simp only [ExtTreeSet.not_mem_empty, false_iff, not_exists, not_and]
        exact fun items hitems => absurd hitems (hnot items)
    · -- `_timestamp` is looked up in the data, which keeps it
      simp only [StoredDocument.new, Document.fetch,
        Json.Fields.get?_erase_of_ne _ (show fileTimestampKey ≠ "_id" by decide),
        Json.Fields.get?_erase_of_ne _ (show fileTimestampKey ≠ fileMetadataKey by decide)]
  · cases h

/-! ## The last document of each id -/

section Positions

variable {α : Type} (F : α → Nat → Option StoredDocument) (id : String)

/-- Documents loaded position by position hold none of an id exactly when no position loads
one. -/
theorem find?_reverse_loaded_eq_none (L : List α) (k : Nat) :
    ((L.zipIdx k).filterMap fun x => F x.1 x.2).reverse.find? (·.id == id) = none ↔
      ∀ j a d, L[j]? = some a → F a (k + j) = some d → d.id ≠ id := by
  rw [List.find?_eq_none]
  simp only [List.mem_reverse, List.mem_filterMap, beq_iff_eq]
  constructor
  · intro h j a d hj hd hid
    refine h d ⟨(a, k + j), List.mem_zipIdx_iff_le_and_getElem?_sub.2 ⟨by simp, ?_⟩, hd⟩ hid
    simpa using hj
  · rintro h d ⟨⟨a, n⟩, hmem, hd⟩ hid
    obtain ⟨hk, hget⟩ := List.mem_zipIdx_iff_le_and_getElem?_sub.1 hmem
    exact h (n - k) a d hget (by rwa [Nat.add_sub_cancel' hk]) hid

/-- The document of one position is found for an id when it has that id. -/
theorem find?_toList_eq_some (o : Option StoredDocument) (d : StoredDocument) :
    o.toList.reverse.find? (·.id == id) = some d ↔ o = some d ∧ d.id = id := by
  cases o with
  | none => simp
  | some x =>
    simp only [Option.toList_some, List.reverse_singleton, List.find?_singleton, beq_iff_eq]
    by_cases hx : x.id = id
    · rw [if_pos hx]
      exact ⟨fun h => ⟨h, Option.some.inj h ▸ hx⟩, And.left⟩
    · rw [if_neg hx]
      refine ⟨fun h => (by cases h), fun h => absurd ?_ hx⟩
      rw [Option.some.inj h.1]
      exact h.2

/-- **The last position wins.** Among documents loaded position by position, the one found
last for an id is the one of the last position that loads a document of that id. -/
theorem find?_reverse_loaded_eq_some :
    ∀ (L : List α) (k : Nat) (d : StoredDocument),
      ((L.zipIdx k).filterMap fun x => F x.1 x.2).reverse.find? (·.id == id) = some d ↔
        ∃ i a, L[i]? = some a ∧ F a (k + i) = some d ∧ d.id = id ∧
          ∀ j b d', i < j → L[j]? = some b → F b (k + j) = some d' → d'.id ≠ id
  | [], k, d => by simp
  | a :: L, k, d => by
    -- the positions of `L` are those of `a :: L` after the first
    have hshift : ∀ i, k + 1 + i = k + (i + 1) := fun i => by omega
    have ih := find?_reverse_loaded_eq_some L (k + 1)
    have hnone := find?_reverse_loaded_eq_none F id L (k + 1)
    simp only [hshift] at ih hnone
    have hlist : ((a :: L).zipIdx k).filterMap (fun x => F x.1 x.2) =
        (F a k).toList ++ (L.zipIdx (k + 1)).filterMap fun x => F x.1 x.2 := by
      rw [List.zipIdx_cons, List.filterMap_cons]
      cases F a k <;> rfl
    rw [hlist, List.reverse_append, List.find?_append]
    cases hR : ((L.zipIdx (k + 1)).filterMap fun x => F x.1 x.2).reverse.find? (·.id == id) with
    | some d₀ =>
      -- a later position has the id: it wins over the first
      obtain ⟨i₀, a₀, hi₀, hd₀, hid₀, hlast₀⟩ := (ih d₀).1 hR
      rw [Option.some_or, Option.some.injEq]
      constructor
      · rintro rfl
        refine ⟨i₀ + 1, a₀, hi₀, hd₀, hid₀, fun j b d' hj hb hd' => ?_⟩
        obtain ⟨j, rfl⟩ : ∃ j', j = j' + 1 := ⟨j - 1, by omega⟩
        exact hlast₀ j b d' (by omega) hb hd'
      · rintro ⟨i, b, hb, hd, hid, hlast⟩
        cases i with
        | zero => exact absurd hid₀ (hlast (i₀ + 1) a₀ d₀ (by omega) hi₀ hd₀)
        | succ i =>
          have hfound := (ih d).2 ⟨i, b, hb, hd, hid, fun j b' d' hj hb' hd' =>
            hlast (j + 1) b' d' (by omega) hb' hd'⟩
          rw [hR, Option.some.injEq] at hfound
          exact hfound
    | none =>
      -- no later position has the id: only the first can
      rw [Option.none_or]
      have hlater : ∀ j b d', 0 < j → (a :: L)[j]? = some b → F b (k + j) = some d' → d'.id ≠ id := by
        intro j b d' hj hb hd'
        obtain ⟨j, rfl⟩ : ∃ j', j = j' + 1 := ⟨j - 1, by omega⟩
        exact (hnone.1 hR) j b d' hb hd'
      rw [find?_toList_eq_some]
      constructor
      · rintro ⟨ha, hid⟩
        exact ⟨0, a, rfl, ha, hid, hlater⟩
      · rintro ⟨i, b, hb, hd, hid, -⟩
        cases i with
        | zero =>
          rw [List.getElem?_cons_zero, Option.some.injEq] at hb
          subst hb
          exact ⟨hd, hid⟩
        | succ i => exact absurd hid (hlater (i + 1) b d (by omega) hb hd)

end Positions

namespace Run

/-- A run followed by a change of state succeeds exactly when the run does. -/
theorem exists_ok_bind_modifySelf {σ : Type} (op : Run σ Unit) (f : σ → σ) {h : Host} {s : σ} :
    (∃ h' s', (op >>= fun _ => Run.modifySelf f).exec h s = (.ok (), h', s')) ↔
      ∃ h' s', op.exec h s = (.ok (), h', s') := by
  rw [exec_bind]
  rcases op.exec h s with ⟨_ | ⟨⟩, h₁, s₁⟩ <;> simp

end Run

/-! ## The data files of a dataset -/

namespace SnapshotBackend

/-- The files a dataset directory loads documents from: the `.json` files at any depth below
its `data` directory, in path order. -/
def dataFiles (t : FileTree) (dir : Path) : List Path :=
  if t.isDirectory (dir ++ [dataDirectoryName]) then jsonFiles t (dir ++ [dataDirectoryName]) else []

/-- The documents a dataset directory loads, in the order of its data files. -/
def loadedDocuments (t : FileTree) (dir : Path) : List StoredDocument :=
  (dataFiles t dir).zipIdx.filterMap fun x => snapshotDocument x.1 ((t.read? x.1).getD .empty) x.2

variable {t : FileTree} {dir : Path}

/-- **A dataset's data files**, in a well-keyed tree: below its `data` directory, at any
depth, every file of valid components whose name has the extension `json`. -/
theorem mem_dataFiles_iff (ht : t.WellKeyed) (hdir : dir.Valid) {p : Path} :
    p ∈ dataFiles t dir ↔ t.isDirectory (dir ++ [dataDirectoryName]) = true ∧
      ∃ q, p = dir ++ [dataDirectoryName] ++ q ∧ q ≠ [] ∧ q.Valid ∧ t.isFile p = true ∧
        q.getLast?.bind Path.extension? = some "json" := by
  have hdata : (dir ++ [dataDirectoryName]).Valid :=
    hdir.append_component ⟨by decide, by decide, by decide, by decide⟩
  unfold dataFiles
  split
  · next hd =>
    simp only [jsonFiles, List.mem_map, List.mem_filter, FileTree.mem_filesBelow_iff ht hdata, beq_iff_eq]
    constructor
    · rintro ⟨q, ⟨⟨hne, hq, hfile⟩, hext⟩, rfl⟩
      exact ⟨hd, q, rfl, hne, hq, hfile, hext⟩
    · rintro ⟨-, q, rfl, hne, hq, hfile, hext⟩
      exact ⟨q, ⟨⟨hne, hq, hfile⟩, hext⟩, rfl⟩
  · next hd =>
    simp [hd]

/-- A dataset's data files come in strictly increasing path order. -/
theorem pairwise_lt_dataFiles (ht : t.WellKeyed) (dir : Path) :
    (dataFiles t dir).Pairwise fun a b => Path.order a b = .lt := by
  unfold dataFiles jsonFiles
  split
  · rw [List.pairwise_map]
    refine ((FileTree.pairwise_lt_filesBelow ht _).filter _).imp fun hab => ?_
    rw [Path.order_append_left]
    exact hab
  · exact List.Pairwise.nil

/-- **The last file of each id wins.** Gathered by id, the documents a dataset directory loads
hold under an id the document of the last data file that loads one of that id. -/
theorem getElem?_ofStored_loaded (t : FileTree) (dir : Path) (id : String) (d : StoredDocument) :
    (MemoryDataset.ofStored (loadedDocuments t dir)).documents[id]? = some d ↔
      ∃ i p, (dataFiles t dir)[i]? = some p ∧ snapshotDocument p ((t.read? p).getD .empty) i = some d ∧
        d.id = id ∧ ∀ j p' d', i < j → (dataFiles t dir)[j]? = some p' →
          snapshotDocument p' ((t.read? p').getD .empty) j = some d' → d'.id ≠ id := by
  rw [MemoryDataset.ofStored, MemoryDataset.getElem?_foldl_insert, ExtTreeMap.getElem?_empty,
    Option.or_none, loadedDocuments]
  simpa using find?_reverse_loaded_eq_some (fun p i => snapshotDocument p ((t.read? p).getD .empty) i) id
    (dataFiles t dir) 0 d

/-! ## Loading a dataset -/

/-- What a dataset directory's `polydata.json` adds to the default configuration and
metadata: nothing without the file; else the fields of its object other than `_metadata`
and `_id`, and the fields of its `_metadata` object. -/
inductive Settings (t : FileTree) (dir : Path) : Json.Fields → Json.Fields → Prop
  | absent : t.read? (dir ++ [datasetFileName]) = none → Settings t dir [] []
  | given {bytes : ByteArray} {fs : Json.Fields} : t.read? (dir ++ [datasetFileName]) = some bytes →
      Json.parseBytes bytes = .ok (.object fs) →
      Settings t dir (Json.Fields.erase (Json.Fields.erase fs fileMetadataKey) "_id") (metadataObject fs)

/-- The record of a dataset loaded at `now`: the default configuration extended by `config`,
the default metadata by `metadata`. -/
def settingsRecord (now : Int) (config metadata : Json.Fields) : DatasetRecord :=
  ⟨{ defaultConfig with data := Json.Fields.extend defaultConfig.data config },
    { defaultMetadata now with data := Json.Fields.extend (defaultMetadata now).data metadata }⟩

/-- **Loading one dataset directory**, when it succeeds, reads the clock once and restores the
dataset with the defaults its `polydata.json` extends and the documents its data files load. -/
theorem exec_loadDataset_eq_ok {dir : Path} {name : String} {h h' : Host} {s s' : SnapshotBackend}
    (hrun : (loadDataset dir name).exec h s = (.ok (), h', s')) :
    h' = { h with clock := h.clock + 1 } ∧ ∃ config metadata, Settings h.files dir config metadata ∧
      s' = { s with inner := ((MemoryBackend.restore name (settingsRecord h.clock config metadata)
        (loadedDocuments h.files dir)).exec h' s.inner).2.2 } := by
  simp only [loadDataset, Run.exec_bind, Run.exec_now, Run.exec_files] at hrun
  cases hread : h.files.read? (dir ++ [datasetFileName]) with
  | none =>
    simp only [hread, Run.exec_bind, Run.exec_pure, exec_onInner, MemoryBackend.exec_restore,
      Prod.mk.injEq] at hrun
    obtain ⟨-, rfl, rfl⟩ := hrun
    exact ⟨rfl, [], [], .absent hread, rfl⟩
  | some bytes =>
    cases hflat : readFlatFile (dir ++ [datasetFileName]) bytes configId with
    | error e =>
      simp [hread, hflat] at hrun
    | ok r =>
      obtain ⟨doc, md⟩ := r
      obtain ⟨fs, hparse, -, hdata, -, hmd⟩ := readFlatFile_eq_ok hflat
      simp only [hread, hflat, Run.exec_bind, Run.exec_ofOutcome, Run.exec_pure, exec_onInner,
        MemoryBackend.exec_restore, Prod.mk.injEq] at hrun
      obtain ⟨-, rfl, rfl⟩ := hrun
      refine ⟨rfl, _, _, .given hread hparse, ?_⟩
      rw [← hdata, metadataObject, ← hmd]
      rfl

/-- **Loading dataset directories one after the other**, when every load succeeds: each named
directory's dataset is restored from the documents its data files load, with the defaults its
`polydata.json` extends; every other dataset stays as it was, and so do the files. -/
theorem exec_forM_loadDataset_eq_ok (root : Path) :
    ∀ (names : List String) {h h' : Host} {s s' : SnapshotBackend},
      (names.forM fun n => loadDataset (root ++ [n]) n).exec h s = (.ok (), h', s') →
        h'.files = h.files ∧ s'.root = s.root ∧ s'.loaded = s.loaded ∧
        (∀ n, s'.inner.datasets[n]? =
          if n ∈ names then some (MemoryDataset.ofStored (loadedDocuments h.files (root ++ [n])))
          else s.inner.datasets[n]?) ∧
        ∀ n, (n ∈ names → ∃ now config metadata, Settings h.files (root ++ [n]) config metadata ∧
            s'.inner.registry.get? n = some (settingsRecord now config metadata)) ∧
          (n ∉ names → s'.inner.registry.get? n = s.inner.registry.get? n)
  | [], h, h', s, s', hrun => by
    change (pure () : Run SnapshotBackend Unit).exec h s = _ at hrun
    simp only [Run.exec_pure, Prod.mk.injEq] at hrun
    obtain ⟨-, rfl, rfl⟩ := hrun
    simp
  | n :: names, h, h', s, s', hrun => by
    -- the first directory, then the others from the state it leaves
    change (loadDataset (root ++ [n]) n >>= fun _ => names.forM fun n => loadDataset (root ++ [n]) n).exec h s
      = _ at hrun
    rw [Run.exec_bind] at hrun
    rcases hfirst : (loadDataset (root ++ [n]) n).exec h s with ⟨_ | _, h₁, s₁⟩
    · rw [hfirst] at hrun
      cases hrun
    · rw [hfirst] at hrun
      obtain ⟨rfl, config, metadata, hset, rfl⟩ := exec_loadDataset_eq_ok hfirst
      obtain ⟨hfiles, hroot, hloaded, hdata, hreg⟩ := exec_forM_loadDataset_eq_ok root names hrun
      refine ⟨hfiles, hroot, hloaded, fun m => ?_, fun m => ⟨fun hm => ?_, fun hm => ?_⟩⟩
      · rw [hdata m]
        by_cases hmn : m ∈ names
        · simp [hmn]
        · by_cases heq : m = n
          · subst heq
            simp [hmn]
          · simp [hmn, heq, ExtTreeMap.getElem?_insert_of_ne (Ne.symm heq)]
      · by_cases hmn : m ∈ names
        · exact (hreg m).1 hmn
        · obtain rfl : m = n := by simpa [hmn] using hm
          refine ⟨h.clock, config, metadata, hset, ?_⟩
          rw [(hreg m).2 hmn]
          simp [Registry.get?, Registry.restore]
      · rw [(hreg m).2 (fun h' => hm (List.mem_cons_of_mem _ h'))]
        have hne : n ≠ m := fun heq => hm (heq ▸ List.mem_cons_self)
        simp [Registry.get?, Registry.restore, ExtTreeMap.getElem?_insert_of_ne hne]

/-- A dataset directory whose `polydata.json`, if it has one, is a JSON object. -/
def SettingsReadable (t : FileTree) (dir : Path) : Prop :=
  ∀ bytes, t.read? (dir ++ [datasetFileName]) = some bytes → ∃ fs, Json.parseBytes bytes = .ok (.object fs)

theorem Settings.readable {t : FileTree} {dir : Path} {config metadata : Json.Fields}
    (hs : Settings t dir config metadata) : SettingsReadable t dir := by
  intro bytes hread
  cases hs with
  | absent hnone => simp [hnone] at hread
  | given hsome hparse =>
    rw [hsome, Option.some.injEq] at hread
    exact ⟨_, hread ▸ hparse⟩

/-- **Loading one dataset directory succeeds** exactly when its `polydata.json`, if any, is a
JSON object: no data file can make it fail. -/
theorem loadDataset_succeeds_iff {dir : Path} {name : String} {h : Host} {s : SnapshotBackend} :
    (∃ h' s', (loadDataset dir name).exec h s = (.ok (), h', s')) ↔ SettingsReadable h.files dir := by
  constructor
  · rintro ⟨h', s', hrun⟩
    obtain ⟨-, config, metadata, hset, -⟩ := exec_loadDataset_eq_ok hrun
    exact hset.readable
  · intro hread
    simp only [loadDataset, Run.exec_bind, Run.exec_now, Run.exec_files]
    cases hfile : h.files.read? (dir ++ [datasetFileName]) with
    | none => simp [exec_onInner]
    | some bytes =>
      obtain ⟨fs, hparse⟩ := hread bytes hfile
      obtain ⟨r, hflat⟩ := @exists_readFlatFile_eq_ok (dir ++ [datasetFileName]) bytes configId fs hparse
      simp [hflat, exec_onInner]

/-- Loading dataset directories one after the other succeeds exactly when each one's
`polydata.json`, if any, is a JSON object. -/
theorem forM_loadDataset_succeeds_iff (root : Path) :
    ∀ (names : List String) {h : Host} {s : SnapshotBackend},
      (∃ h' s', (names.forM fun n => loadDataset (root ++ [n]) n).exec h s = (.ok (), h', s')) ↔
        ∀ n ∈ names, SettingsReadable h.files (root ++ [n])
  | [], h, s => by
    change (∃ h' s', (pure () : Run SnapshotBackend Unit).exec h s = (.ok (), h', s')) ↔ _
    simp
  | n :: names, h, s => by
    change (∃ h' s', (loadDataset (root ++ [n]) n >>= fun _ =>
      names.forM fun n => loadDataset (root ++ [n]) n).exec h s = (.ok (), h', s')) ↔ _
    rw [List.forall_mem_cons, ← loadDataset_succeeds_iff, Run.exec_bind]
    rcases hfirst : (loadDataset (root ++ [n]) n).exec h s with ⟨_ | _, h₁, s₁⟩
    · simp
    · -- the first load only reads the clock, so the others see the same files
      obtain ⟨rfl, -⟩ := exec_loadDataset_eq_ok hfirst
      simp only [forM_loadDataset_succeeds_iff root names]
      simp

/-! ## Opening -/

/-- A valid dataset name is a plain path component. -/
theorem validComponent_of_validateName {name : String} (h : validateName name = .ok ()) :
    Path.ValidComponent name := by
  refine ⟨?_, ?_, ?_, slashless_of_validateName h⟩
  · rintro rfl
    simp [validateName, Text.isBlankText] at h
  · rintro rfl
    simp [validateName] at h
  · rintro rfl
    simp [validateName] at h

theorem valid_append_of_validateName {root : Path} (hroot : root.Valid) {name : String}
    (h : validateName name = .ok ()) : (root ++ [name]).Valid :=
  hroot.append_component (validComponent_of_validateName h)

/-- The names opening loads: the directories under the root with a valid dataset name. -/
theorem mem_datasetNames_iff {t : FileTree} {root : Path} (hroot : root.Valid) {name : String} :
    name ∈ (t.children root).filter (fun n => t.isDirectory (root ++ [n]) && (validateName n).toBool) ↔
      t.isDirectory (root ++ [name]) = true ∧ validateName name = .ok () := by
  have hvalid : validateName name = .ok () ↔ (validateName name).toBool = true := by
    cases validateName name <;> simp [Except.toBool]
  rw [List.mem_filter, Bool.and_eq_true, ← hvalid]
  constructor
  · exact fun h => h.2
  · rintro ⟨hdir, hname⟩
    refine ⟨FileTree.mem_children_iff.2 ⟨(root ++ [name]).text, ?_, ?_⟩, hdir, hname⟩
    · -- a directory stands under the path's text
      have hne : root ++ [name] ≠ [] := by simp
      rw [FileTree.isDirectory, FileTree.lookup_of_ne_nil hne] at hdir
      rw [ExtTreeMap.mem_iff_isSome_getElem?]
      revert hdir
      cases (t.entries[(root ++ [name]).text]?) <;> simp
    · exact Path.ofText_text (valid_append_of_validateName hroot hname)

/-- **Opening**, from a backend not loaded yet, when it succeeds: the directories under the
root with a valid dataset name are loaded one after the other, and the backend is marked
loaded. -/
theorem exec_openStore_eq_ok {h h' : Host} {s s' : SnapshotBackend} (hfresh : s.loaded = false)
    (hrun : openStore.exec h s = (.ok (), h', s')) :
    ∃ s₁, (((h.files.children s.root).filter fun n =>
        h.files.isDirectory (s.root ++ [n]) && (validateName n).toBool).forM
          fun n => loadDataset (s.root ++ [n]) n).exec h s = (.ok (), h', s₁) ∧
      s' = { s₁ with loaded := true } := by
  simp only [openStore, Run.exec_bind, Run.exec_self, hfresh, Bool.false_eq_true, if_false, Run.exec_files] at hrun
  split at hrun
  · simp at hrun
  · rw [Run.exec_bind] at hrun
    rcases hload : ((List.filter (fun n => h.files.isDirectory (s.root ++ [n]) && (validateName n).toBool)
        (h.files.children s.root)).forM fun n => loadDataset (s.root ++ [n]) n).exec h s with ⟨_ | _, h₁, s₁⟩
    · rw [hload] at hrun
      cases hrun
    · rw [hload] at hrun
      simp only [Run.exec_modifySelf, Prod.mk.injEq] at hrun
      obtain ⟨-, rfl, rfl⟩ := hrun
      exact ⟨s₁, rfl, rfl⟩

/-- **Opening succeeds**, from a backend not loaded yet, exactly when the root is a directory
and the `polydata.json` of every directory under it with a valid dataset name, if it has one,
is a JSON object: no data file can make it fail. -/
theorem openStore_succeeds_iff {h : Host} {s : SnapshotBackend} (hfresh : s.loaded = false)
    (hroot : s.root.Valid) :
    (∃ h' s', openStore.exec h s = (.ok (), h', s')) ↔ h.files.isDirectory s.root = true ∧
      ∀ name, h.files.isDirectory (s.root ++ [name]) = true → validateName name = .ok () →
        SettingsReadable h.files (s.root ++ [name]) := by
  simp only [openStore, Run.exec_bind, Run.exec_self, hfresh, Bool.false_eq_true, if_false, Run.exec_files]
  split
  · next hnot =>
    simp only [Bool.not_eq_eq_eq_not, Bool.not_true] at hnot
    simp [hnot]
  · next hdir =>
    rw [Run.exists_ok_bind_modifySelf, forM_loadDataset_succeeds_iff]
    refine ⟨fun hall => ⟨by simpa using hdir,
      fun name hd hv => hall name ((mem_datasetNames_iff hroot).2 ⟨hd, hv⟩)⟩, fun hall name hn => ?_⟩
    obtain ⟨hd, hv⟩ := (mem_datasetNames_iff hroot).1 hn
    exact hall.2 name hd hv

/-- **Opening a snapshot.** Opening a well-keyed directory tree, from nothing loaded, succeeds
exactly when the root is a directory and every dataset directory's `polydata.json`, if any, is a
JSON object; a data file never makes it fail. A data file loads as a document exactly when its
text is a JSON object, as `LoadedFrom` says, and is skipped otherwise. Once opened, the backend
holds one dataset for each directory under the root whose name is a valid dataset name, and no
other. For each dataset:
* its configuration and metadata are the defaults extended by its `polydata.json`;
* its data files are its `.json` files at any depth below `data`, in strictly increasing path
  order, and under each id it holds the document of the last data file that loads one of that
  id;
* its index is coherent with its documents, and the pages of every PAGES query list the
  documents filed under the query's tag, each once, most recent first and then the later data
  file first, as many as the count says. -/
theorem open_loads_snapshot {root : Path} {lockId : Nat} {planner : Planner} {h : Host}
    (hkeys : h.files.WellKeyed) (hroot : root.Valid) :
    ((∃ h' s, openStore.exec h ⟨root, MemoryBackend.new lockId planner none, false⟩ = (.ok (), h', s)) ↔
      h.files.isDirectory root = true ∧ ∀ name, h.files.isDirectory (root ++ [name]) = true →
        validateName name = .ok () → SettingsReadable h.files (root ++ [name])) ∧
    (∀ p bytes i, (snapshotDocument p bytes i).isSome ↔ ∃ fs, Json.parseBytes bytes = .ok (.object fs)) ∧
    (∀ p bytes i d, snapshotDocument p bytes i = some d →
      ∃ fs, Json.parseBytes bytes = .ok (.object fs) ∧ LoadedFrom d p fs i) ∧
    ∀ h' s, openStore.exec h ⟨root, MemoryBackend.new lockId planner none, false⟩ = (.ok (), h', s) →
    s.loaded = true ∧
    (∀ name, (s.inner.datasets[name]?).isSome ↔
      h.files.isDirectory (root ++ [name]) = true ∧ validateName name = .ok ()) ∧
    ∀ name ds, s.inner.datasets[name]? = some ds →
      (∃ now config metadata, Settings h.files (root ++ [name]) config metadata ∧
        s.inner.registry.get? name = some (settingsRecord now config metadata)) ∧
      (∀ p, p ∈ dataFiles h.files (root ++ [name]) ↔
        h.files.isDirectory (root ++ [name] ++ [dataDirectoryName]) = true ∧
          ∃ q, p = root ++ [name] ++ [dataDirectoryName] ++ q ∧ q ≠ [] ∧ q.Valid ∧
            h.files.isFile p = true ∧ q.getLast?.bind Path.extension? = some "json") ∧
      (dataFiles h.files (root ++ [name])).Pairwise (fun a b => Path.order a b = .lt) ∧
      (∀ id d, ds.documents[id]? = some d ↔
        ∃ i p, (dataFiles h.files (root ++ [name]))[i]? = some p ∧
          snapshotDocument p ((h.files.read? p).getD .empty) i = some d ∧ d.id = id ∧
          ∀ j p' d', i < j → (dataFiles h.files (root ++ [name]))[j]? = some p' →
            snapshotDocument p' ((h.files.read? p').getD .empty) j = some d' → d'.id ≠ id) ∧
      ds.Coherent ∧
      (ds.documents.size < 2 ^ 63 → ∀ spec : QuerySpec, spec.kind = .pages → ∀ h₂ : Host,
        ∃ c, s.inner.registry.config? name = some c ∧
          ∀ size, s.inner.planner.pageSize c spec = .ok size → 0 < size →
            PagesOf (fun p => ((onInner (MemoryBackend.query name { spec with page := p })).exec h₂ s).1)
              ((onInner (MemoryBackend.count name spec)).exec h₂ s).1 size ds.documents.values
              spec.resolvedTag) := by
  refine ⟨openStore_succeeds_iff rfl hroot, fun _ _ _ => snapshotDocument_isSome_iff,
    fun _ _ _ _ => loadedFrom_of_snapshotDocument, fun h' s hopen => ?_⟩
  obtain ⟨s₁, hload, rfl⟩ := exec_openStore_eq_ok rfl hopen
  obtain ⟨-, -, -, hdata, hreg⟩ := exec_forM_loadDataset_eq_ok root _ hload
  have hreach : s₁.inner.Reachable := by
    have := keeps_openStore h ⟨root, MemoryBackend.new lockId planner none, false⟩
      (MemoryBackend.Reachable.new lockId planner none)
    rwa [hopen] at this
  -- a dataset is there exactly when its directory was loaded, as the backend held none before
  have hds : ∀ name ds, s₁.inner.datasets[name]? = some ds →
      (h.files.isDirectory (root ++ [name]) = true ∧ validateName name = .ok ()) ∧
        ds = MemoryDataset.ofStored (loadedDocuments h.files (root ++ [name])) := by
    intro name ds hget
    rw [hdata name] at hget
    split at hget
    · next hn => exact ⟨(mem_datasetNames_iff hroot).1 hn, (Option.some.inj hget).symm⟩
    · simp [MemoryBackend.datasets_new] at hget
  refine ⟨rfl, fun name => ⟨fun hsome => ?_, fun hname => ?_⟩, fun name ds hget => ?_⟩
  · obtain ⟨ds, hget⟩ := Option.isSome_iff_exists.1 hsome
    exact (hds name ds hget).1
  · rw [hdata name, if_pos ((mem_datasetNames_iff hroot).2 hname)]
    rfl
  obtain ⟨hname, rfl⟩ := hds name ds hget
  refine ⟨(hreg name).1 ((mem_datasetNames_iff hroot).2 hname), fun p => ?_, pairwise_lt_dataFiles hkeys _,
    getElem?_ofStored_loaded h.files _, MemoryDataset.coherent_ofStored _, fun hsize spec hpages h₂ => ?_⟩
  · rw [mem_dataFiles_iff hkeys (valid_append_of_validateName hroot hname.2)]
  · obtain ⟨c, hc, hwalk⟩ := MemoryBackend.pagesOf_query hreach hget hsize hpages h₂
    exact ⟨c, hc, fun size hsize' hpos => (hwalk size hsize' hpos).1⟩


/-- A tree with one dataset directory, `shop`, whose `data` directory holds one document file. -/
def shopTree : FileTree :=
  ⟨((∅ : ExtTreeMap String Entry compare).insert (Path.text ["shop"]) .directory
    |>.insert (Path.text ["shop", dataDirectoryName]) .directory
    |>.insert (Path.text ["shop", dataDirectoryName, "a.json"]) (.file "\x7b\x7d".toUTF8))⟩

/-- The tree `shopTree`, written one entry at a time, is well keyed, and opening it at the top
directory is described by `open_loads_snapshot`. -/
theorem open_loads_snapshot_of_shop :
    shopTree.WellKeyed ∧ Path.Valid [] ∧
    ((∃ h' s, openStore.exec { clock := 0, files := shopTree }
        ⟨[], MemoryBackend.new 0 (Planner.new 10) none, false⟩ = (.ok (), h', s)) ↔
      shopTree.isDirectory [] = true ∧ ∀ name, shopTree.isDirectory ([] ++ [name]) = true →
        validateName name = .ok () → SettingsReadable shopTree ([] ++ [name])) ∧
    (∀ p bytes i, (snapshotDocument p bytes i).isSome ↔ ∃ fs, Json.parseBytes bytes = .ok (.object fs)) ∧
    (∀ p bytes i d, snapshotDocument p bytes i = some d →
      ∃ fs, Json.parseBytes bytes = .ok (.object fs) ∧ LoadedFrom d p fs i) ∧
    ∀ h' s, openStore.exec { clock := 0, files := shopTree }
        ⟨[], MemoryBackend.new 0 (Planner.new 10) none, false⟩ = (.ok (), h', s) →
    s.loaded = true ∧
    (∀ name, (s.inner.datasets[name]?).isSome ↔
      shopTree.isDirectory ([] ++ [name]) = true ∧ validateName name = .ok ()) ∧
    ∀ name ds, s.inner.datasets[name]? = some ds →
      (∃ now config metadata, Settings shopTree ([] ++ [name]) config metadata ∧
        s.inner.registry.get? name = some (settingsRecord now config metadata)) ∧
      (∀ p, p ∈ dataFiles shopTree ([] ++ [name]) ↔
        shopTree.isDirectory ([] ++ [name] ++ [dataDirectoryName]) = true ∧
          ∃ q : Path, p = [] ++ [name] ++ [dataDirectoryName] ++ q ∧ q ≠ [] ∧ q.Valid ∧
            shopTree.isFile p = true ∧ q.getLast?.bind Path.extension? = some "json") ∧
      (dataFiles shopTree ([] ++ [name])).Pairwise (fun a b => Path.order a b = .lt) ∧
      (∀ id d, ds.documents[id]? = some d ↔
        ∃ i p, (dataFiles shopTree ([] ++ [name]))[i]? = some p ∧
          snapshotDocument p ((shopTree.read? p).getD .empty) i = some d ∧ d.id = id ∧
          ∀ j p' d', i < j → (dataFiles shopTree ([] ++ [name]))[j]? = some p' →
            snapshotDocument p' ((shopTree.read? p').getD .empty) j = some d' → d'.id ≠ id) ∧
      ds.Coherent ∧
      (ds.documents.size < 2 ^ 63 → ∀ spec : QuerySpec, spec.kind = .pages → ∀ h₂ : Host,
        ∃ c, s.inner.registry.config? name = some c ∧
          ∀ size, s.inner.planner.pageSize c spec = .ok size → 0 < size →
            PagesOf (fun p => ((onInner (MemoryBackend.query name { spec with page := p })).exec h₂ s).1)
              ((onInner (MemoryBackend.count name spec)).exec h₂ s).1 size ds.documents.values
              spec.resolvedTag) := by
  have hvalid : Path.Valid ["shop", dataDirectoryName, "a.json"] := by
    intro c hc
    simp only [List.mem_cons, List.not_mem_nil, or_false] at hc
    rcases hc with rfl | rfl | rfl <;> exact ⟨by decide, by decide, by decide, by decide⟩
  have hkeys : shopTree.WellKeyed :=
    ((FileTree.wellKeyed_empty.insert
      (fun c hc => hvalid c ((List.prefix_append ["shop"] [dataDirectoryName, "a.json"]).subset hc)) _).insert
      (fun c hc => hvalid c ((List.prefix_append ["shop", dataDirectoryName] ["a.json"]).subset hc)) _).insert
      hvalid _
  have hroot : Path.Valid [] := fun _ hc => absurd hc List.not_mem_nil
  exact ⟨hkeys, hroot, open_loads_snapshot hkeys hroot⟩

end SnapshotBackend

end TagStore
