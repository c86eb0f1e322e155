import TagStore.Proofs.Index.Consistent
/-!
# Proofs.Index.Incremental

Incremental maintenance of a tag index agrees with a full rebuild. An index is driven by
five operations: filing one entry or a batch, dropping one id or a batch, and a rebuild
from a list of entries. Beside the index runs a reference that keeps only the list of
*live* entries:

* filing `e` removes the entries of `e.id` and appends `e`;
* dropping an id removes its entries;
* a rebuild from `es` makes `es` the live list (repeated ids included: the build lets the
  last one win).

The index *tracks* a live list when its state is consistent, it has never clamped, and its
documents map is `documentsOf` the live list. Each operation moves both sides so that
tracking is kept (`Op.tracks_apply`), so after any run from the empty index the state is
the build of the live entries (`run_state_eq_build`) with all the consequences of
consistency: counts are the sizes of nonempty memberships, the members of a tag are the
keys of the documents filed under it, `verify` finds nothing, and rebuilding over the live
entries reports no drift and no changed count.
-/

namespace TagStore

open Std

namespace TagIndex

/-! ## Operations and the live entries -/

/-- An operation on a tag index. -/
inductive Op where
  | insert (e : IndexEntry)
  | insertBatch (es : List IndexEntry)
  | remove (id : String)
  | removeBatch (ids : List String)
  | recalculate (es : List IndexEntry)

/-- The index after an operation. -/
def Op.apply : Op → TagIndex → TagIndex
  | .insert e, t => t.insert e
  | .insertBatch es, t => t.insertBatch es
  | .remove id, t => (t.remove id).1
  | .removeBatch ids, t => (t.removeBatch ids).1
  | .recalculate es, t => (t.recalculate es).1

/-- The index after a sequence of operations. -/
def run (t : TagIndex) (ops : List Op) : TagIndex := ops.foldl (fun t op => op.apply t) t

/-- The live entries after filing `e`: those of other ids, then `e`. -/
def fileLive (live : List IndexEntry) (e : IndexEntry) : List IndexEntry :=
  live.filter (·.id != e.id) ++ [e]

/-- The live entries after dropping an id. -/
def dropLive (live : List IndexEntry) (id : String) : List IndexEntry := live.filter (·.id != id)

/-- The live entries after an operation: the last entry filed for each id not dropped
since, or the entries of the last rebuild. -/
def Op.live : Op → List IndexEntry → List IndexEntry
  | .insert e, live => fileLive live e
  | .insertBatch es, live => es.foldl fileLive live
  | .remove id, live => dropLive live id
  | .removeBatch ids, live => ids.foldl dropLive live
  | .recalculate es, _ => es

/-- The live entries after a sequence of operations from the empty index. -/
def liveAfter (ops : List Op) : List IndexEntry := ops.foldl (fun live op => op.live live) []

/-! ## The documents map of the live entries -/

/-- Keeping the entries of some ids keeps those ids of the documents map. -/
theorem documentsOf_filter (live : List IndexEntry) (p : String → Bool) :
    IndexState.documentsOf (live.filter fun e => p e.id) =
      (IndexState.documentsOf live).filter fun id _ => p id := by
  -- generalise the starting map of both folds
  suffices h : ∀ m : ExtTreeMap String (MemberKey × TagSet) compare,
      (live.filter fun e => p e.id).foldl (fun m e => m.insert e.id (e.key, e.tags))
        (m.filter fun id _ => p id) =
      (live.foldl (fun m e => m.insert e.id (e.key, e.tags)) m).filter fun id _ => p id by
    have hempty : ((∅ : ExtTreeMap String (MemberKey × TagSet) compare).filter fun id _ => p id) = ∅ := by
      ext k : 1
      simp
    have h0 := h ∅
    rwa [hempty] at h0
  induction live with
  | nil => intro m; rfl
  | cons e live ih =>
    intro m
    rw [List.foldl_cons, ← ih]
    by_cases he : p e.id
    · rw [List.filter_cons, if_pos he, List.foldl_cons]
      congr 1
      ext k : 1
      simp only [ExtTreeMap.getElem?_insert, ExtTreeMap.getElem?_filter',
        LawfulEqCmp.compare_eq_iff_eq]
      split <;> simp_all [Option.filter_some]
    · rw [List.filter_cons, if_neg he]
      congr 1
      ext k : 1
      simp only [ExtTreeMap.getElem?_insert, ExtTreeMap.getElem?_filter',
        LawfulEqCmp.compare_eq_iff_eq]
      split
      · next hk =>
        subst hk
        simp [he]
      · rfl

theorem documentsOf_dropLive (live : List IndexEntry) (id : String) :
    IndexState.documentsOf (dropLive live id) = (IndexState.documentsOf live).erase id := by
  rw [dropLive, documentsOf_filter (p := fun k => k != id)]
  ext k : 1
  simp only [ExtTreeMap.getElem?_filter', ExtTreeMap.getElem?_erase, LawfulEqCmp.compare_eq_iff_eq]
  split
  · next hk =>
    subst hk
    simp
  · next hk =>
    cases (IndexState.documentsOf live)[k]? <;> simp [Ne.symm hk]

theorem documentsOf_fileLive (live : List IndexEntry) (e : IndexEntry) :
    IndexState.documentsOf (fileLive live e) =
      (IndexState.documentsOf live).insert e.id (e.key, e.tags) := by
  have happend : IndexState.documentsOf (dropLive live e.id ++ [e]) =
      (IndexState.documentsOf (dropLive live e.id)).insert e.id (e.key, e.tags) := by
    simp [IndexState.documentsOf, List.foldl_append]
  rw [fileLive, ← dropLive, happend, documentsOf_dropLive]
  ext k : 1
  simp only [ExtTreeMap.getElem?_insert, ExtTreeMap.getElem?_erase, LawfulEqCmp.compare_eq_iff_eq]
  split <;> simp_all

/-! ## The operations, one field at a time -/

theorem insert_eq (t : TagIndex) (e : IndexEntry) :
    t.insert e = ⟨(t.state.upsert e).1, t.inconsistencies + (t.state.upsert e).2⟩ := rfl

theorem remove_fst (t : TagIndex) (id : String) :
    (t.remove id).1 = ⟨(t.state.dropDocument id).1, t.inconsistencies + (t.state.dropDocument id).2.2⟩ :=
  rfl

/-- A fold over pairs whose first component never reads the second folds the first
alone. -/
theorem foldl_fst {α β γ : Type} {f : α × β → γ → α × β} {g : α → γ → α}
    (hf : ∀ p c, (f p c).1 = g p.1 c) : ∀ (l : List γ) (p : α × β), (l.foldl f p).1 = l.foldl g p.1
  | [], _ => rfl
  | c :: l, p => by rw [List.foldl_cons, List.foldl_cons, foldl_fst hf l, hf]

/-- A batch removal is the removals one by one; the count of known ids is beside it. -/
theorem removeBatch_fst (t : TagIndex) (ids : List String) :
    (t.removeBatch ids).1 = ids.foldl (fun t id => (t.remove id).1) t :=
  foldl_fst (fun _ _ => rfl) ids (t, 0)

theorem recalculate_fst (t : TagIndex) (es : List IndexEntry) :
    (t.recalculate es).1 = ⟨IndexState.build es, t.inconsistencies⟩ := rfl

/-! ## Tracking the live entries -/

/-- The index tracks a live list: its state is consistent, it has never clamped, and its
documents are those of the live list. -/
structure Tracks (t : TagIndex) (live : List IndexEntry) : Prop where
  consistent : t.state.Consistent
  clean : t.inconsistencies = 0
  documents_eq : t.state.documents = IndexState.documentsOf live

theorem tracks_empty : Tracks {} [] := ⟨IndexState.consistent_empty, rfl, rfl⟩

theorem Tracks.insert {t : TagIndex} {live : List IndexEntry} (h : Tracks t live) (e : IndexEntry) :
    Tracks (t.insert e) (fileLive live e) := by
  rw [insert_eq]
  refine ⟨IndexState.upsert_consistent h.consistent e, ?_, ?_⟩
  · rw [IndexState.upsert_snd h.consistent, h.clean]
  · rw [IndexState.upsert_documents h.consistent, h.documents_eq, documentsOf_fileLive]

theorem Tracks.insertBatch {t : TagIndex} {live : List IndexEntry} (h : Tracks t live)
    (es : List IndexEntry) : Tracks (t.insertBatch es) (es.foldl fileLive live) := by
  induction es generalizing t live with
  | nil => exact h
  | cons e es ih => exact ih (h.insert e)

theorem Tracks.remove {t : TagIndex} {live : List IndexEntry} (h : Tracks t live) (id : String) :
    Tracks (t.remove id).1 (dropLive live id) := by
  rw [remove_fst]
  refine ⟨IndexState.dropDocument_consistent h.consistent id, ?_, ?_⟩
  · rw [IndexState.dropDocument_snd h.consistent, h.clean]
    rfl
  · rw [IndexState.dropDocument_documents h.consistent, h.documents_eq, documentsOf_dropLive]

theorem Tracks.removeBatch {t : TagIndex} {live : List IndexEntry} (h : Tracks t live)
    (ids : List String) : Tracks (t.removeBatch ids).1 (ids.foldl dropLive live) := by
  rw [removeBatch_fst]
  induction ids generalizing t live with
  | nil => exact h
  | cons id ids ih => exact ih (h.remove id)

/-- A rebuild tracks its own entries, whatever the index held before, and keeps the
clamp count. -/
theorem tracks_recalculate {t : TagIndex} (hclean : t.inconsistencies = 0) (es : List IndexEntry) :
    Tracks (t.recalculate es).1 es := by
  rw [recalculate_fst]
  exact ⟨(IndexState.build_consistent es).1, hclean, (IndexState.build_consistent es).2⟩

/-- **One step.** Every operation keeps the index tracking the live entries. -/
theorem Op.tracks_apply {t : TagIndex} {live : List IndexEntry} (h : Tracks t live) :
    ∀ op : Op, Tracks (op.apply t) (op.live live)
  | .insert e => h.insert e
  | .insertBatch es => h.insertBatch es
  | .remove id => h.remove id
  | .removeBatch ids => h.removeBatch ids
  | .recalculate es => tracks_recalculate h.clean es

/-- **A run.** Every sequence of operations keeps the index tracking the live entries. -/
theorem tracks_run {t : TagIndex} {live : List IndexEntry} (h : Tracks t live) (ops : List Op) :
    Tracks (run t ops) (ops.foldl (fun live op => op.live live) live) := by
  induction ops generalizing t live with
  | nil => exact h
  | cons op ops ih => exact ih (Op.tracks_apply h op)

/-- An index that tracks a live list is the build of it. -/
theorem Tracks.state_eq_build {t : TagIndex} {live : List IndexEntry} (h : Tracks t live) :
    t.state = IndexState.build live :=
  h.consistent.ext (IndexState.build_consistent live).1
    (h.documents_eq.trans (IndexState.build_consistent live).2.symm)

theorem mem_memberKeys (t : TagIndex) (tag : String) (k : MemberKey) :
    k ∈ t.memberKeys tag ↔ k ∈ t.state.memberSet tag := by
  unfold memberKeys IndexState.memberSet
  rw [ExtTreeMap.get?_eq_getElem?]
  cases t.state.tags[tag]? <;> simp

/-- **Incremental maintenance agrees with a full rebuild.** After any sequence of
operations from the empty index, the state is the build of the live entries; no decrement
was ever clamped; every present tag counts its nonempty membership; a tag's members are the
keys of the documents filed under it; `verify` finds nothing; and a rebuild over the live
entries reports no drifted tag and no changed count. -/
theorem run_state_eq_build (ops : List Op) :
    let t := run {} ops
    let live := liveAfter ops
    t.state = IndexState.build live ∧ t.inconsistencies = 0 ∧ t.verify = [] ∧
      (∀ (tag : String) (e : TagEntry), t.state.tags[tag]? = some e →
        e.count = e.members.size ∧ 0 < e.count) ∧
      (∀ (tag : String) (k : MemberKey), k ∈ t.memberKeys tag ↔
        ∃ (id : String) (tags : TagSet), t.state.documents[id]? = some (k, tags) ∧ tag ∈ tags) ∧
      (t.recalculate live).2.inconsistent = [] ∧ (t.recalculate live).2.changed = 0 := by
  intro t live
  have h : Tracks t live := tracks_run tracks_empty ops
  have hs := h.consistent
  refine ⟨h.state_eq_build, h.clean, hs.inconsistentTags_eq_nil, ?_, ?_, hs.inconsistentTags_eq_nil, ?_⟩
  · intro tag e he
    exact ⟨hs.count_eq tag e he, hs.count_pos he⟩
  · intro tag k
    rw [mem_memberKeys, hs.mem_iff, hs.filed_iff]
  · show IndexState.changedTags t.state (IndexState.build live) = 0
    rw [← h.state_eq_build, IndexState.changedTags_self]

end TagIndex

end TagStore
