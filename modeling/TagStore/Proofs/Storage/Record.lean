import TagStore.Storage.Record
/-!
# Proofs.Storage.Record

A stored document written out as a document and read back is the same stored document
(`StoredDocument.ofDocument_toDocument`): the tags come back from `_indexes`, the write time
from `_update_date` and the sequence number from `_seq`, and stripping those three keys gives
back the caller's part, which never held them since a stored document is made stripped.

The facts it rests on are about objects as sorted field lists: putting a key and reading it
back, putting a key and reading another, and putting a key that a filter drops.
-/

namespace TagStore

open Std

namespace Json.Fields

theorem get?_insert_self (fs : Fields) (k : String) (v : Json) : (fs.insert k v).get? k = some v := by
  induction fs with
  | nil => simp [insert, get?]
  | cons p fs ih =>
    obtain ⟨k', v'⟩ := p
    simp only [insert]
    split
    · simp [get?]
    · split
      · simp [get?]
      · next hne =>
        have hk' : (k' == k) = false := by
          rw [beq_eq_false_iff_ne]
          intro heq
          exact hne (by rw [heq, beq_self_eq_true])
        simpa [get?, List.find?_cons, hk'] using ih

theorem get?_insert_of_ne (fs : Fields) {k k' : String} (hne : k' ≠ k) (v : Json) :
    (fs.insert k' v).get? k = fs.get? k := by
  have hk : (k' == k) = false := beq_eq_false_iff_ne.2 hne
  induction fs with
  | nil => simp [insert, get?, hk]
  | cons p fs ih =>
    obtain ⟨k'', v''⟩ := p
    simp only [insert]
    split
    · simp [get?, hk]
    · split
      · next heq =>
        have hk'' : k' = k'' := beq_iff_eq.1 heq
        subst hk''
        simp [get?, hk]
      · simp only [get?, List.find?_cons] at ih ⊢
        split <;> simp_all

/-- Putting a key that a filter drops changes nothing the filter keeps. -/
theorem filter_insert (fs : Fields) (k : String) (v : Json) (p : String × Json → Bool)
    (hp : ∀ w, p (k, w) = false) : (fs.insert k v).filter p = fs.filter p := by
  induction fs with
  | nil => simp [insert, hp]
  | cons q fs ih =>
    obtain ⟨k', v'⟩ := q
    simp only [insert]
    split
    · simp [hp]
    · split
      · next heq =>
        have hk : k = k' := beq_iff_eq.1 heq
        subst hk
        simp [hp]
      · rw [List.filter_cons, List.filter_cons, ih]

end Json.Fields

theorem Json.toInt64?_ofInt64 (i : Int64) : (Json.ofInt64 i).toInt64? = some i := by
  simp only [Json.ofInt64, Json.toInt64?, Number.ofInt]
  split
  · next hnonneg =>
    have hlt : i.toInt.toNat < Nat.pow 2 63 := by
      have := i.toInt_lt
      simp only [Nat.pow_eq]
      omega
    have hsmall : i.toInt.toNat.toUInt64.toNat = i.toInt.toNat := by
      rw [Nat.toUInt64_eq, UInt64.toNat_ofNat']
      simp only [Nat.pow_eq] at hlt
      omega
    simp only [Number.toInt64?, hsmall, hlt, if_true, Option.some.injEq]
    rw [← Int64.toInt_inj, Int64.toInt_ofNat_of_lt (by simpa using hlt)]
    omega
  · simp [Number.toInt64?]

namespace Document

variable (d : Document)

theorem fetchMetadata_putMetadata_self (k : String) (v : Json) :
    (d.putMetadata k v).fetchMetadata k = some v :=
  Json.Fields.get?_insert_self _ k v

theorem fetchMetadata_putMetadata_of_ne {k k' : String} (hne : k' ≠ k) (v : Json) :
    (d.putMetadata k' v).fetchMetadata k = d.fetchMetadata k :=
  Json.Fields.get?_insert_of_ne _ hne v

/-- The keys a stored document's write metadata is kept under. -/
def IsWriteKey (k : String) : Prop := k = indexesKey ∨ k = updateDateKey ∨ k = sequenceKey

theorem stripWriteMetadata_putMetadata {k : String} (hk : IsWriteKey k) (v : Json) :
    (d.putMetadata k v).stripWriteMetadata = d.stripWriteMetadata := by
  simp only [stripWriteMetadata, putMetadata]
  congr 1
  apply Json.Fields.filter_insert
  intro w
  rcases hk with rfl | rfl | rfl <;> simp

theorem stripWriteMetadata_idem : d.stripWriteMetadata.stripWriteMetadata = d.stripWriteMetadata := by
  simp only [stripWriteMetadata, List.filter_filter]
  congr 2
  funext p
  cases p.1 != indexesKey <;> cases p.1 != updateDateKey <;> cases p.1 != sequenceKey <;> rfl

end Document

theorem ExtTreeSet.ofList_toList (t : ExtTreeSet String compare) :
    ExtTreeSet.ofList t.toList compare = t := by
  apply ExtTreeSet.ext_mem
  intro k
  rw [ExtTreeSet.mem_ofList, List.contains_iff_mem, ExtTreeSet.mem_toList]

namespace StoredDocument

/-- The caller's part of a stored document holds none of the write metadata keys. -/
def Stripped (s : StoredDocument) : Prop := s.document.stripWriteMetadata = s.document

theorem stripped_new (d : Document) (tags : TagSet) (timestamp : Int64) (seq : UInt64) :
    (StoredDocument.new d tags timestamp seq).Stripped :=
  d.stripWriteMetadata_idem

/-- The tags recorded in the form of a stored document are its tags. -/
theorem tags_toDocument (s : StoredDocument) : s.toDocument.tags = s.tags := by
  have hfetch : s.toDocument.fetchMetadata indexesKey = some (Json.strings s.tags.toList) := by
    rw [toDocument, Document.fetchMetadata_putMetadata_of_ne _ (by simp [indexesKey, sequenceKey]),
      Document.fetchMetadata_putMetadata_of_ne _ (by simp [indexesKey, updateDateKey]),
      Document.fetchMetadata_putMetadata_self]
  have hstrings : Document.stringsOf (s.tags.toList.map Json.string) = s.tags.toList := by
    have hsome : (Json.str? ∘ Json.string) = some := rfl
    rw [Document.stringsOf, List.filterMap_map, hsome, List.filterMap_some]
  rw [Document.tags, hfetch, Json.strings]
  simp only [hstrings]
  exact ExtTreeSet.ofList_toList s.tags

/-- Reading the form of a stored document back gives its tags, write time and sequence
number, and its caller's part without the write metadata. -/
theorem ofDocument_toDocument_eq (s : StoredDocument) :
    ofDocument s.toDocument = .ok ⟨s.document.stripWriteMetadata, s.tags, s.timestamp, s.seq⟩ := by
  have htime : s.toDocument.fetchMetadata updateDateKey = some (Json.ofInt64 s.timestamp) := by
    rw [toDocument, Document.fetchMetadata_putMetadata_of_ne _ (by simp [updateDateKey, sequenceKey]),
      Document.fetchMetadata_putMetadata_self]
  have hseq : s.toDocument.fetchMetadata sequenceKey = some (Json.ofUInt64 s.seq) :=
    Document.fetchMetadata_putMetadata_self _ _ _
  have hstrip : s.toDocument.stripWriteMetadata = s.document.stripWriteMetadata := by
    rw [toDocument, Document.stripWriteMetadata_putMetadata _ (.inr (.inr rfl)),
      Document.stripWriteMetadata_putMetadata _ (.inr (.inl rfl)),
      Document.stripWriteMetadata_putMetadata _ (.inl rfl)]
  simp only [ofDocument, htime, hseq, Option.bind_some, Json.toInt64?_ofInt64, tags_toDocument, hstrip]
  rfl

/-- **Writing a stored document out and reading it back gives it again.** -/
theorem ofDocument_toDocument {s : StoredDocument} (hs : s.Stripped) : ofDocument s.toDocument = .ok s := by
  rw [ofDocument_toDocument_eq, show s.document.stripWriteMetadata = s.document from hs]

theorem id_toDocument (s : StoredDocument) : s.toDocument.id = s.id := rfl

end StoredDocument

end TagStore
