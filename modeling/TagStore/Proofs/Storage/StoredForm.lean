import TagStore.Proofs.Storage.Record
/-!
# Proofs.Storage.StoredForm

A stored document and its document form carry the same information. Reading the form back
gives the stored document (`StoredDocument.ofDocument_toDocument`), and writing back what
was read gives the same form (`StoredDocument.toDocument_ofDocument`), as long as the
caller's metadata is an object of the document format: sorted by key, each key once. On a
list with a repeated key, putting a key replaces only its first occurrence, and the form
could not be rebuilt.

Objects of the format are compared through their lookups: two sorted field lists with the
same value under every key are equal (`Json.Fields.Sorted.ext`). The form of a stored
document looks up the three write keys to the values the backend assigned and every other
key to the caller's value (`StoredDocument.fetchMetadata_toDocument`), and a stored document
keeps no write key in its caller's part (`StoredDocument.fetchMetadata_new_of_write`), so a
caller's own `_indexes`, `_update_date` or `_seq` never reaches the index or the form.
-/

namespace TagStore

namespace Json.Fields

/-- Keys strictly increasing: the shape of every object of the document format. -/
def Sorted (fs : Fields) : Prop := fs.Pairwise fun a b => a.1 < b.1

theorem get?_cons_self (k : String) (v : Json) (fs : Fields) : get? ((k, v) :: fs) k = some v := by
  simp [get?]

theorem get?_cons_of_ne {k k' : String} (hne : k' ≠ k) (v : Json) (fs : Fields) :
    get? ((k', v) :: fs) k = get? fs k := by
  simp [get?, hne]

/-- A key below every key of a list is not in it. -/
theorem get?_eq_none_of_lt {fs : Fields} {k : String} (h : ∀ p ∈ fs, k < p.1) : fs.get? k = none := by
  rw [get?, Option.map_eq_none_iff, List.find?_eq_none]
  intro p hp heq
  exact String.ne_of_lt (h p hp) (beq_iff_eq.1 heq).symm

/-- A key below the first key of a sorted list is below every key of it. -/
theorem forall_lt_of_lt_first {q : String × Json} {gs : Fields} (hg : ∀ r ∈ gs, q.1 < r.1)
    {k : String} (hlt : k < q.1) : ∀ r ∈ q :: gs, k < r.1 := by
  intro r hr
  rcases List.mem_cons.1 hr with rfl | hr
  · exact hlt
  · exact String.lt_trans hlt (hg r hr)

/-- A filter that keeps a key keeps its value. -/
theorem get?_filter_of_keep (fs : Fields) (p : String × Json → Bool) {k : String}
    (hp : ∀ w, p (k, w) = true) : get? (fs.filter p) k = get? fs k := by
  induction fs with
  | nil => rfl
  | cons q fs ih =>
    obtain ⟨k', v'⟩ := q
    by_cases hk : k' = k
    · subst hk
      rw [List.filter_cons_of_pos (hp v'), get?_cons_self, get?_cons_self]
    · rw [get?_cons_of_ne hk, List.filter_cons]
      split
      · rw [get?_cons_of_ne hk, ih]
      · exact ih

/-- A filter that drops a key drops its value. -/
theorem get?_filter_of_drop (fs : Fields) (p : String × Json → Bool) {k : String}
    (hp : ∀ w, p (k, w) = false) : get? (fs.filter p) k = none := by
  rw [get?, Option.map_eq_none_iff, List.find?_eq_none]
  intro q hq heq
  obtain ⟨hmem, hkeep⟩ := List.mem_filter.1 hq
  obtain ⟨k', w⟩ := q
  obtain rfl : k' = k := beq_iff_eq.1 heq
  rw [hp w] at hkeep
  cases hkeep

theorem mem_insert {fs : Fields} {k : String} {v : Json} {p : String × Json}
    (h : p ∈ fs.insert k v) : p = (k, v) ∨ p ∈ fs := by
  induction fs with
  | nil => simpa [insert] using h
  | cons q fs ih =>
    obtain ⟨k', v'⟩ := q
    simp only [insert] at h
    split at h
    · exact List.mem_cons.1 h
    · split at h
      · rcases List.mem_cons.1 h with rfl | h
        · exact Or.inl rfl
        · exact Or.inr (List.mem_cons_of_mem _ h)
      · rcases List.mem_cons.1 h with rfl | h
        · exact Or.inr List.mem_cons_self
        · rcases ih h with rfl | h
          · exact Or.inl rfl
          · exact Or.inr (List.mem_cons_of_mem _ h)

/-- Putting a key keeps a list sorted. -/
theorem Sorted.insert {fs : Fields} (hs : fs.Sorted) (k : String) (v : Json) : (fs.insert k v).Sorted := by
  induction fs with
  | nil => exact List.pairwise_singleton _ _
  | cons q fs ih =>
    obtain ⟨k', v'⟩ := q
    unfold Sorted at hs ⊢
    rw [List.pairwise_cons] at hs
    simp only [Fields.insert]
    split
    · next hlt =>
      -- the new key goes first, below `k'` and so below every later key
      exact List.Pairwise.cons (forall_lt_of_lt_first hs.1 hlt) (List.Pairwise.cons hs.1 hs.2)
    · split
      · next heq =>
        obtain rfl : k = k' := beq_iff_eq.1 heq
        exact List.Pairwise.cons hs.1 hs.2
      · next hnlt hne =>
        -- `k'` is below the new key and stays first
        have hgt : k' < k := by
          refine String.not_le.1 fun hle => hne (beq_iff_eq.2 ?_)
          exact String.le_antisymm hle (String.not_lt.1 hnlt)
        refine List.Pairwise.cons ?_ (ih hs.2)
        intro p hp
        rcases mem_insert hp with rfl | hp
        · exact hgt
        · exact hs.1 p hp

theorem Sorted.filter {fs : Fields} (hs : fs.Sorted) (p : String × Json → Bool) : Sorted (fs.filter p) :=
  List.Pairwise.filter p hs

/-- **Two sorted field lists with the same value under every key are equal.** -/
theorem Sorted.ext {fs gs : Fields} (hf : fs.Sorted) (hg : gs.Sorted) (h : ∀ k, fs.get? k = gs.get? k) :
    fs = gs := by
  induction fs generalizing gs with
  | nil =>
    cases gs with
    | nil => rfl
    | cons q gs =>
      have hq := h q.1
      simp [get?] at hq
  | cons p fs ih =>
    cases gs with
    | nil =>
      have hp := h p.1
      simp [get?] at hp
    | cons q gs =>
      unfold Sorted at hf hg
      rw [List.pairwise_cons] at hf hg
      -- the smaller of the two first keys would be missing from the other list
      have hpq : ¬ p.1 < q.1 := fun hlt => by
        have hp := h p.1
        rw [get?_cons_self, get?_eq_none_of_lt (forall_lt_of_lt_first hg.1 hlt)] at hp
        cases hp
      have hqp : ¬ q.1 < p.1 := fun hlt => by
        have hq := h q.1
        rw [get?_cons_self, get?_eq_none_of_lt (forall_lt_of_lt_first hf.1 hlt)] at hq
        cases hq
      have hkey : p.1 = q.1 := String.le_antisymm (String.not_lt.1 hqp) (String.not_lt.1 hpq)
      have hval : p.2 = q.2 := by
        have hp := h p.1
        rw [get?_cons_self, hkey, get?_cons_self] at hp
        exact Option.some.inj hp
      -- the tails agree everywhere: at the first key both miss it, elsewhere the heads are skipped
      have htails : ∀ k, get? fs k = get? gs k := by
        intro k
        by_cases hk : k = p.1
        · subst hk
          rw [get?_eq_none_of_lt hf.1, get?_eq_none_of_lt]
          intro r hr
          rw [hkey]
          exact hg.1 r hr
        · have hk' : q.1 ≠ k := fun heq => hk (heq.symm.trans hkey.symm)
          have hp := h k
          rw [get?_cons_of_ne (Ne.symm hk), get?_cons_of_ne hk'] at hp
          exact hp
      rw [Prod.ext hkey hval, ih hf.2 hg.2 htails]

end Json.Fields

namespace Document

instance (k : String) : Decidable (IsWriteKey k) := inferInstanceAs (Decidable (_ ∨ _ ∨ _))

variable (d : Document)

/-- Stripping the write metadata drops the three write keys and keeps every other. -/
theorem fetchMetadata_stripWriteMetadata (k : String) :
    d.stripWriteMetadata.fetchMetadata k = if IsWriteKey k then none else d.fetchMetadata k := by
  simp only [stripWriteMetadata, fetchMetadata]
  split
  · next hk =>
    apply Json.Fields.get?_filter_of_drop
    intro w
    rcases hk with rfl | rfl | rfl <;> simp
  · next hk =>
    apply Json.Fields.get?_filter_of_keep
    intro w
    simp only [IsWriteKey, not_or] at hk
    simp [hk.1, hk.2.1, hk.2.2]

theorem sorted_stripWriteMetadata (hs : d.metadata.Sorted) : d.stripWriteMetadata.metadata.Sorted :=
  hs.filter _

/-- Putting a key answers it with the new value and every other key as before. -/
theorem fetchMetadata_putMetadata (k k' : String) (v : Json) :
    (d.putMetadata k v).fetchMetadata k' = if k' = k then some v else d.fetchMetadata k' := by
  split
  · next h =>
    subst h
    exact d.fetchMetadata_putMetadata_self k' v
  · next h => exact d.fetchMetadata_putMetadata_of_ne (Ne.symm h) v

end Document

namespace StoredDocument

/-- The form of a stored document looks up the write keys to the values the backend
assigned and every other key to the caller's value. -/
theorem fetchMetadata_toDocument (s : StoredDocument) (k : String) :
    s.toDocument.fetchMetadata k =
      if k = sequenceKey then some (Json.ofUInt64 s.seq)
      else if k = updateDateKey then some (Json.ofInt64 s.timestamp)
      else if k = indexesKey then some (Json.strings s.tags.toList)
      else s.document.fetchMetadata k := by
  simp only [toDocument, Document.fetchMetadata_putMetadata]

/-- Rebuilding the form from the stripped caller's part gives the same form, over sorted
metadata: the three write keys are put back where they were dropped. -/
theorem toDocument_strip {s : StoredDocument} (hs : s.document.metadata.Sorted) :
    toDocument ⟨s.document.stripWriteMetadata, s.tags, s.timestamp, s.seq⟩ = s.toDocument := by
  have hsorted : ∀ d : Document, d.metadata.Sorted →
      (toDocument ⟨d, s.tags, s.timestamp, s.seq⟩).metadata.Sorted := fun d hd =>
    ((hd.insert _ _).insert _ _).insert _ _
  have hmeta : (toDocument ⟨s.document.stripWriteMetadata, s.tags, s.timestamp, s.seq⟩).metadata =
      s.toDocument.metadata := by
    apply Json.Fields.Sorted.ext (hsorted _ (s.document.sorted_stripWriteMetadata hs)) (hsorted _ hs)
    intro k
    change (toDocument ⟨s.document.stripWriteMetadata, s.tags, s.timestamp, s.seq⟩).fetchMetadata k =
      s.toDocument.fetchMetadata k
    rw [fetchMetadata_toDocument, fetchMetadata_toDocument, Document.fetchMetadata_stripWriteMetadata]
    -- only a key that is no write key reaches the caller's part, where stripping kept it
    by_cases hk : Document.IsWriteKey k
    · rcases hk with rfl | rfl | rfl <;> simp [indexesKey, updateDateKey, sequenceKey]
    · rw [if_neg hk]
  simp only [toDocument, Document.putMetadata] at hmeta ⊢
  rw [hmeta]
  rfl

/-- **Writing back what was read from the form of a stored document gives that form**, when
the caller's metadata is sorted by key with each key once. -/
theorem toDocument_ofDocument {s : StoredDocument} (hs : s.document.metadata.Sorted) :
    (ofDocument s.toDocument).map toDocument = .ok s.toDocument := by
  rw [ofDocument_toDocument_eq, Except.map, toDocument_strip hs]

/-- A stored document keeps no write key in its caller's part, whatever the caller put
there. -/
theorem fetchMetadata_new_of_write (d : Document) (tags : TagSet) (timestamp : Int64) (seq : UInt64)
    {k : String} (hk : Document.IsWriteKey k) : (new d tags timestamp seq).document.fetchMetadata k = none := by
  rw [new, Document.fetchMetadata_stripWriteMetadata, if_pos hk]

/-- **The form of a stored document reads back to it, and what is read back writes the same
form.** A stored document made from any document reads back from its form; writing back
what the form reads to gives the form again when the caller's metadata is sorted by key;
and the caller's part keeps none of the write keys, so the tags, write time and sequence
number a stored document is filed and written with are the ones it was given. -/
theorem stored_form_round_trip :
    (∀ (d : Document) (tags : TagSet) (timestamp : Int64) (seq : UInt64),
      ofDocument (new d tags timestamp seq).toDocument = .ok (new d tags timestamp seq)) ∧
    (∀ s : StoredDocument, s.document.metadata.Sorted →
      (ofDocument s.toDocument).map toDocument = .ok s.toDocument) ∧
    (∀ (d : Document) (tags : TagSet) (timestamp : Int64) (seq : UInt64),
      (∀ k, Document.IsWriteKey k → (new d tags timestamp seq).document.fetchMetadata k = none) ∧
      (new d tags timestamp seq).toDocument.tags = tags ∧
      (new d tags timestamp seq).toDocument.fetchMetadata updateDateKey = some (Json.ofInt64 timestamp) ∧
      (new d tags timestamp seq).toDocument.fetchMetadata sequenceKey = some (Json.ofUInt64 seq)) := by
  refine ⟨fun d tags timestamp seq => ofDocument_toDocument (stripped_new d tags timestamp seq),
    fun _ hs => toDocument_ofDocument hs, fun d tags timestamp seq => ⟨?_, ?_, ?_, ?_⟩⟩
  · exact fun _ hk => fetchMetadata_new_of_write d tags timestamp seq hk
  · exact tags_toDocument _
  · rw [fetchMetadata_toDocument, if_neg (by simp [updateDateKey, sequenceKey]), if_pos rfl]
    rfl
  · rw [fetchMetadata_toDocument, if_pos rfl]
    rfl

/-- A document whose caller metadata holds one key of its own: its form reads back and
writes the same form again. -/
theorem stored_form_round_trip_source :
    Json.Fields.Sorted [("source", .string "feed")] ∧
    (ofDocument (⟨⟨"p1", [], [("source", .string "feed")]⟩, ∅, 1700000, 4⟩ : StoredDocument).toDocument).map
        toDocument =
      .ok (⟨⟨"p1", [], [("source", .string "feed")]⟩, ∅, 1700000, 4⟩ : StoredDocument).toDocument := by
  have hs : Json.Fields.Sorted [("source", .string "feed")] := List.pairwise_singleton _ _
  exact ⟨hs, stored_form_round_trip.2.1 _ hs⟩

end StoredDocument

end TagStore
