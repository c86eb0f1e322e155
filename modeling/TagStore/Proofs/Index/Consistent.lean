import TagStore.Index.TagIndex
/-!
# Proofs.Index.Consistent

A tag index holds two things that must agree: the documents map (each id with its key and
tags) and, per tag, a count and a membership. The index state is *consistent* when the
tags are exactly what the documents say:

1. the key of every document carries the document's id;
2. every tag that is present has a count equal to the size of its membership, and a
   nonempty membership;
3. a key is a member of a tag exactly when the document of the key's id has that key and
   is filed under the tag.

The third point pins the membership of every tag down from the documents, and the first
two pin down which tags are present and their counts, so a consistent state is a function
of its documents (`IndexState.Consistent.ext`). Everything else in this file says how the
operations move the documents map and that they keep consistency: filing an entry inserts
it (`upsert_consistent`), dropping an id erases it (`dropDocument_consistent`), neither
ever clamps a count, and both builds, sequential and grouped, give the consistent state of
`documentsOf`, the map in which the last entry of an id wins (`build_consistent`).
-/

namespace TagStore

open Std

/-! ## The order of member keys -/

namespace MemberKey

/-- Keys that compare equal are equal: the order looks at every field. -/
instance : LawfulEqCmp order where
  eq_of_compare {a b} h := by
    simp only [order, compareLex, compareOn, Ordering.then_eq_eq] at h
    obtain ⟨hts, hseq, hid⟩ := h
    rcases a with ⟨ta, sa, ia⟩
    rcases b with ⟨tb, sb, ib⟩
    simp only [Std.compare_eq_iff_eq, Int64.toInt_inj, UInt64.toNat_inj] at hts hseq hid
    simp [hts, hseq, hid]

end MemberKey

/-! ## Folds of per-key updates -/

/-- The elements of an extensional tree set, in order, without repeats. -/
theorem ExtTreeSet.nodup_toList {α : Type} {cmp : α → α → Ordering} [TransCmp cmp]
    [LawfulEqCmp cmp] (t : ExtTreeSet α cmp) : t.toList.Nodup := by
  have h := t.distinct_toList
  simp only [LawfulEqCmp.compare_eq_iff_eq] at h
  exact h

/-- Updating a list of distinct keys one by one with the same function updates each of
them once and leaves every other key alone. -/
theorem ExtTreeMap.getElem?_foldl_alter {α β : Type} [DecidableEq α] {cmp : α → α → Ordering}
    [TransCmp cmp] [LawfulEqCmp cmp] (f : Option β → Option β) (l : List α) (hl : l.Nodup)
    (m : ExtTreeMap α β cmp) (k : α) :
    (l.foldl (fun m a => m.alter a f) m)[k]? = if k ∈ l then f m[k]? else m[k]? := by
  induction l generalizing m with
  | nil => simp
  | cons a l ih =>
    rw [List.nodup_cons] at hl
    rw [List.foldl_cons, ih hl.2, ExtTreeMap.getElem?_alter]
    simp only [LawfulEqCmp.compare_eq_iff_eq, List.mem_cons]
    by_cases hka : k = a
    · subst hka
      simp [hl.1]
    · simp [hka, Ne.symm hka]

/-! ## Consistency -/

namespace IndexState

/-- A tag's membership, empty for a tag the index does not hold. -/
def memberSet (s : IndexState) (tag : String) : Membership :=
  (s.tags[tag]?.map (·.members)).getD ∅

/-- The documents map that filing `entries` in order leaves: the last entry of an id wins. -/
def documentsOf (entries : List IndexEntry) : ExtTreeMap String (MemberKey × TagSet) compare :=
  entries.foldl (fun m e => m.insert e.id (e.key, e.tags)) ∅

/-- A key is filed under a tag when the document of the key's id has that key and tag. -/
def Filed (docs : ExtTreeMap String (MemberKey × TagSet) compare) (tag : String)
    (k : MemberKey) : Prop :=
  ∃ tags, docs[k.id]? = some (k, tags) ∧ tag ∈ tags

/-- The tags of an index state are exactly what its documents say. -/
structure Consistent (s : IndexState) : Prop where
  /-- Every document's key carries the document's id. -/
  key_id : ∀ (id : String) (k : MemberKey) (tags : TagSet), s.documents[id]? = some (k, tags) →
    k.id = id
  /-- A present tag counts its members. -/
  count_eq : ∀ (tag : String) (e : TagEntry), s.tags[tag]? = some e → e.count = e.members.size
  /-- A present tag has members. -/
  members_ne : ∀ (tag : String) (e : TagEntry), s.tags[tag]? = some e → e.members ≠ ∅
  /-- A tag's members are the keys of the documents filed under it. -/
  mem_iff : ∀ (tag : String) (k : MemberKey), k ∈ s.memberSet tag ↔ Filed s.documents tag k

/-- A tag present in a consistent state has a positive count. -/
theorem Consistent.count_pos {s : IndexState} (h : s.Consistent) {tag : String} {e : TagEntry}
    (he : s.tags[tag]? = some e) : 0 < e.count := by
  rw [h.count_eq tag e he, Nat.pos_iff_ne_zero, Ne, ← ExtTreeSet.eq_empty_iff_size_eq_zero]
  exact h.members_ne tag e he

/-- **A consistent state is a function of its documents.** Membership is fixed by
`mem_iff`; a tag is present exactly when some key is filed under it, since present tags
are nonempty; and the count is the size. -/
theorem Consistent.ext {s s' : IndexState} (h : s.Consistent) (h' : s'.Consistent)
    (hd : s.documents = s'.documents) : s = s' := by
  have hmem : ∀ tag, s.memberSet tag = s'.memberSet tag := fun tag =>
    ExtTreeSet.ext_mem fun k => by rw [h.mem_iff, h'.mem_iff, hd]
  -- a tag whose membership is empty is absent, on either side
  have absent : ∀ {t : IndexState}, t.Consistent → ∀ tag, t.memberSet tag = ∅ → t.tags[tag]? = none := by
    intro t ht tag hempty
    cases he : t.tags[tag]? with
    | none => rfl
    | some e =>
      simp only [memberSet, he, Option.map_some, Option.getD_some] at hempty
      exact absurd hempty (ht.members_ne tag e he)
  rcases s with ⟨tags, docs⟩
  rcases s' with ⟨tags', docs'⟩
  simp only at hd
  subst hd
  congr 1
  ext tag : 1
  cases he : tags[tag]? with
  | none =>
    have hempty : memberSet ⟨tags', docs⟩ tag = ∅ := by
      rw [← hmem tag]
      simp [memberSet, he]
    exact (absent h' tag hempty).symm
  | some e =>
    cases he' : tags'[tag]? with
    | none =>
      have hempty : memberSet ⟨tags, docs⟩ tag = ∅ := by
        rw [hmem tag]
        simp [memberSet, he']
      rw [absent h tag hempty] at he
      cases he
    | some e' =>
      have hm : e.members = e'.members := by
        simpa [memberSet, he, he'] using hmem tag
      have hc : e.count = e'.count := by
        rw [h.count_eq tag e he, h'.count_eq tag e' he', hm]
      rcases e with ⟨c, ms⟩
      rcases e' with ⟨c', ms'⟩
      simp only at hm hc
      rw [hm, hc]

/-- In a consistent state a key is filed under a tag exactly when some document has that
key and tag. -/
theorem Consistent.filed_iff {s : IndexState} (hs : s.Consistent) {tag : String} {k : MemberKey} :
    Filed s.documents tag k ↔
      ∃ (id : String) (tags : TagSet), s.documents[id]? = some (k, tags) ∧ tag ∈ tags := by
  constructor
  · rintro ⟨tags, hk, ht⟩
    exact ⟨k.id, tags, hk, ht⟩
  · rintro ⟨id, tags, hk, ht⟩
    have hid : k.id = id := hs.key_id id k tags hk
    subst hid
    exact ⟨tags, hk, ht⟩

/-! ## One tag at a time -/

/-- What dropping a key does to one tag's entry: one member and one count fewer, and no
entry once both are gone. -/
def leaveEntry (key : MemberKey) : Option TagEntry → Option TagEntry
  | none => none
  | some e =>
    if e.count - 1 == 0 && (e.members.erase key).isEmpty then none
    else some ⟨e.count - 1, e.members.erase key⟩

/-- What adding a key does to one tag's entry: a new member raises the count. -/
def joinEntry (key : MemberKey) (o : Option TagEntry) : Option TagEntry :=
  let e := o.getD ⟨0, ∅⟩
  some (if e.members.contains key then e else ⟨e.count + 1, e.members.insert key⟩)

/-- The membership an entry gives, empty for no entry. -/
def membersOf (o : Option TagEntry) : Membership := (o.map (·.members)).getD ∅

theorem membersOf_leaveEntry (key : MemberKey) (o : Option TagEntry) :
    membersOf (leaveEntry key o) = (membersOf o).erase key := by
  cases o with
  | none => simp [leaveEntry, membersOf]
  | some e =>
    simp only [leaveEntry, membersOf]
    split
    · next hc =>
      simp only [Bool.and_eq_true, beq_iff_eq, ExtTreeSet.isEmpty_iff] at hc
      simp [hc.2]
    · simp

theorem membersOf_joinEntry (key : MemberKey) (o : Option TagEntry) :
    membersOf (joinEntry key o) = (membersOf o).insert key := by
  have hget : (o.getD ⟨0, ∅⟩).members = membersOf o := by cases o <;> rfl
  simp only [joinEntry, membersOf, Option.map_some, Option.getD_some]
  split
  · next hc =>
    rw [hget] at hc ⊢
    ext k
    rw [ExtTreeSet.mem_insert, LawfulEqCmp.compare_eq_iff_eq]
    rw [ExtTreeSet.contains_iff_mem] at hc
    constructor
    · exact Or.inr
    · rintro (rfl | hk)
      · exact hc
      · exact hk
  · rw [hget]
    rfl

/-- Dropping a key that is a member of a counted entry leaves a counted, nonempty entry or
none. -/
theorem leaveEntry_counted {key : MemberKey} {e e' : TagEntry} (hc : e.count = e.members.size)
    (hk : key ∈ e.members) (h : leaveEntry key (some e) = some e') :
    e'.count = e'.members.size ∧ e'.members ≠ ∅ := by
  have hsize : (e.members.erase key).size = e.count - 1 := by
    rw [ExtTreeSet.size_erase, if_pos (ExtTreeSet.contains_iff_mem.2 hk), hc]
  simp only [leaveEntry] at h
  split at h
  · cases h
  · next hcond =>
    cases h
    refine ⟨hsize.symm, fun hempty => hcond ?_⟩
    change e.members.erase key = ∅ at hempty
    rw [← hsize, hempty]
    simp

/-- Adding a key that is new to a counted entry gives a counted, nonempty entry. -/
theorem joinEntry_counted {key : MemberKey} {o : Option TagEntry} {e' : TagEntry}
    (hc : ∀ e, o = some e → e.count = e.members.size) (hk : key ∉ membersOf o)
    (h : joinEntry key o = some e') : e'.count = e'.members.size ∧ e'.members ≠ ∅ := by
  have hne : key ∈ membersOf (joinEntry key o) := by
    rw [membersOf_joinEntry, ExtTreeSet.mem_insert, LawfulEqCmp.compare_eq_iff_eq]
    exact Or.inl rfl
  rw [h] at hne
  refine ⟨?_, ExtTreeSet.ne_empty_of_mem hne⟩
  cases o with
  | none =>
    simp only [joinEntry, Option.getD_none, ExtTreeSet.contains_empty, Bool.false_eq_true,
      ↓reduceIte, Option.some.injEq] at h
    subst h
    simp [ExtTreeSet.size_insert]
  | some e =>
    have hk' : ¬ e.members.contains key := by
      rw [ExtTreeSet.contains_iff_mem]
      exact hk
    simp only [joinEntry, Option.getD_some, hk', Bool.false_eq_true, ↓reduceIte,
      Option.some.injEq] at h
    subst h
    simp only [membersOf, Option.map_some, Option.getD_some] at hk
    simp [ExtTreeSet.size_insert, ExtTreeSet.contains_iff_mem, hk, hc e rfl]

theorem memberSet_eq (s : IndexState) (tag : String) : s.memberSet tag = membersOf s.tags[tag]? :=
  rfl

/-- Leaving a tag whose count is positive clamps nothing. -/
theorem leaveTag_of_count_pos (key : MemberKey) {m : ExtTreeMap String TagEntry compare}
    {tag : String} {e : TagEntry} (he : m[tag]? = some e) (hc : 0 < e.count) (c : Nat) :
    leaveTag key (m, c) tag = (m.alter tag (leaveEntry key), c) := by
  have hc' : (e.count == 0) = false := by simp; omega
  simp only [leaveTag, ExtTreeMap.get?_eq_getElem?, he, hc', Bool.false_eq_true, ↓reduceIte]
  split
  · next hz =>
    congr 1
    ext k : 1
    simp only [ExtTreeMap.getElem?_erase, ExtTreeMap.getElem?_alter, LawfulEqCmp.compare_eq_iff_eq,
      he, leaveEntry, hz]
    split <;> simp
  · next hz =>
    congr 1
    ext k : 1
    simp only [ExtTreeMap.getElem?_insert, ExtTreeMap.getElem?_alter, LawfulEqCmp.compare_eq_iff_eq,
      he, leaveEntry, hz]
    split <;> simp

/-- Joining a tag is a per-tag update. -/
theorem joinTag_eq_alter (key : MemberKey) (m : ExtTreeMap String TagEntry compare) (tag : String) :
    joinTag key m tag = m.alter tag (joinEntry key) := by
  ext k : 1
  simp only [joinTag, joinEntry, ExtTreeMap.getD_eq_getD_getElem?, ExtTreeMap.getElem?_alter,
    LawfulEqCmp.compare_eq_iff_eq]
  split <;> simp_all [ExtTreeMap.getElem?_insert]

/-- Leaving distinct tags whose counts are all positive clamps nothing: each tag is
updated once, and the clamp count stays where it was. -/
theorem foldl_leaveTag (key : MemberKey) (l : List String) (hl : l.Nodup)
    (m : ExtTreeMap String TagEntry compare) (c : Nat)
    (hpos : ∀ t ∈ l, ∃ e, m[t]? = some e ∧ 0 < e.count) :
    l.foldl (leaveTag key) (m, c) = (l.foldl (fun m t => m.alter t (leaveEntry key)) m, c) := by
  induction l generalizing m with
  | nil => rfl
  | cons a l ih =>
    rw [List.nodup_cons] at hl
    obtain ⟨e, he, hc⟩ := hpos a List.mem_cons_self
    rw [List.foldl_cons, List.foldl_cons, leaveTag_of_count_pos key he hc]
    apply ih hl.2
    intro t ht
    obtain ⟨e', he', hc'⟩ := hpos t (List.mem_cons_of_mem a ht)
    have hat : ¬ compare a t = .eq := by
      rw [LawfulEqCmp.compare_eq_iff_eq]
      exact fun h => hl.1 (h ▸ ht)
    exact ⟨e', by rw [ExtTreeMap.getElem?_alter, if_neg hat, he'], hc'⟩

/-! ## Filing in a documents map -/

section Filed

variable {docs : ExtTreeMap String (MemberKey × TagSet) compare} {id tag : String}
  {k key : MemberKey} {tags : TagSet}

theorem filed_erase : Filed (docs.erase id) tag k ↔ k.id ≠ id ∧ Filed docs tag k := by
  simp only [Filed, ExtTreeMap.getElem?_erase, LawfulEqCmp.compare_eq_iff_eq]
  by_cases h : id = k.id
  · simp [h]
  · simp [h, Ne.symm h]

theorem filed_insert (hkey : key.id = id) :
    Filed (docs.insert id (key, tags)) tag k ↔ (k = key ∧ tag ∈ tags) ∨ (k.id ≠ id ∧ Filed docs tag k) := by
  simp only [Filed, ExtTreeMap.getElem?_insert, LawfulEqCmp.compare_eq_iff_eq]
  by_cases h : id = k.id
  · subst h
    simp only [↓reduceIte, Option.some.injEq, Prod.mk.injEq, ne_eq, not_true_eq_false, false_and,
      or_false]
    constructor
    · rintro ⟨ts, ⟨rfl, rfl⟩, ht⟩
      exact ⟨rfl, ht⟩
    · rintro ⟨rfl, ht⟩
      exact ⟨tags, ⟨rfl, rfl⟩, ht⟩
  · have hk : k ≠ key := fun hk => h (hk ▸ hkey).symm
    simp [h, Ne.symm h, hk]

end Filed

/-- In a consistent state, a key filed under a tag sits in the tag's entry. -/
theorem Consistent.getElem?_of_filed {s : IndexState} (hs : s.Consistent) {tag : String}
    {k : MemberKey} (hk : Filed s.documents tag k) : ∃ e, s.tags[tag]? = some e ∧ k ∈ e.members := by
  rw [← hs.mem_iff, memberSet_eq] at hk
  cases he : s.tags[tag]? with
  | none => simp [he, membersOf] at hk
  | some e => exact ⟨e, rfl, by simpa [he, membersOf] using hk⟩

/-! ## Dropping a document -/

theorem dropDocument_of_getElem?_eq_none {s : IndexState} {id : String}
    (h : s.documents[id]? = none) : s.dropDocument id = (s, none, 0) := by
  simp [dropDocument, h]

/-- Dropping a filed document of a consistent state leaves each of its tags once and
clamps nothing. -/
theorem dropDocument_of_getElem?_eq_some {s : IndexState} (hs : s.Consistent) {id : String}
    {key : MemberKey} {held : TagSet} (h : s.documents[id]? = some (key, held)) :
    s.dropDocument id =
      (⟨held.toList.foldl (fun m t => m.alter t (leaveEntry key)) s.tags, s.documents.erase id⟩,
        some held, 0) := by
  have hpos : ∀ t ∈ held.toList, ∃ e, s.tags[t]? = some e ∧ 0 < e.count := by
    intro t ht
    have hfiled : Filed s.documents t key :=
      ⟨held, by rw [hs.key_id id key held h]; exact h, ExtTreeSet.mem_toList.1 ht⟩
    obtain ⟨e, he, -⟩ := hs.getElem?_of_filed hfiled
    exact ⟨e, he, hs.count_pos he⟩
  simp only [dropDocument, ExtTreeMap.get?_eq_getElem?, h, ExtTreeSet.foldl_eq_foldl_toList]
  rw [foldl_leaveTag key held.toList (ExtTreeSet.nodup_toList held) s.tags 0 hpos]

/-- Updating the tags of a tag set one by one updates each of them once. -/
theorem getElem?_foldl_alter_tags {β : Type} (f : Option β → Option β) (held : TagSet)
    (tags : ExtTreeMap String β compare) (t : String) :
    (held.toList.foldl (fun m t => m.alter t f) tags)[t]? = if t ∈ held then f tags[t]? else tags[t]? := by
  rw [ExtTreeMap.getElem?_foldl_alter _ _ (ExtTreeSet.nodup_toList held)]
  simp only [ExtTreeSet.mem_toList]

/-- **Dropping keeps consistency.** The documents lose the id; each tag of the dropped
document loses its key and one count, and disappears once empty; other tags are left alone. -/
theorem dropDocument_consistent {s : IndexState} (hs : s.Consistent) (id : String) :
    (s.dropDocument id).1.Consistent := by
  cases h : s.documents[id]? with
  | none =>
    rw [dropDocument_of_getElem?_eq_none h]
    exact hs
  | some v =>
    obtain ⟨key, held⟩ := v
    rw [dropDocument_of_getElem?_eq_some hs h]
    have hkey : key.id = id := hs.key_id id key held h
    -- every tag of the dropped document had its key as a member
    have hheld : ∀ t ∈ held, ∃ e, s.tags[t]? = some e ∧ key ∈ e.members := fun t ht =>
      hs.getElem?_of_filed ⟨held, by rw [hkey]; exact h, ht⟩
    -- a tag of the dropped document loses the key and one count, and stays counted
    have hcounted : ∀ (t : String) (e' : TagEntry), (held.toList.foldl (fun m t => m.alter t (leaveEntry key)) s.tags)[t]? = some e' →
        e'.count = e'.members.size ∧ e'.members ≠ ∅ := by
      intro t e' he'
      rw [getElem?_foldl_alter_tags] at he'
      split at he'
      · next ht =>
        obtain ⟨e, he, hmem⟩ := hheld t ht
        rw [he] at he'
        exact leaveEntry_counted (hs.count_eq t e he) hmem he'
      · exact ⟨hs.count_eq t e' he', hs.members_ne t e' he'⟩
    refine ⟨?_, fun t e' he' => (hcounted t e' he').1, fun t e' he' => (hcounted t e' he').2, ?_⟩
    · intro i k ts hi
      rw [ExtTreeMap.getElem?_erase] at hi
      split at hi
      · cases hi
      · exact hs.key_id i k ts hi
    · intro t k
      simp only [memberSet_eq, getElem?_foldl_alter_tags, filed_erase]
      split
      · -- a tag of the dropped document: its members lose exactly the dropped key
        rw [membersOf_leaveEntry, ← memberSet_eq, ExtTreeSet.mem_erase, ne_eq,
          LawfulEqCmp.compare_eq_iff_eq, hs.mem_iff]
        constructor
        · rintro ⟨hne, hf⟩
          refine ⟨fun hid => hne ?_, hf⟩
          obtain ⟨ts, hts, -⟩ := hf
          rw [hid, h] at hts
          exact (Prod.mk.inj (Option.some.inj hts)).1
        · rintro ⟨hne, hf⟩
          exact ⟨fun hk => hne (hk ▸ hkey), hf⟩
      · -- another tag: the dropped document was not filed under it
        next ht =>
        rw [← memberSet_eq, hs.mem_iff]
        constructor
        · intro hf
          refine ⟨fun hid => ht ?_, hf⟩
          obtain ⟨ts, hts, htag⟩ := hf
          rw [hid, h] at hts
          obtain ⟨-, rfl⟩ := Prod.mk.inj (Option.some.inj hts)
          exact htag
        · exact fun hf => hf.2

/-- Dropping erases the id from the documents. -/
theorem dropDocument_documents {s : IndexState} (hs : s.Consistent) (id : String) :
    (s.dropDocument id).1.documents = s.documents.erase id := by
  cases h : s.documents[id]? with
  | none =>
    rw [dropDocument_of_getElem?_eq_none h]
    ext k : 1
    rw [ExtTreeMap.getElem?_erase]
    split
    · next hk =>
      rw [LawfulEqCmp.compare_eq_iff_eq] at hk
      rw [← hk, h]
    · rfl
  | some v => rw [dropDocument_of_getElem?_eq_some hs h]

/-- Dropping from a consistent state returns the tags the id held and clamps nothing. -/
theorem dropDocument_snd {s : IndexState} (hs : s.Consistent) (id : String) :
    (s.dropDocument id).2 = (s.documents[id]?.map (·.2), 0) := by
  cases h : s.documents[id]? with
  | none => rw [dropDocument_of_getElem?_eq_none h]; rfl
  | some v => rw [dropDocument_of_getElem?_eq_some hs h]; rfl

/-! ## Filing an entry -/

/-- Filing drops what the id held, then adds the entry's key to each of its tags. -/
theorem upsert_eq (s : IndexState) (e : IndexEntry) :
    s.upsert e =
      (⟨e.tags.toList.foldl (fun m t => m.alter t (joinEntry e.key)) (s.dropDocument e.id).1.tags,
        (s.dropDocument e.id).1.documents.insert e.id (e.key, e.tags)⟩, (s.dropDocument e.id).2.2) := by
  have hjoin : joinTag e.key = fun m t => m.alter t (joinEntry e.key) := by
    funext m t
    exact joinTag_eq_alter e.key m t
  unfold upsert
  rcases s.dropDocument e.id with ⟨s1, held, c⟩
  simp [ExtTreeSet.foldl_eq_foldl_toList, hjoin]

/-- **Filing keeps consistency.** After the drop the entry's key is a member of no tag, so
each of the entry's tags gains it as a new member and one count. -/
theorem upsert_consistent {s : IndexState} (hs : s.Consistent) (e : IndexEntry) :
    (s.upsert e).1.Consistent := by
  rw [upsert_eq]
  have hs1 := dropDocument_consistent hs e.id
  have hd1 := dropDocument_documents hs e.id
  generalize (s.dropDocument e.id).1 = s1 at hs1 hd1 ⊢
  -- what is left after the drop is filed under other ids
  have hother : ∀ (t : String) (k : MemberKey), Filed s1.documents t k → k.id ≠ e.id := by
    intro t k hk
    rw [hd1, filed_erase] at hk
    exact hk.1
  have hfresh : ∀ t : String, e.key ∉ membersOf s1.tags[t]? := by
    intro t hk
    rw [← memberSet_eq, hs1.mem_iff] at hk
    exact hother t e.key hk rfl
  -- a tag of the entry gains the fresh key and one count, and stays counted
  have hcounted : ∀ (t : String) (e' : TagEntry), (e.tags.toList.foldl (fun m t => m.alter t (joinEntry e.key)) s1.tags)[t]? = some e' →
      e'.count = e'.members.size ∧ e'.members ≠ ∅ := by
    intro t e' he'
    rw [getElem?_foldl_alter_tags] at he'
    split at he'
    · exact joinEntry_counted (hs1.count_eq t) (hfresh t) he'
    · exact ⟨hs1.count_eq t e' he', hs1.members_ne t e' he'⟩
  refine ⟨?_, fun t e' he' => (hcounted t e' he').1, fun t e' he' => (hcounted t e' he').2, ?_⟩
  · intro i k ts hi
    rw [ExtTreeMap.getElem?_insert] at hi
    split at hi
    · next hid =>
      rw [LawfulEqCmp.compare_eq_iff_eq] at hid
      cases hi
      exact hid
    · exact hs1.key_id i k ts hi
  · intro t k
    simp only [memberSet_eq, getElem?_foldl_alter_tags]
    rw [filed_insert (show e.key.id = e.id from rfl)]
    split
    · next ht =>
      rw [membersOf_joinEntry, ExtTreeSet.mem_insert, LawfulEqCmp.compare_eq_iff_eq,
        ← memberSet_eq, hs1.mem_iff]
      constructor
      · rintro (rfl | hk)
        · exact Or.inl ⟨rfl, ht⟩
        · exact Or.inr ⟨hother t k hk, hk⟩
      · rintro (⟨rfl, -⟩ | ⟨-, hk⟩)
        · exact Or.inl rfl
        · exact Or.inr hk
    · next ht =>
      rw [← memberSet_eq, hs1.mem_iff]
      constructor
      · intro hk
        exact Or.inr ⟨hother t k hk, hk⟩
      · rintro (⟨-, htag⟩ | ⟨-, hk⟩)
        · exact absurd htag ht
        · exact hk

/-- Filing sets the id's document to the entry's key and tags. -/
theorem upsert_documents {s : IndexState} (hs : s.Consistent) (e : IndexEntry) :
    (s.upsert e).1.documents = s.documents.insert e.id (e.key, e.tags) := by
  rw [upsert_eq]
  simp only [dropDocument_documents hs]
  ext k : 1
  simp only [ExtTreeMap.getElem?_insert, ExtTreeMap.getElem?_erase]
  split <;> simp_all

/-- Filing into a consistent state clamps nothing. -/
theorem upsert_snd {s : IndexState} (hs : s.Consistent) (e : IndexEntry) : (s.upsert e).2 = 0 := by
  rw [upsert_eq, dropDocument_snd hs]

/-! ## Building -/

theorem consistent_empty : ({} : IndexState).Consistent := by
  refine ⟨?_, ?_, ?_, ?_⟩ <;> simp [memberSet, Filed]

/-- Filing entries one by one keeps consistency and files each in the documents map. -/
theorem foldl_upsert_consistent (es : List IndexEntry) {s : IndexState} (hs : s.Consistent) :
    (es.foldl (fun s e => (s.upsert e).1) s).Consistent ∧
      (es.foldl (fun s e => (s.upsert e).1) s).documents =
        es.foldl (fun m e => m.insert e.id (e.key, e.tags)) s.documents := by
  induction es generalizing s with
  | nil => exact ⟨hs, rfl⟩
  | cons e es ih =>
    simp only [List.foldl_cons]
    rw [← upsert_documents hs e]
    exact ih (upsert_consistent hs e)

theorem buildSequential_consistent (es : List IndexEntry) :
    (buildSequential es).Consistent ∧ (buildSequential es).documents = documentsOf es :=
  foldl_upsert_consistent es consistent_empty

/-- Add one document's key to the groups of its tags. -/
def groupKey (g : ExtTreeMap String Membership compare) (key : MemberKey) (tags : TagSet) :
    ExtTreeMap String Membership compare :=
  tags.foldl (fun g tag => g.insert tag ((g.getD tag ∅).insert key)) g

/-- The grouped build groups the keys of the documents map by tag and counts each group. -/
theorem buildGrouped_eq (es : List IndexEntry) :
    buildGrouped es =
      ⟨((documentsOf es).toList.foldl (fun g p => groupKey g p.2.1 p.2.2) ∅).map
        (fun _ ms => ⟨ms.size, ms⟩), documentsOf es⟩ := by
  simp only [buildGrouped, ExtTreeMap.foldl_eq_foldl_toList]
  rfl

theorem getElem?_groupKey (g : ExtTreeMap String Membership compare) (key : MemberKey)
    (tags : TagSet) (t : String) :
    (groupKey g key tags)[t]? = if t ∈ tags then some ((g[t]?.getD ∅).insert key) else g[t]? := by
  have hstep : (fun (g : ExtTreeMap String Membership compare) tag => g.insert tag ((g.getD tag ∅).insert key)) =
      fun g tag => g.alter tag fun o => some ((o.getD ∅).insert key) := by
    funext g tag
    ext k : 1
    simp only [ExtTreeMap.getElem?_insert, ExtTreeMap.getElem?_alter, ExtTreeMap.getD_eq_getD_getElem?,
      LawfulEqCmp.compare_eq_iff_eq]
  rw [groupKey, ExtTreeSet.foldl_eq_foldl_toList, hstep, getElem?_foldl_alter_tags]

/-- A key is in a tag's group after grouping a list of documents when it was there before
or one of the documents has it and the tag. -/
theorem mem_foldl_groupKey (l : List (String × (MemberKey × TagSet)))
    (g : ExtTreeMap String Membership compare) (t : String) (k : MemberKey) :
    k ∈ ((l.foldl (fun g p => groupKey g p.2.1 p.2.2) g)[t]?).getD ∅ ↔
      k ∈ (g[t]?).getD ∅ ∨ ∃ p ∈ l, p.2.1 = k ∧ t ∈ p.2.2 := by
  induction l generalizing g with
  | nil => simp
  | cons p l ih =>
    rw [List.foldl_cons, ih, getElem?_groupKey]
    simp only [List.mem_cons, exists_eq_or_imp]
    split
    · next ht =>
      simp only [Option.getD_some, ExtTreeSet.mem_insert, LawfulEqCmp.compare_eq_iff_eq, ht,
        and_true]
      constructor
      · rintro ((rfl | hk) | hl)
        · exact Or.inr (Or.inl rfl)
        · exact Or.inl hk
        · exact Or.inr (Or.inr hl)
      · rintro (hk | rfl | hl)
        · exact Or.inl (Or.inr hk)
        · exact Or.inl (Or.inl rfl)
        · exact Or.inr hl
    · next ht => simp [ht]

/-- Grouping never makes an empty group. -/
theorem ne_empty_foldl_groupKey (l : List (String × (MemberKey × TagSet)))
    (g : ExtTreeMap String Membership compare)
    (hg : ∀ (t : String) (ms : Membership), g[t]? = some ms → ms ≠ ∅)
    (t : String) (ms : Membership) (h : (l.foldl (fun g p => groupKey g p.2.1 p.2.2) g)[t]? = some ms) :
    ms ≠ ∅ := by
  induction l generalizing g with
  | nil => exact hg t ms h
  | cons p l ih =>
    refine ih _ ?_ h
    intro t' ms' h'
    rw [getElem?_groupKey] at h'
    split at h'
    · cases h'
      exact ExtTreeSet.insert_ne_empty
    · exact hg t' ms' h'

theorem buildGrouped_consistent (es : List IndexEntry) :
    (buildGrouped es).Consistent ∧ (buildGrouped es).documents = documentsOf es := by
  -- the documents map is the sequential build's, whose keys carry their ids
  have hkey := (buildSequential_consistent es).1.key_id
  rw [(buildSequential_consistent es).2] at hkey
  rw [buildGrouped_eq]
  refine ⟨⟨hkey, ?_, ?_, ?_⟩, rfl⟩
  · intro t e he
    simp only [ExtTreeMap.getElem?_map, Option.map_eq_some_iff] at he
    obtain ⟨ms, -, rfl⟩ := he
    rfl
  · intro t e he
    simp only [ExtTreeMap.getElem?_map, Option.map_eq_some_iff] at he
    obtain ⟨ms, hms, rfl⟩ := he
    exact ne_empty_foldl_groupKey _ ∅ (by simp) t ms hms
  · intro t k
    have hgroup : ∀ o : Option Membership,
        membersOf (o.map fun ms => (⟨ms.size, ms⟩ : TagEntry)) = o.getD ∅ := by
      intro o
      cases o <;> rfl
    simp only [memberSet_eq, ExtTreeMap.getElem?_map, hgroup, mem_foldl_groupKey]
    simp only [ExtTreeMap.getElem?_empty, Option.getD_none, ExtTreeSet.not_mem_empty, false_or,
      Filed]
    constructor
    · rintro ⟨⟨id, k', ts⟩, hp, rfl, ht⟩
      rw [ExtTreeMap.mem_toList_iff_getElem?_eq_some] at hp
      rw [hkey id k' ts hp]
      exact ⟨ts, hp, ht⟩
    · rintro ⟨ts, hk, ht⟩
      exact ⟨(k.id, k, ts), ExtTreeMap.mem_toList_iff_getElem?_eq_some.2 hk, rfl, ht⟩

/-- **Both builds give the consistent state of `documentsOf`.** -/
theorem build_consistent (es : List IndexEntry) :
    (build es).Consistent ∧ (build es).documents = documentsOf es := by
  unfold build
  split
  · exact buildSequential_consistent es
  · exact buildGrouped_consistent es

/-! ## What a rebuild reports -/

/-- A consistent state has no tag whose count drifted from its membership. -/
theorem Consistent.inconsistentTags_eq_nil {s : IndexState} (hs : s.Consistent) :
    s.inconsistentTags = [] := by
  rw [inconsistentTags, List.map_eq_nil_iff, List.filter_eq_nil_iff]
  rintro ⟨tag, e⟩ he
  rw [ExtTreeMap.mem_toList_iff_getElem?_eq_some] at he
  simp [hs.count_eq tag e he]

/-- Rebuilding a state into itself changes no count. -/
theorem changedTags_self (s : IndexState) : changedTags s s = 0 := by
  have hnew : s.tags.keys.filter (fun tag => !s.tags.contains tag) = [] := by
    rw [List.filter_eq_nil_iff]
    intro tag htag
    simp [ExtTreeMap.contains_keys.symm.trans (List.elem_iff.2 htag)]
  -- every tag of the old state is found with its own count
  simp only [changedTags, hnew, List.length_nil, Nat.add_zero, List.length_eq_zero_iff,
    List.filter_eq_nil_iff]
  rintro ⟨tag, e⟩ he
  rw [ExtTreeMap.mem_toList_iff_getElem?_eq_some] at he
  simp [he]

end IndexState

end TagStore
