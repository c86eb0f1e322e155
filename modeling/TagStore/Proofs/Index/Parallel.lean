import TagStore.Proofs.Index.Consistent
/-!
# Proofs.Index.Parallel

From 4096 entries on, a full build does not file the entries one by one. It keeps the
last entry of each id in a documents map, has worker threads group the documents' keys
by tag, collects each group into a membership and counts it. The workers split the
documents as they please: each folds a chunk of them, in whatever order the map yields
them, into a grouping of its own that starts empty, and the groupings are merged
pairwise, the right one's groups appended to the left one's, until one is left. A
`Split` is one such schedule: its leaves are the chunks and its nodes the merges.

Whatever the schedule, the result is the sequential build (`buildSplit_eq_buildSequential`).
Every schedule groups a key under exactly the tags of its document (`mem_groupSplit`)
and never makes an empty group (`GroupsNonempty`), so the state it gives is consistent
and holds the documents of `documentsOf`; a consistent state is a function of its
documents. The grouped build the library runs is one more way of grouping the same
documents, and so it too is the sequential build (`buildGrouped_eq_buildSequential`).
-/

namespace TagStore

open Std

/-- A tree set collected from a list holds exactly the list's elements. -/
theorem ExtTreeSet.mem_ofList_iff {α : Type} {cmp : α → α → Ordering} [TransCmp cmp]
    [LawfulEqCmp cmp] {l : List α} {k : α} : k ∈ ExtTreeSet.ofList l cmp ↔ k ∈ l := by
  classical
  -- the library states it for a boolean equality that agrees with the order: take `=`
  let : BEq α := instBEqOfDecidableEq
  have : LawfulBEqCmp cmp := ⟨by simp [LawfulEqCmp.compare_eq_iff_eq]⟩
  rw [ExtTreeSet.mem_ofList, List.contains_iff_mem]

/-! ## Schedules of a parallel fold -/

/-- How a parallel fold and reduce splits its input: chunks, each folded alone from an
empty accumulator, and pairs of results merged into one. -/
inductive Split (α : Type) where
  | chunk (items : List α)
  | join (left right : Split α)

/-- The items of a schedule, left to right. -/
def Split.items {α : Type} : Split α → List α
  | .chunk xs => xs
  | .join l r => l.items ++ r.items

namespace IndexState

/-- Member keys grouped by tag, each group in the order its keys were pushed. -/
abbrev Grouping := ExtTreeMap String (List MemberKey) compare

/-- Append keys to one tag's group, a new tag starting from an empty group. -/
def addKeys (g : Grouping) (tag : String) (keys : List MemberKey) : Grouping :=
  g.insert tag (g.getD tag [] ++ keys)

/-- Fold one chunk of documents: push each document's key onto the group of each of its
tags. -/
def groupChunk (docs : List (String × (MemberKey × TagSet))) : Grouping :=
  docs.foldl (fun g p => p.2.2.foldl (fun g tag => addKeys g tag [p.2.1]) g) ∅

/-- Merge two groupings: append each group of the right one to the left one's group of
the same tag. -/
def mergeGroups (left right : Grouping) : Grouping :=
  right.foldl addKeys left

/-- The grouping a schedule computes. -/
def groupSplit : Split (String × (MemberKey × TagSet)) → Grouping
  | .chunk docs => groupChunk docs
  | .join l r => mergeGroups (groupSplit l) (groupSplit r)

/-- The index state of a schedule over a documents map: each group collected into a
membership and counted. -/
def buildSplit (documents : ExtTreeMap String (MemberKey × TagSet) compare)
    (s : Split (String × (MemberKey × TagSet))) : IndexState :=
  ⟨(groupSplit s).map fun _ keys =>
      ⟨(ExtTreeSet.ofList keys MemberKey.order).size, ExtTreeSet.ofList keys MemberKey.order⟩,
    documents⟩

/-! ## What a group holds -/

theorem getD_addKeys (g : Grouping) (tag t : String) (keys : List MemberKey) :
    (addKeys g tag keys).getD t [] = if t = tag then g.getD t [] ++ keys else g.getD t [] := by
  rw [addKeys, ExtTreeMap.getD_insert]
  by_cases h : t = tag
  · subst h
    simp
  · simp [LawfulEqCmp.compare_eq_iff_eq, Ne.symm h, h]

/-- Appending a list of groups: a key ends up in a tag's group when it was there or one
of the appended groups of that tag has it. -/
theorem mem_foldl_addKeys (l : List (String × List MemberKey)) (g : Grouping) (t : String)
    (k : MemberKey) :
    k ∈ (l.foldl (fun g p => addKeys g p.1 p.2) g).getD t [] ↔
      k ∈ g.getD t [] ∨ ∃ p ∈ l, p.1 = t ∧ k ∈ p.2 := by
  induction l generalizing g with
  | nil => simp
  | cons p l ih =>
    rw [List.foldl_cons, ih, getD_addKeys]
    by_cases h : t = p.1
    · subst h
      simp only [if_true, List.mem_append, List.mem_cons, exists_eq_or_imp, true_and]
      exact or_assoc
    · simp [h, Ne.symm h]

/-- Pushing one key onto several tags appends a one-key group to each of them. -/
theorem foldl_pushKey_eq (key : MemberKey) (tags : List String) (g : Grouping) :
    tags.foldl (fun g tag => addKeys g tag [key]) g =
      (tags.map fun tag => (tag, [key])).foldl (fun g q => addKeys g q.1 q.2) g := by
  rw [List.foldl_map]

theorem mem_foldl_pushKey (key : MemberKey) (tags : List String) (g : Grouping) (t : String)
    (k : MemberKey) :
    k ∈ (tags.foldl (fun g tag => addKeys g tag [key]) g).getD t [] ↔
      k ∈ g.getD t [] ∨ (key = k ∧ t ∈ tags) := by
  rw [foldl_pushKey_eq, mem_foldl_addKeys]
  simp only [List.mem_map]
  constructor
  · rintro (hg | ⟨_, ⟨tag, htag, rfl⟩, rfl, hk⟩)
    · exact Or.inl hg
    · exact Or.inr ⟨(List.mem_singleton.1 hk).symm, htag⟩
  · rintro (hg | ⟨rfl, htag⟩)
    · exact Or.inl hg
    · exact Or.inr ⟨(t, [key]), ⟨t, htag, rfl⟩, rfl, List.mem_singleton_self key⟩

theorem mem_mergeGroups (left right : Grouping) (t : String) (k : MemberKey) :
    k ∈ (mergeGroups left right).getD t [] ↔ k ∈ left.getD t [] ∨ k ∈ right.getD t [] := by
  rw [mergeGroups, ExtTreeMap.foldl_eq_foldl_toList, mem_foldl_addKeys]
  -- the groups of `right` listed in order are its groups by tag
  have hright : (∃ p ∈ right.toList, p.1 = t ∧ k ∈ p.2) ↔ k ∈ right.getD t [] := by
    rw [ExtTreeMap.getD_eq_getD_getElem?]
    constructor
    · rintro ⟨⟨t', keys⟩, hp, rfl, hk⟩
      rw [ExtTreeMap.mem_toList_iff_getElem?_eq_some] at hp
      simpa [hp] using hk
    · intro hk
      cases hkeys : right[t]? with
      | none => simp [hkeys] at hk
      | some keys =>
        rw [hkeys, Option.getD_some] at hk
        exact ⟨(t, keys), ExtTreeMap.mem_toList_iff_getElem?_eq_some.2 hkeys, rfl, hk⟩
  rw [hright]

/-- A chunk groups a key under exactly the tags of the documents of the chunk that have
it. -/
theorem mem_groupChunk (docs : List (String × (MemberKey × TagSet))) (t : String) (k : MemberKey) :
    k ∈ (groupChunk docs).getD t [] ↔ ∃ p ∈ docs, p.2.1 = k ∧ t ∈ p.2.2 := by
  have hstep : ∀ (g : Grouping),
      k ∈ (docs.foldl (fun g p => p.2.2.foldl (fun g tag => addKeys g tag [p.2.1]) g) g).getD t [] ↔
        k ∈ g.getD t [] ∨ ∃ p ∈ docs, p.2.1 = k ∧ t ∈ p.2.2 := by
    induction docs with
    | nil => simp
    | cons p docs ih =>
      intro g
      rw [List.foldl_cons, ih, ExtTreeSet.foldl_eq_foldl_toList, mem_foldl_pushKey,
        ExtTreeSet.mem_toList]
      simp only [List.mem_cons, exists_eq_or_imp]
      exact or_assoc
  rw [groupChunk, hstep]
  simp

/-- **Every schedule groups a key under exactly the tags of its document**, whichever way
the documents were split into chunks and the chunks' groupings merged. -/
theorem mem_groupSplit (s : Split (String × (MemberKey × TagSet))) (t : String) (k : MemberKey) :
    k ∈ (groupSplit s).getD t [] ↔ ∃ p ∈ s.items, p.2.1 = k ∧ t ∈ p.2.2 := by
  induction s with
  | chunk docs => exact mem_groupChunk docs t k
  | join l r ihl ihr =>
    rw [groupSplit, mem_mergeGroups, ihl, ihr, Split.items]
    simp only [List.mem_append, or_and_right, exists_or]

/-! ## No empty group -/

/-- Every group of a grouping holds a key. -/
def GroupsNonempty (g : Grouping) : Prop := ∀ (t : String) (keys : List MemberKey), g[t]? = some keys → keys ≠ []

theorem groupsNonempty_empty : GroupsNonempty ∅ := by
  intro t keys h
  simp at h

theorem GroupsNonempty.addKeys {g : Grouping} (hg : GroupsNonempty g) (tag : String)
    {keys : List MemberKey} (hkeys : keys ≠ []) : GroupsNonempty (addKeys g tag keys) := by
  intro t ks h
  rw [IndexState.addKeys, ExtTreeMap.getElem?_insert] at h
  split at h
  · cases h
    simp [hkeys]
  · exact hg t ks h

theorem GroupsNonempty.foldl_addKeys {g : Grouping} (hg : GroupsNonempty g)
    (l : List (String × List MemberKey)) (hl : ∀ p ∈ l, p.2 ≠ []) :
    GroupsNonempty (l.foldl (fun g p => IndexState.addKeys g p.1 p.2) g) := by
  induction l generalizing g with
  | nil => exact hg
  | cons p l ih =>
    rw [List.foldl_cons]
    exact ih (hg.addKeys p.1 (hl p List.mem_cons_self)) fun q hq => hl q (List.mem_cons_of_mem p hq)

theorem groupsNonempty_groupSplit (s : Split (String × (MemberKey × TagSet))) :
    GroupsNonempty (groupSplit s) := by
  induction s with
  | chunk docs =>
    rw [groupSplit, groupChunk]
    -- each document appends singletons, so every accumulator stays free of empty groups
    have hstep : ∀ (l : List (String × (MemberKey × TagSet))) (g : Grouping), GroupsNonempty g →
        GroupsNonempty (l.foldl (fun g p => p.2.2.foldl (fun g tag => IndexState.addKeys g tag [p.2.1]) g) g) := by
      intro l
      induction l with
      | nil => exact fun _ hg => hg
      | cons p l ih =>
        intro g hg
        rw [List.foldl_cons]
        refine ih _ ?_
        rw [ExtTreeSet.foldl_eq_foldl_toList, foldl_pushKey_eq]
        exact hg.foldl_addKeys _ (by simp)
    exact hstep docs ∅ groupsNonempty_empty
  | join l r ihl ihr =>
    rw [groupSplit, mergeGroups, ExtTreeMap.foldl_eq_foldl_toList]
    refine ihl.foldl_addKeys _ ?_
    rintro ⟨t, keys⟩ hp
    exact ihr t keys (ExtTreeMap.mem_toList_iff_getElem?_eq_some.1 hp)

/-! ## Every schedule builds the sequential state -/

variable {es : List IndexEntry} {s : Split (String × (MemberKey × TagSet))}

/-- A schedule over the entries of the documents map builds a consistent state with that
map as its documents. -/
theorem buildSplit_consistent (hs : s.items.Perm (documentsOf es).toList) :
    (buildSplit (documentsOf es) s).Consistent := by
  -- the documents map is the sequential build's, whose keys carry their ids
  have hkey := (buildSequential_consistent es).1.key_id
  rw [(buildSequential_consistent es).2] at hkey
  refine ⟨hkey, ?_, ?_, ?_⟩
  · intro t e he
    simp only [buildSplit, ExtTreeMap.getElem?_map, Option.map_eq_some_iff] at he
    obtain ⟨keys, -, rfl⟩ := he
    rfl
  · intro t e he
    simp only [buildSplit, ExtTreeMap.getElem?_map, Option.map_eq_some_iff] at he
    obtain ⟨keys, hkeys, rfl⟩ := he
    obtain ⟨k, hk⟩ := List.exists_mem_of_ne_nil keys (groupsNonempty_groupSplit s t keys hkeys)
    exact ExtTreeSet.ne_empty_of_mem (ExtTreeSet.mem_ofList_iff.2 hk)
  · intro t k
    have hmembers : memberSet (buildSplit (documentsOf es) s) t =
        ExtTreeSet.ofList ((groupSplit s).getD t []) MemberKey.order := by
      rw [memberSet, buildSplit, ExtTreeMap.getElem?_map, ExtTreeMap.getD_eq_getD_getElem?]
      cases (groupSplit s)[t]? <;> rfl
    rw [hmembers, ExtTreeSet.mem_ofList_iff, mem_groupSplit]
    simp only [hs.mem_iff, Filed]
    constructor
    · rintro ⟨⟨id, k', tags⟩, hp, rfl, ht⟩
      rw [ExtTreeMap.mem_toList_iff_getElem?_eq_some] at hp
      rw [hkey id k' tags hp]
      exact ⟨tags, hp, ht⟩
    · rintro ⟨tags, hk, ht⟩
      exact ⟨(k.id, k, tags), ExtTreeMap.mem_toList_iff_getElem?_eq_some.2 hk, rfl, ht⟩

/-- **Every schedule of the parallel build gives the sequential build**: whatever order
the documents map yields its entries in, however they are cut into chunks and in whatever
tree the chunks' groupings are merged. -/
theorem buildSplit_eq_buildSequential (hs : s.items.Perm (documentsOf es).toList) :
    buildSplit (documentsOf es) s = buildSequential es :=
  Consistent.ext (buildSplit_consistent hs) (buildSequential_consistent es).1
    (buildSequential_consistent es).2.symm

theorem buildGrouped_eq_buildSequential (es : List IndexEntry) :
    buildGrouped es = buildSequential es :=
  Consistent.ext (buildGrouped_consistent es).1 (buildSequential_consistent es).1
    ((buildGrouped_consistent es).2.trans (buildSequential_consistent es).2.symm)

/-- **The parallel build is the sequential one**: the grouped build the library runs from
4096 entries on, and every other schedule of the parallel fold and merge over the
documents map, give the state of filing the entries one by one. -/
theorem parallel_build_eq_sequential (es : List IndexEntry) :
    buildGrouped es = buildSequential es ∧
      ∀ s : Split (String × (MemberKey × TagSet)), s.items.Perm (documentsOf es).toList →
        buildSplit (documentsOf es) s = buildSequential es :=
  ⟨buildGrouped_eq_buildSequential es, fun _ hs => buildSplit_eq_buildSequential hs⟩

/-- Id `a` filed twice and `b` once: the two documents cut into two chunks merged in the
other order than the map yields them give the sequential build. -/
theorem parallel_build_eq_sequential_two_chunks :
    (Split.join (.chunk [("b", (⟨2, 2, "b"⟩, ExtTreeSet.ofList ["t", "u"] compare))])
        (.chunk [("a", (⟨3, 3, "a"⟩, ExtTreeSet.ofList ["u"] compare))])).items.Perm
      (documentsOf [⟨"a", ExtTreeSet.ofList ["t"] compare, 1, 1⟩,
        ⟨"b", ExtTreeSet.ofList ["t", "u"] compare, 2, 2⟩, ⟨"a", ExtTreeSet.ofList ["u"] compare, 3, 3⟩]).toList ∧
    buildSplit (documentsOf [⟨"a", ExtTreeSet.ofList ["t"] compare, 1, 1⟩,
        ⟨"b", ExtTreeSet.ofList ["t", "u"] compare, 2, 2⟩, ⟨"a", ExtTreeSet.ofList ["u"] compare, 3, 3⟩])
      (.join (.chunk [("b", (⟨2, 2, "b"⟩, ExtTreeSet.ofList ["t", "u"] compare))])
        (.chunk [("a", (⟨3, 3, "a"⟩, ExtTreeSet.ofList ["u"] compare))])) =
      buildSequential [⟨"a", ExtTreeSet.ofList ["t"] compare, 1, 1⟩,
        ⟨"b", ExtTreeSet.ofList ["t", "u"] compare, 2, 2⟩, ⟨"a", ExtTreeSet.ofList ["u"] compare, 3, 3⟩] := by
  -- the map yields `a` (its last entry) before `b`
  have hperm : (Split.join (.chunk [("b", (⟨2, 2, "b"⟩, ExtTreeSet.ofList ["t", "u"] compare))])
        (.chunk [("a", (⟨3, 3, "a"⟩, ExtTreeSet.ofList ["u"] compare))])).items.Perm
      (documentsOf [⟨"a", ExtTreeSet.ofList ["t"] compare, 1, 1⟩,
        ⟨"b", ExtTreeSet.ofList ["t", "u"] compare, 2, 2⟩, ⟨"a", ExtTreeSet.ofList ["u"] compare, 3, 3⟩]).toList :=
    List.Perm.swap _ _ []
  exact ⟨hperm, (parallel_build_eq_sequential _).2 _ hperm⟩

end IndexState

end TagStore
