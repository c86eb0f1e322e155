import Mathlib.Data.List.Nodup
import TagStore.Storage.Files
/-!
# Proofs.Storage.Files

Paths as text, and what a file tree holds and lists once files are written.

A path of valid components (not empty, not `.` or `..`, without `/`) is read back from its
text (`Path.ofText_text`), so two such paths with one text are one path; and every path read
from a text has valid components (`Path.valid_ofText`). A name with an extension after a `.`
has that extension (`Path.extension?_append`).

A file tree keys its entries by the text of their paths. Writing a file below directories
that stand, where no directory stands, puts the file under its path and nothing else
(`FileTree.write_eq`); a directory lists a name exactly when some entry's key reads as the
path of that name in it (`FileTree.mem_children_iff`).

Paths are ordered as lists of components (`Path.order_eq_compareLex`), so a sort lists them
in order, strictly when none repeats (`Path.pairwise_lt_sort`). In a tree whose keys are the
texts of their paths (`FileTree.WellKeyed`, which writing files at paths of valid components
keeps: `FileTree.WellKeyed.write`), the files below a directory are exactly the
paths from it, at any depth, at which a file stands (`FileTree.mem_filesBelow_iff`), in
strictly increasing order (`FileTree.pairwise_lt_filesBelow`).
-/

namespace TagStore

open Std

namespace Path

/-- A component that a path's text gives back: not empty, not `.` or `..`, and without `/`. -/
def ValidComponent (c : String) : Prop := c ≠ "" ∧ c ≠ "." ∧ c ≠ ".." ∧ '/' ∉ c.toList

/-- Every component of the path is valid. -/
def Valid (p : Path) : Prop := ∀ c ∈ p, ValidComponent c

theorem Valid.append {p q : Path} (hp : p.Valid) (hq : q.Valid) : (p ++ q).Valid := by
  intro c hc
  rcases List.mem_append.1 hc with hc | hc
  · exact hp c hc
  · exact hq c hc

theorem Valid.append_component {p : Path} (hp : p.Valid) {c : String} (hc : ValidComponent c) :
    (p ++ [c]).Valid :=
  hp.append fun _ hc' => List.mem_singleton.1 hc' ▸ hc

/-- Resolving components appends each one, a `..` taking back the last; with no `..`, all of
them. -/
theorem foldl_resolve_of_forall_ne (l : List String) (hl : ∀ c ∈ l, c ≠ "..") (acc : Path) :
    l.foldl (fun p c => if c == ".." then p.dropLast else p ++ [c]) acc = acc ++ l := by
  induction l generalizing acc with
  | nil => simp
  | cons c l ih =>
    have hc : (c == "..") = false := by simpa using hl c List.mem_cons_self
    rw [List.foldl_cons, hc, if_neg Bool.false_ne_true, ih fun c' hc' => hl c' (List.mem_cons_of_mem _ hc')]
    simp

/-- Resolving components keeps only components given, and none of them `..`. -/
theorem mem_foldl_resolve {c : String} :
    ∀ (l : List String) (acc : Path), c ∈ l.foldl (fun p c => if c == ".." then p.dropLast else p ++ [c]) acc →
      c ∈ acc ∨ (c ∈ l ∧ c ≠ "..")
  | [], _, hc => .inl hc
  | c' :: l, acc, hc => by
    rw [List.foldl_cons] at hc
    rcases mem_foldl_resolve l _ hc with hacc | ⟨hl, hne⟩
    · split at hacc
      · exact .inl ((List.dropLast_prefix _).subset hacc)
      · next hc' =>
        rcases List.mem_append.1 hacc with hacc | hacc
        · exact .inl hacc
        · rw [List.mem_singleton] at hacc
          subst hacc
          exact .inr ⟨List.mem_cons_self, by simpa using hc'⟩
    · exact .inr ⟨List.mem_cons_of_mem _ hl, hne⟩

/-- No piece of a split holds the character split on. -/
theorem not_mem_of_mem_splitOn {x : Char} :
    ∀ {s w : List Char}, w ∈ s.splitOn x → x ∉ w
  | [], w, hw => by
    rw [List.splitOn_nil, List.mem_singleton] at hw
    subst hw
    exact List.not_mem_nil
  | y :: ys, w, hw => by
    rw [List.splitOn_cons_eq_if_modifyHead] at hw
    split at hw
    · rcases List.mem_cons.1 hw with rfl | hw
      · exact List.not_mem_nil
      · exact not_mem_of_mem_splitOn hw
    · next hy =>
      obtain ⟨r, rs, hr⟩ := List.exists_cons_of_ne_nil (List.splitOn_ne_nil x ys)
      rw [hr, List.modifyHead_cons] at hw
      rcases List.mem_cons.1 hw with rfl | hw
      · intro hx
        rcases List.mem_cons.1 hx with rfl | hx
        · exact hy (by simp)
        · exact not_mem_of_mem_splitOn (hr ▸ List.mem_cons_self) hx
      · exact not_mem_of_mem_splitOn (hr ▸ List.mem_cons_of_mem _ hw)

/-- Every path read from a text has valid components. -/
theorem valid_ofText (s : String) : (ofText s).Valid := by
  intro c hc
  rcases mem_foldl_resolve _ [] hc with hnil | ⟨hmem, hdots⟩
  · cases hnil
  · obtain ⟨hsplit, hkeep⟩ := List.mem_filter.1 hmem
    obtain ⟨w, hw, rfl⟩ := List.mem_map.1 hsplit
    have hkeep' : String.ofList w ≠ "" ∧ String.ofList w ≠ "." := by simpa using hkeep
    refine ⟨hkeep'.1, hkeep'.2, hdots, ?_⟩
    rw [String.toList_ofList]
    exact not_mem_of_mem_splitOn hw

/-- **A path of valid components is read back from its text.** -/
theorem ofText_text {p : Path} (hp : p.Valid) : ofText p.text = p := by
  unfold ofText text
  rw [String.toList_intercalate]
  cases p with
  | nil => rfl
  | cons c cs =>
    have hsep : ∀ l ∈ (c :: cs).map String.toList, '/' ∉ l := by
      intro l hl
      obtain ⟨c', hc', rfl⟩ := List.mem_map.1 hl
      exact (hp c' hc').2.2.2
    rw [show "/".toList = ['/'] from rfl, List.splitOn_intercalate '/' hsep (by simp), List.map_map]
    have hback : (String.ofList ∘ String.toList) = id := funext fun _ => String.ofList_toList
    have hkeep : ((c :: cs).filter fun c => c != "" && c != ".") = c :: cs := by
      refine List.filter_eq_self.2 fun c' hc' => ?_
      simpa using And.intro (hp c' hc').1 (hp c' hc').2.1
    rw [hback, List.map_id, hkeep, foldl_resolve_of_forall_ne _ (fun c' hc' => (hp c' hc').2.2.1), List.nil_append]

theorem text_inj {p q : Path} (hp : p.Valid) (hq : q.Valid) (h : p.text = q.text) : p = q := by
  rw [← ofText_text hp, ← ofText_text hq, h]

/-- A path of a name in a directory, as a listing reads it: one component longer than the
directory, with the directory in front and the name last. -/
theorem listed_eq_some_iff {q dir : Path} {n : String} :
    (if q.length == dir.length + 1 && q.take dir.length == dir then q.getLast? else none) = some n ↔
      q = dir ++ [n] := by
  constructor
  · intro h
    split at h
    · next hcond =>
      simp only [Bool.and_eq_true, beq_iff_eq] at hcond
      have hq : q = q.take dir.length ++ q.drop dir.length := (List.take_append_drop _ _).symm
      rw [hcond.2] at hq
      have hlen : (q.drop dir.length).length = 1 := by
        rw [List.length_drop]
        omega
      obtain ⟨x, hx⟩ := List.length_eq_one_iff.1 hlen
      rw [hx] at hq
      rw [hq, List.getLast?_append, List.getLast?_singleton, Option.some_or, Option.some.injEq] at h
      rw [hq, h]
    · cases h
  · rintro rfl
    simp

/-! ## Paths in order -/

/-- Paths are ordered as lists of components, each component by its text. -/
theorem order_eq_compareLex : order = List.compareLex compare := by
  funext a b
  induction a generalizing b with
  | nil => cases b <;> rfl
  | cons x xs ih =>
    cases b with
    | nil => rfl
    | cons y ys =>
      rw [order, List.compareLex_cons_cons, ← ih]
      cases compare x y <;> rfl

/-- A common directory in front does not change the order of two paths. -/
theorem order_append_left (p a b : Path) : order (p ++ a) (p ++ b) = order a b := by
  induction p with
  | nil => rfl
  | cons c p ih =>
    have hc : compare c c = .eq := ReflCmp.compare_self
    rw [List.cons_append, List.cons_append, order, hc]
    exact ih

theorem mem_sort {ps : List Path} {p : Path} : p ∈ sort ps ↔ p ∈ ps :=
  List.mem_mergeSort

/-- Sorted paths come in order: none is after a path that follows it. -/
theorem pairwise_sort (ps : List Path) : (sort ps).Pairwise fun a b => (order a b).isLE := by
  have hle : ∀ a b, (order a b != .gt) = (order a b).isLE := fun a b => by cases order a b <;> rfl
  have htrans : ∀ a b c, (order a b != .gt) = true → (order b c != .gt) = true → (order a c != .gt) = true := by
    intro a b c hab hbc
    rw [hle, order_eq_compareLex] at hab hbc ⊢
    exact TransCmp.isLE_trans hab hbc
  have htotal : ∀ a b, ((order a b != .gt) || (order b a != .gt)) = true := by
    intro a b
    rw [hle, hle, Bool.or_eq_true, order_eq_compareLex]
    rcases hab : List.compareLex compare a b with _ | _ | _
    · simp
    · simp
    · rw [OrientedCmp.gt_iff_lt] at hab
      simp [hab]
  exact (List.pairwise_mergeSort htrans htotal ps).imp fun h => by rwa [hle] at h

/-- Distinct paths, sorted, come in strictly increasing order. -/
theorem pairwise_lt_sort {ps : List Path} (h : ps.Nodup) : (sort ps).Pairwise fun a b => order a b = .lt := by
  have hnodup : (sort ps).Nodup := (List.mergeSort_perm ps _).nodup_iff.2 h
  refine ((pairwise_sort ps).and hnodup).imp ?_
  rintro a b ⟨hle, hne⟩
  rcases Ordering.isLE_iff_eq_lt_or_eq_eq.1 hle with hlt | heq
  · exact hlt
  · rw [order_eq_compareLex] at heq
    exact absurd (LawfulEqCmp.compare_eq_iff_eq.1 heq) hne

end Path

namespace FileTree

variable {t : FileTree}

/-- Below the top directory, what stands at a path is the entry under its text. -/
theorem lookup_of_ne_nil {p : Path} (hp : p ≠ []) : t.lookup p = t.entries[p.text]? := by
  simp [lookup, List.isEmpty_eq_false_iff.2 hp]

/-- **A directory lists a name** when the key of some entry reads as the path of that name in
it. -/
theorem mem_children_iff {dir : Path} {n : String} :
    n ∈ t.children dir ↔ ∃ k, k ∈ t.entries ∧ Path.ofText k = dir ++ [n] := by
  simp only [children, all, List.mem_filterMap, List.mem_map, Prod.exists, Path.listed_eq_some_iff]
  constructor
  · rintro ⟨q, e, ⟨k, e', hk, hq⟩, rfl⟩
    simp only [Prod.mk.injEq] at hq
    have hget := ExtTreeMap.mem_toList_iff_getElem?_eq_some.1 hk
    exact ⟨k, ExtTreeMap.isSome_getElem?_iff_mem.1 (by rw [hget]; rfl), hq.1⟩
  · rintro ⟨k, hk, hq⟩
    obtain ⟨e, he⟩ := Option.isSome_iff_exists.1 (ExtTreeMap.isSome_getElem?_iff_mem.2 hk)
    exact ⟨_, e, ⟨k, e, ExtTreeMap.mem_toList_iff_getElem?_eq_some.2 he, rfl⟩, hq⟩

/-! ## Files below a directory -/

/-- Every entry is keyed by the text of the path it reads as, so that no two keys name one
path. A tree made by writing files and directories at paths is so keyed. -/
def WellKeyed (t : FileTree) : Prop := ∀ k ∈ t.entries, (Path.ofText k).text = k

theorem wellKeyed_empty : ({} : FileTree).WellKeyed :=
  fun _ hk => absurd hk ExtTreeMap.not_mem_empty

theorem WellKeyed.insert (ht : t.WellKeyed) {p : Path} (hp : p.Valid) (e : Entry) :
    (⟨t.entries.insert p.text e⟩ : FileTree).WellKeyed := by
  intro k hk
  rcases ExtTreeMap.mem_insert.1 hk with hk | hk
  · rw [← LawfulEqCmp.compare_eq_iff_eq.1 hk, Path.ofText_text hp]
  · exact ht k hk

theorem WellKeyed.erase (ht : t.WellKeyed) (k : String) : (⟨t.entries.erase k⟩ : FileTree).WellKeyed :=
  fun k' hk => ht k' (ExtTreeMap.mem_of_mem_erase hk)

/-- Making the directories above a path of valid components keeps a tree well keyed: each
directory made is keyed by the text of a prefix of the path. -/
theorem WellKeyed.makeDirectories (ht : t.WellKeyed) {p : Path} (hp : p.Valid) {t' : FileTree}
    (h : t.makeDirectories p = .ok t') : t'.WellKeyed := by
  unfold FileTree.makeDirectories at h
  generalize List.range p.length = ks at h
  induction ks generalizing t with
  | nil =>
    cases h
    exact ht
  | cons k ks ih =>
    rw [List.foldlM_cons] at h
    have hq : Path.Valid (p.take (k + 1)) := fun c hc => hp c (List.mem_of_mem_take hc)
    -- the step keeps a directory, fails at a file, and makes a missing directory
    rcases hstep : t.lookup (p.take (k + 1)) with _ | (_ | _)
    · simp only [hstep] at h
      exact ih (ht.insert hq .directory) h
    · simp only [hstep] at h
      cases h
    · simp only [hstep] at h
      exact ih ht h

/-- Writing a file at a path of valid components keeps a tree well keyed. -/
theorem WellKeyed.write (ht : t.WellKeyed) {p : Path} (hp : p.Valid) {bytes : ByteArray} {t' : FileTree}
    (h : t.write p bytes = .ok t') : t'.WellKeyed := by
  unfold FileTree.write at h
  split at h
  · cases h
  · rcases hdirs : t.makeDirectories p.dropLast with _ | t₁
    · simp only [hdirs] at h
      cases h
    · have ht₁ := ht.makeDirectories (fun c hc => hp c ((List.dropLast_prefix p).subset hc)) hdirs
      simp only [hdirs, bind, Except.bind] at h
      split at h
      · cases h
      · cases h
        exact ht₁.insert hp _

theorem read?_eq_some_iff {p : Path} (hp : p ≠ []) {b : ByteArray} :
    t.read? p = some b ↔ t.entries[p.text]? = some (.file b) := by
  rw [read?, lookup_of_ne_nil hp]
  cases t.entries[p.text]? with
  | none => simp
  | some e => cases e <;> simp

theorem mem_all_iff {q : Path} {e : Entry} : (q, e) ∈ t.all ↔ ∃ k, t.entries[k]? = some e ∧ Path.ofText k = q := by
  simp only [all, List.mem_map, Prod.exists, Prod.mk.injEq, ExtTreeMap.mem_toList_iff_getElem?_eq_some]
  constructor
  · rintro ⟨k, e', hk, rfl, rfl⟩
    exact ⟨k, hk, rfl⟩
  · rintro ⟨k, hk, rfl⟩
    exact ⟨k, e, hk, rfl, rfl⟩

/-- In a well-keyed tree no two entries read as one path. -/
theorem WellKeyed.nodup_paths (ht : t.WellKeyed) : (t.all.map Prod.fst).Nodup := by
  have hfst : (Prod.fst ∘ fun x : String × Entry => (Path.ofText x.1, x.2)) = Path.ofText ∘ Prod.fst := rfl
  rw [all, List.map_map, hfst, ← List.map_map, ExtTreeMap.map_fst_toList_eq_keys]
  -- two keys reading as one path are each the text of that path
  refine ExtTreeMap.nodup_keys.map_on fun a ha b hb hab => ?_
  rw [← ht a (ExtTreeMap.mem_of_mem_keys ha), ← ht b (ExtTreeMap.mem_of_mem_keys hb), hab]

/-- **The files below a directory** of valid components, in a well-keyed tree: the paths from it
of valid components, at any depth, at which a file stands. -/
theorem mem_filesBelow_iff (ht : t.WellKeyed) {dir q : Path} (hdir : dir.Valid) :
    q ∈ t.filesBelow dir ↔ q ≠ [] ∧ q.Valid ∧ t.isFile (dir ++ q) = true := by
  rw [filesBelow, Path.mem_sort, List.mem_filterMap]
  constructor
  · rintro ⟨⟨q', e⟩, hmem, hq⟩
    obtain ⟨k, hk, rfl⟩ := mem_all_iff.1 hmem
    cases e with
    | directory => simp at hq
    | file b =>
      simp only [Bool.and_eq_true, beq_iff_eq, gt_iff_lt, decide_eq_true_eq] at hq
      split at hq
      · next hcond =>
        obtain rfl := Option.some.inj hq
        -- the entry's path is `dir` followed by the part kept
        have hpath : Path.ofText k = dir ++ (Path.ofText k).drop dir.length := by
          conv_lhs => rw [← List.take_append_drop dir.length (Path.ofText k), hcond.2]
        have hvalid := Path.valid_ofText k
        have hne : (Path.ofText k).drop dir.length ≠ [] := by
          rw [← List.length_pos_iff, List.length_drop]
          omega
        refine ⟨hne, fun c hc => hvalid c (List.mem_of_mem_drop hc), ?_⟩
        rw [← hpath, isFile, Option.isSome_iff_exists]
        refine ⟨b, (read?_eq_some_iff (by rw [hpath]; simp [hne])).2 ?_⟩
        rw [ht k (ExtTreeMap.mem_iff_isSome_getElem?.2 (by rw [hk]; rfl))]
        exact hk
      · cases hq
  · rintro ⟨hne, hq, hfile⟩
    obtain ⟨b, hb⟩ := Option.isSome_iff_exists.1 hfile
    have hvalid : (dir ++ q).Valid := hdir.append hq
    refine ⟨(dir ++ q, .file b), mem_all_iff.2 ⟨(dir ++ q).text,
      (read?_eq_some_iff (by simp [hne])).1 hb, Path.ofText_text hvalid⟩, ?_⟩
    simpa using hne

/-- In a well-keyed tree the files below a directory are listed in strictly increasing path
order. -/
theorem pairwise_lt_filesBelow (ht : t.WellKeyed) (dir : Path) :
    (t.filesBelow dir).Pairwise fun a b => Path.order a b = .lt := by
  apply Path.pairwise_lt_sort
  have hpaths := ht.nodup_paths
  rw [List.Nodup, List.pairwise_map] at hpaths
  rw [List.Nodup, List.pairwise_filterMap]
  refine hpaths.imp ?_
  rintro ⟨q, e⟩ ⟨q', e'⟩ hne r hr r' hr' rfl
  -- a kept part determines the entry's path: `dir` followed by it
  have hback : ∀ q : Path, (if q.length > dir.length && q.take dir.length == dir then
      some (q.drop dir.length) else none) = some r → q = dir ++ r := by
    intro q h
    split at h
    · next hcond =>
      simp only [Bool.and_eq_true, beq_iff_eq] at hcond
      rw [← Option.some.inj h]
      conv_lhs => rw [← List.take_append_drop dir.length q, hcond.2]
    · cases h
  cases e <;> cases e' <;> simp only [reduceCtorEq] at hr hr'
  exact hne ((hback q hr).trans (hback q' hr').symm)

end FileTree

end TagStore
