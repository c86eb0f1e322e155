import TagStore.Proofs.Text.Order
import TagStore.Storage.KvStore
/-!
# Proofs.Storage.PrefixScan

A prefix scan of a key-value store starts at the first key not below the prefix and stops at
the first key after it that does not start with the prefix. It loses no key. The store keeps
its pairs sorted by key, and in that order the keys that start with the prefix form one run
that starts at the prefix (`Text.startsWith_of_le_of_le`): the keys skipped before the run lie
below the prefix and cannot start with it (`filter_dropWhile_below`), and once a key past the
prefix does not start with it, no later key does (`takeWhile_eq_filter`). Shorter keys, keys
that share only part of the prefix and the prefix itself are all placed by the same order.

**Main statement.** `KvStore.scan_lists_prefixed_pairs`: a scan that is not one of the
failing ones returns exactly the stored pairs whose key starts with the prefix, each key once,
in ascending order of the keys' UTF-8 bytes, and leaves the store as it was.
-/

namespace TagStore.KvStore

variable {pre : String}

theorem not_startsWith_of_lt {key : String} (h : key < pre) : ¬ key.startsWith pre :=
  fun hs => Text.le_of_startsWith hs h

/-- Skipping the keys below `pre` skips no key that starts with `pre`. -/
theorem filter_dropWhile_below (l : List (String × ByteArray)) :
    (l.dropWhile fun kv => kv.1 < pre).filter (fun kv => kv.1.startsWith pre) =
      l.filter fun kv => kv.1.startsWith pre := by
  induction l with
  | nil => rfl
  | cons kv l ih =>
    by_cases h : kv.1 < pre
    · rw [List.dropWhile_cons_of_pos (by simpa using h), ih,
        List.filter_cons_of_neg (by simpa using not_startsWith_of_lt h)]
    · rw [List.dropWhile_cons_of_neg (by simpa using h)]

/-- In a list sorted by key, the pairs left after skipping the keys below `pre` are not
below `pre`. -/
theorem le_of_mem_dropWhile_below {l : List (String × ByteArray)}
    (hl : l.Pairwise fun a b => a.1 < b.1) :
    ∀ kv ∈ l.dropWhile (fun kv => kv.1 < pre), pre ≤ kv.1 := by
  induction l with
  | nil => simp
  | cons kv l ih =>
    by_cases h : kv.1 < pre
    · rw [List.dropWhile_cons_of_pos (by simpa using h)]
      exact ih hl.of_cons
    · rw [List.dropWhile_cons_of_neg (by simpa using h)]
      intro kv' hkv'
      rcases List.mem_cons.1 hkv' with rfl | hmem
      · exact not_lt.1 h
      · exact le_of_lt (lt_of_le_of_lt (not_lt.1 h) (List.rel_of_pairwise_cons hl hmem))

/-- In a list sorted by key whose keys are not below `pre`, the keys that start with `pre`
come first. -/
theorem takeWhile_eq_filter {l : List (String × ByteArray)} (hl : l.Pairwise fun a b => a.1 < b.1)
    (hfrom : ∀ kv ∈ l, pre ≤ kv.1) :
    l.takeWhile (fun kv => kv.1.startsWith pre) = l.filter fun kv => kv.1.startsWith pre := by
  induction l with
  | nil => rfl
  | cons kv l ih =>
    by_cases hs : kv.1.startsWith pre
    · rw [List.takeWhile_cons_of_pos (p := fun kv : String × ByteArray => kv.1.startsWith pre) hs,
        List.filter_cons_of_pos (p := fun kv : String × ByteArray => kv.1.startsWith pre) hs,
        ih hl.of_cons fun kv' h => hfrom kv' (List.mem_cons_of_mem _ h)]
    · rw [List.takeWhile_cons_of_neg (p := fun kv : String × ByteArray => kv.1.startsWith pre) hs,
        List.filter_cons_of_neg (p := fun kv : String × ByteArray => kv.1.startsWith pre) hs]
      -- every later key lies above `kv`, which lies between `pre` and that key
      refine (List.filter_eq_nil_iff.2 fun kv' hkv' hs' => hs ?_).symm
      exact Text.startsWith_of_le_of_le (hfrom kv List.mem_cons_self)
        (le_of_lt (List.rel_of_pairwise_cons hl hkv')) hs'

/-- The pairs of a store, sorted by key. -/
theorem entries_sorted (s : KvStore) : s.entries.toList.Pairwise fun a b => a.1 < b.1 :=
  Std.ExtTreeMap.ordered_keys_toList.imp compare_lt_iff_lt.1

/-- A scan that is not one of the failing ones lists the pairs whose key starts with `pre`,
in key order, and leaves the store as it was. -/
theorem scan_eq_filter {s : KvStore} (h : s.failingScans = 0) (pre : String) :
    s.scan pre = (.ok (s.entries.toList.filter fun kv => kv.1.startsWith pre), s) := by
  have hfrom := (entries_sorted s).sublist (List.dropWhile_sublist fun kv => decide (kv.1 < pre))
  rw [scan, h, entriesFrom,
    takeWhile_eq_filter hfrom (le_of_mem_dropWhile_below (entries_sorted s)), filter_dropWhile_below]

-- a key shorter than the prefix and a key that leaves the run at its last character
example :
    (({ entries := .ofList [("blog/doc/a", ByteArray.mk #[1]), ("blog/docs", ByteArray.mk #[2]),
        ("blog/doc", ByteArray.mk #[3]), ("blog/doc/b", ByteArray.mk #[4])] } : KvStore).scan
      "blog/doc/").1.toOption.map (List.map Prod.fst) = some ["blog/doc/a", "blog/doc/b"] := by
  decide +kernel

/-- A prefix scan that is not one of the failing ones returns exactly the stored pairs whose
key starts with the prefix, each key once, in ascending order of the keys' UTF-8 bytes, and
leaves the store as it was. -/
theorem scan_lists_prefixed_pairs (s : KvStore) (pre : String) (h : s.failingScans = 0) :
    ∃ found, s.scan pre = (.ok found, s) ∧
      (∀ key value, (key, value) ∈ found ↔ s.entries[key]? = some value ∧ key.startsWith pre) ∧
      (found.map (·.1)).Nodup ∧
      found.Pairwise fun a b => a.1.toUTF8.toList < b.1.toUTF8.toList := by
  have hsorted := (entries_sorted s).sublist
    (List.filter_sublist (p := fun kv : String × ByteArray => kv.1.startsWith pre))
  refine ⟨_, scan_eq_filter h pre, fun key value => ?_, ?_, ?_⟩
  · simp only [List.mem_filter, Std.ExtTreeMap.mem_toList_iff_getElem?_eq_some]
  · exact List.pairwise_map.2 (hsorted.imp String.ne_of_lt)
  · exact hsorted.imp Text.lt_iff_toUTF8_lt.1

/-- The store of the scan test: two documents of `blog`, a key that shares `blog/doc` but not
the slash after it, and a document of `blog2`. -/
def blogStore : KvStore where
  entries := .ofList [("blog/doc/a", ByteArray.mk #[1]), ("blog/doc/b", ByteArray.mk #[2]),
    ("blog/docs", ByteArray.mk #[3]), ("blog2/doc/a", ByteArray.mk #[4])]

theorem scan_lists_prefixed_pairs_blog :
    blogStore.failingScans = 0 ∧ ∃ found, blogStore.scan "blog/doc/" = (.ok found, blogStore) ∧
      (∀ key value, (key, value) ∈ found ↔
        blogStore.entries[key]? = some value ∧ key.startsWith "blog/doc/") ∧
      (found.map (·.1)).Nodup ∧
      found.Pairwise fun a b => a.1.toUTF8.toList < b.1.toUTF8.toList :=
  ⟨rfl, scan_lists_prefixed_pairs _ _ rfl⟩

end TagStore.KvStore
