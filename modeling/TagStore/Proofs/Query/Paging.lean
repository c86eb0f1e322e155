import Mathlib
import TagStore.Proofs.Query.Execute
/-!
# Proofs.Query.Paging

A PAGES query cuts the members of a tag into pages of `k`: page `p` is the slice of the
members from position `p * k`, at most `k` long (`pageOf`). This file holds what that cut
means for a reader who walks the pages `0, 1, 2, …`, and how a planned page runs.

* `walksTo_of_pageOf` — answers that are the pages of a list walk to it: no page holds
  more than `k` items, a negative page answers as the first, and the first empty page
  ends a walk whose pages before it concatenate to the list (`WalksTo`).
* `Planner.plan_of_pages` — a PAGES query with a page size plans the slice from
  `page * size`, the product saturated at the largest word.
* `execute_page_of_loads` — when every member of the tag loads, a planned page loads to
  the same slice of the loaded documents.
-/

namespace TagStore

/-! ## Pages of a list -/

section Pages

variable {α : Type} (L : List α) (k : Nat)

/-- Page `p` of a list cut into pages of `k`: the items from position `p * k`, at most `k`
of them. -/
def pageOf (p : Nat) : List α := (L.drop (p * k)).take k

theorem length_pageOf_le (p : Nat) : (pageOf L k p).length ≤ k :=
  List.length_take_le _ _

theorem pageOf_eq_nil_iff {k : Nat} (hk : 0 < k) (p : Nat) : pageOf L k p = [] ↔ L.length ≤ p * k := by
  rw [pageOf, List.take_eq_nil_iff, List.drop_eq_nil_iff]
  omega

/-- The first `n` pages concatenate to the first `n * k` items. -/
theorem flatMap_range_pageOf (n : Nat) : (List.range n).flatMap (pageOf L k) = L.take (n * k) := by
  induction n with
  | zero => simp
  | succ n ih =>
    rw [List.range_succ, List.flatMap_append, ih, Nat.succ_mul, List.take_add]
    simp [pageOf]

/-- The number of pages a nonempty page size cuts a list into: `⌈L.length / k⌉`. -/
theorem exists_pageCount {k : Nat} (hk : 0 < k) :
    ∃ n, n ≤ L.length ∧ L.length ≤ n * k ∧ ∀ i < n, i * k < L.length := by
  refine ⟨(L.length + k - 1) / k, ?_, ?_, ?_⟩
  · -- at least one item per page before the last
    rcases Nat.eq_zero_or_pos ((L.length + k - 1) / k) with h0 | hpos
    · omega
    · have hlast : ((L.length + k - 1) / k - 1) * k < L.length := by
        have hle : ((L.length + k - 1) / k - 1 + 1) * k ≤ L.length + k - 1 :=
          (Nat.le_div_iff_mul_le hk).1 (by omega)
        rw [Nat.succ_mul] at hle
        omega
      have hmul : (L.length + k - 1) / k - 1 ≤ ((L.length + k - 1) / k - 1) * k :=
        Nat.le_mul_of_pos_right _ hk
      omega
  · have hdiv := Nat.div_add_mod (L.length + k - 1) k
    have hmod := Nat.mod_lt (L.length + k - 1) hk
    rw [Nat.mul_comm]
    omega
  · intro i hi
    have hle : (i + 1) * k ≤ L.length + k - 1 := (Nat.le_div_iff_mul_le hk).1 hi
    rw [Nat.succ_mul] at hle
    omega

end Pages

/-- What a reader walking pages `0, 1, 2, …` of `answer` sees when the pages cut `L` into
pieces of at most `k`: every page answers and holds at most `k` items, a negative page
answers as the first, and the first empty page ends a walk whose pages before it
concatenate to `L`. -/
structure WalksTo {α : Type} (answer : Int64 → Except Error (List α)) (k : Nat) (L : List α) : Prop where
  length_le : ∀ p, ∃ page, answer p = .ok page ∧ page.length ≤ k
  negative : ∀ p : Int64, p < 0 → answer p = answer 0
  walk : ∃ n < 2 ^ 63, ∃ pages : Nat → List α,
    (∀ i ≤ n, answer (Int64.ofNat i) = .ok (pages i)) ∧ (∀ i < n, pages i ≠ []) ∧ pages n = [] ∧
      (List.range n).flatMap pages = L

theorem Int64.toNat_toInt_ofNat {n : Nat} (h : n < 2 ^ 63) : (Int64.ofNat n).toInt.toNat = n := by
  rw [Int64.toInt_ofNat_of_lt (by simpa using h)]
  simp

theorem Int64.toNat_toInt_of_neg {p : Int64} (h : p < 0) : p.toInt.toNat = 0 := by
  have hneg : p.toInt < 0 := by simpa [Int64.lt_iff_toInt_lt] using h
  omega

/-- **Pages walk to the list they cut.** Answers that are the pages of `L` at the page
numbers asked, a negative number counting as the first, walk to `L`. -/
theorem walksTo_of_pageOf {α : Type} {answer : Int64 → Except Error (List α)} {k : Nat} {L : List α}
    (hk : 0 < k) (hlen : L.length < 2 ^ 63) (hanswer : ∀ p, answer p = .ok (pageOf L k p.toInt.toNat)) :
    WalksTo answer k L := by
  refine ⟨fun p => ⟨_, hanswer p, length_pageOf_le L k _⟩, fun p hp => ?_, ?_⟩
  · rw [hanswer, hanswer, Int64.toNat_toInt_of_neg hp]
    rfl
  · obtain ⟨n, hn, hcover, hfull⟩ := exists_pageCount L hk
    refine ⟨n, by omega, pageOf L k, fun i hi => ?_, fun i hi => ?_, ?_, ?_⟩
    · rw [hanswer, Int64.toNat_toInt_ofNat (by omega)]
    · rw [ne_eq, pageOf_eq_nil_iff L hk]
      exact Nat.not_le.2 (hfull i hi)
    · exact (pageOf_eq_nil_iff L hk n).2 hcover
    · rw [flatMap_range_pageOf, List.take_of_length_le hcover]

/-! ## Planning and running a page -/

/-- A PAGES query with a page size plans the slice from `page * size`, saturated at the
largest word. -/
theorem Planner.plan_of_pages {p : Planner} {spec : QuerySpec} {c : Document} {k : Nat} (name : String)
    (hpages : spec.kind = .pages) (hk : p.pageSize c spec = .ok k) :
    p.plan name (some c) spec = .ok (.page spec.resolvedTag (min (spec.resolvedPage * k) wordMax) k) := by
  simp only [Planner.plan, hk, hpages]
  rfl

theorem le_wordMax_of_lt {n : Nat} (h : n < 2 ^ 63) : n ≤ wordMax := by
  unfold wordMax
  simp only [Nat.pow_eq]
  omega

/-- A saturated offset cuts as the exact one when the list is no longer than a word. -/
theorem drop_min_wordMax {α : Type} {L : List α} (hlen : L.length ≤ wordMax) (n : Nat) :
    L.drop (min n wordMax) = L.drop n := by
  rcases Nat.le_total n wordMax with h | h
  · rw [Nat.min_eq_left h]
  · rw [Nat.min_eq_right h, List.drop_eq_nil_of_le hlen, List.drop_eq_nil_of_le (by omega)]

theorem filterMap_eq_of_map_eq_map_some {α β : Type} {f : α → Option β} :
    ∀ {l : List α} {docs : List β}, l.map f = docs.map some → l.filterMap f = docs
  | [], [], _ => rfl
  | a :: l, d :: docs, h => by
    simp only [List.map_cons, List.cons.injEq] at h
    rw [List.filterMap_cons, h.1]
    exact congrArg (d :: ·) (filterMap_eq_of_map_eq_map_some h.2)

theorem loadAll_congr {load load' : String → Except Error (Option Document)} :
    ∀ {ids : List String}, (∀ id ∈ ids, load id = load' id) → loadAll load ids = loadAll load' ids
  | [], _ => rfl
  | id :: ids, h => by
    simp only [loadAll, h id List.mem_cons_self,
      loadAll_congr fun id' hid' => h id' (List.mem_cons_of_mem _ hid')]

/-- **A page over loads that find every member.** When each member of the tag loads to a
document, in order `docs`, a planned page loads to the same slice of `docs`. -/
theorem execute_page_of_loads {t : TagIndex} {tag : String} {load : String → Except Error (Option Document)}
    {f : String → Option Document} {docs : List Document}
    (hload : ∀ id ∈ t.members tag, load id = .ok (f id)) (hdocs : (t.members tag).map f = docs.map some)
    (seed offset limit : Nat) :
    (QueryPlan.page tag offset limit).execute t seed load = .ok ((docs.drop offset).take limit) := by
  have hpage : ∀ id ∈ t.page tag offset limit, load id = .ok (f id) :=
    fun id hid => hload id (List.mem_of_mem_drop (List.mem_of_mem_take hid))
  rw [QueryPlan.execute, loadAll_congr hpage, loadAll_ok]
  congr 1
  apply filterMap_eq_of_map_eq_map_some
  rw [TagIndex.page, List.map_take, List.map_drop, hdocs, List.map_take, List.map_drop]

end TagStore
