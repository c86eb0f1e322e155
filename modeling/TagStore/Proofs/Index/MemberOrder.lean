import TagStore.Proofs.Text.Order
import TagStore.Proofs.Index.Consistent
/-!
# Proofs.Index.MemberOrder

The order of a tag's members. `MemberKey.order` compares write times the other way round,
then sequence numbers the other way round, then ids. It is a lawful total order whose ties
are exactly the equal keys (`order_eq_eq_iff`, by the order's `LawfulEqCmp` instance), and it
is the lexicographic order `Before` on write time descending, sequence number descending and
id ascending by its UTF-8 bytes (`order_eq_lt_iff_before`).

So a membership never merges two different keys: inserting a key keeps every member and
adds the key as one more member when it is new (`mem_insert_iff`, `size_insert_of_not_mem`),
and a membership lists its keys most recent first (`pairwise_toList_before`).

**Main statement.** `MemberKey.order_is_recency_order`.
-/

namespace TagStore.MemberKey

/-- `a` comes before `b` in a membership: written later, or at the same time with a higher
sequence number, or at the same time and number with an id whose UTF-8 bytes are smaller. -/
def Before (a b : MemberKey) : Prop :=
  b.timestamp < a.timestamp ∨ a.timestamp = b.timestamp ∧
    (b.seq < a.seq ∨ a.seq = b.seq ∧ a.id.toUTF8.toList < b.id.toUTF8.toList)

/-- The members' order, spelled out on the numbers: later write time first, then higher
sequence number, then smaller id. -/
theorem order_eq_lt_iff (a b : MemberKey) :
    MemberKey.order a b = .lt ↔ b.timestamp.toInt < a.timestamp.toInt ∨
      a.timestamp.toInt = b.timestamp.toInt ∧
        (b.seq.toNat < a.seq.toNat ∨ a.seq.toNat = b.seq.toNat ∧ a.id < b.id) := by
  have hid : compare a.id b.id = .lt ↔ a.id < b.id := compareOfLessAndEq_eq_lt
  simp only [MemberKey.order, compareLex, compareOn, Ordering.then_eq_lt, Int.compare_eq_lt,
    Nat.compare_eq_lt, Int.compare_eq_eq, Nat.compare_eq_eq, hid, @eq_comm _ b.timestamp.toInt,
    @eq_comm _ b.seq.toNat]

theorem order_eq_lt_iff_before (a b : MemberKey) : order a b = .lt ↔ a.Before b := by
  rw [order_eq_lt_iff, Before, Int64.lt_iff_toInt_lt, UInt64.lt_iff_toNat_lt, Int64.toInt_inj,
    UInt64.toNat_inj, Text.lt_iff_toUTF8_lt]

example : MemberKey.order ⟨9, 3, "tie2"⟩ ⟨9, 2, "tie1"⟩ = .lt ∧
    MemberKey.order ⟨9, 2, "tie1"⟩ ⟨5, 1, "old"⟩ = .lt := by
  decide

/-- Two keys tie exactly when they are equal: same write time, sequence number and id. -/
theorem order_eq_eq_iff (a b : MemberKey) : order a b = .eq ↔ a = b :=
  Std.LawfulEqCmp.compare_eq_iff_eq

/-! ## Memberships -/

variable {m : Membership} {k k' : MemberKey}

/-- Inserting a key keeps every member and adds that key, and no other. -/
theorem mem_insert_iff : k' ∈ m.insert k ↔ k' = k ∨ k' ∈ m := by
  rw [Std.ExtTreeSet.mem_insert, order_eq_eq_iff, eq_comm]

/-- A key that is not yet a member adds one member. -/
theorem size_insert_of_not_mem (h : k ∉ m) : (m.insert k).size = m.size + 1 := by
  rw [Std.ExtTreeSet.size_insert, if_neg (mt Std.ExtTreeSet.mem_iff_contains.2 h)]

/-- A membership lists its keys most recent first. -/
theorem pairwise_toList_before (m : Membership) : m.toList.Pairwise Before :=
  Std.ExtTreeSet.ordered_toList.imp (order_eq_lt_iff_before _ _).1

/-- The members' order is a lawful total order, consistent with equality: it ties only equal
keys, comparing the other way round gives the reversed answer, and it is transitive. It is
the lexicographic order on write time descending, sequence number descending and id
ascending by bytes. So inserting a key into a membership never absorbs another key, a new
key adds one member, and a membership lists its keys most recent first. -/
theorem order_is_recency_order :
    (∀ a b : MemberKey, order a b = .eq ↔ a = b) ∧
    (∀ a b : MemberKey, order b a = (order a b).swap) ∧
    (∀ a b c : MemberKey, order a b = .lt → order b c = .lt → order a c = .lt) ∧
    (∀ a b c : MemberKey, (order a b).isLE → (order b c).isLE → (order a c).isLE) ∧
    (∀ a b : MemberKey, order a b = .lt ↔ a.Before b) ∧
    (∀ (m : Membership) (k k' : MemberKey), k' ∈ m.insert k ↔ k' = k ∨ k' ∈ m) ∧
    (∀ (m : Membership) (k : MemberKey), k ∉ m → (m.insert k).size = m.size + 1) ∧
    (∀ m : Membership, m.toList.Pairwise Before) :=
  ⟨order_eq_eq_iff, fun _ _ => Std.OrientedCmp.eq_swap, fun _ _ _ => Std.TransCmp.lt_trans,
    fun _ _ _ => Std.TransCmp.isLE_trans, order_eq_lt_iff_before, fun _ _ _ => mem_insert_iff,
    fun _ _ => size_insert_of_not_mem, pairwise_toList_before⟩

end TagStore.MemberKey
