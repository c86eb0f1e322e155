import TagStore.Proofs.Binary.Serial
import TagStore.Compress.Snappy
/-!
# Proofs.Compress.Snappy

A block holding its bytes as literals expands back to them when it can announce their length,
below `2 ^ 32` (`Snappy.expand_pack`). The length is written as a base-128 varint, which the
reader takes back seven bits at a time, each group landing above the bits read before it
(`varint_go`); each literal of at most 60 bytes carries its length in its tag, and the reader
copies it after what it has (`expandFrom_literals`).
-/

namespace TagStore.Snappy

open Binary

/-! ## The length -/

/-- Bits below `2 ^ s` and a multiple of `2 ^ s` do not overlap. -/
theorem or_mul_two_pow {acc x s : Nat} (h : acc < 2 ^ s) : acc ||| x * 2 ^ s = acc + x * 2 ^ s := by
  rw [Nat.or_comm, Nat.mul_comm, ← Nat.two_pow_add_eq_or_of_lt h, Nat.add_comm]

/-- A value below 128 is one byte, the last group: the reader puts it above the bits it has
and stops. -/
theorem varint_last (post pre : List UInt8) (f : Nat) {v shift acc : Nat} (hv : v < 128)
    (hacc : acc < 2 ^ shift) (hfit : v * 2 ^ shift < 2 ^ 64) :
    varint (ofList (pre ++ varintBytes.go (f + 1) v ++ post)) (f + 1) pre.length shift acc =
      some (acc + v * 2 ^ shift, pre.length + (varintBytes.go (f + 1) v).length) := by
  have hgo : varintBytes.go (f + 1) v = [v.toUInt8] := by rw [varintBytes.go, if_pos hv]
  have hbyte : (ofList (pre ++ varintBytes.go (f + 1) v ++ post))[pre.length]? = some v.toUInt8 := by
    rw [getElem?_ofList, hgo]
    simp
  have hval : v.toUInt8.toNat = v := by simp; omega
  rw [varint, hbyte]
  dsimp only
  rw [hval, Nat.pow_eq, Nat.pow_eq, Nat.mod_eq_of_lt hv, Nat.mod_eq_of_lt hfit, if_pos hv,
    or_mul_two_pow hacc, hgo, List.length_singleton]

/-- The reader takes back the varint of `v`, written where it stands, as `v` shifted past the
bits it has. -/
theorem varint_go (post : List UInt8) : ∀ (f : Nat) (pre : List UInt8) (v shift acc : Nat),
    v < 128 ^ (f + 1) → acc < 2 ^ shift → v * 2 ^ shift < 2 ^ 64 →
      varint (ofList (pre ++ varintBytes.go (f + 1) v ++ post)) (f + 1) pre.length shift acc =
        some (acc + v * 2 ^ shift, pre.length + (varintBytes.go (f + 1) v).length) := by
  intro f
  -- on the fuel, which bounds the number of groups left
  induction f with
  | zero =>
    intro pre v shift acc hv hacc hfit
    exact varint_last post pre 0 (by simpa using hv) hacc hfit
  | succ f ih =>
    intro pre v shift acc hv hacc hfit
    by_cases hv' : v < 128
    · exact varint_last post pre (f + 1) hv' hacc hfit
    · -- seven bits with the continuation bit, then the rest of the number
      have hgo : varintBytes.go (f + 2) v = (v % 128 + 128).toUInt8 :: varintBytes.go (f + 1) (v / 128) := by
        rw [varintBytes.go, if_neg hv']
      have hbyte : (ofList (pre ++ varintBytes.go (f + 2) v ++ post))[pre.length]? =
          some (v % 128 + 128).toUInt8 := by
        rw [getElem?_ofList, hgo]
        simp
      have hval : (v % 128 + 128).toUInt8.toNat = v % 128 + 128 := by simp; omega
      have hlow : v % 128 * 2 ^ shift < 2 ^ 64 :=
        Nat.lt_of_le_of_lt (Nat.mul_le_mul_right _ (Nat.mod_le _ _)) hfit
      have hpow : 2 ^ (shift + 7) = 2 ^ shift * 128 := by rw [Nat.pow_add]
      have hsplit : v * 2 ^ shift = v % 128 * 2 ^ shift + v / 128 * 2 ^ (shift + 7) := by
        rw [hpow]
        conv => lhs; rw [← Nat.div_add_mod v 128]
        ring
      have hnext := ih (pre ++ [(v % 128 + 128).toUInt8]) (v / 128) (shift + 7)
        (acc + v % 128 * 2 ^ shift)
        (by rw [Nat.div_lt_iff_lt_mul (by decide), ← Nat.pow_succ]; exact hv)
        (calc acc + v % 128 * 2 ^ shift < 2 ^ shift + 127 * 2 ^ shift :=
                Nat.add_lt_add_of_lt_of_le hacc (Nat.mul_le_mul_right _ (by omega))
          _ = 2 ^ (shift + 7) := by rw [hpow]; ring)
        (by rw [hsplit] at hfit; omega)
      rw [varint, hbyte]
      dsimp only
      rw [hval, Nat.pow_eq, Nat.pow_eq, Nat.add_mod_right, Nat.mod_mod, Nat.mod_eq_of_lt hlow,
        if_neg (by omega), or_mul_two_pow hacc]
      rw [List.length_append, List.length_singleton] at hnext
      rw [hgo, show pre ++ (v % 128 + 128).toUInt8 :: varintBytes.go (f + 1) (v / 128) ++ post =
        pre ++ [(v % 128 + 128).toUInt8] ++ varintBytes.go (f + 1) (v / 128) ++ post by simp]
      rw [hnext, hsplit, List.length_cons, Nat.add_assoc acc, Nat.add_assoc pre.length, Nat.add_comm 1]

/-- A varint takes at least one byte. -/
theorem varintBytes_ne_nil (n : Nat) : varintBytes n ≠ [] := by
  rw [varintBytes, varintBytes.go]
  split <;> simp

/-- The length a packed block announces, read back. -/
theorem varint_pack {data : ByteArray} (h : data.size ≤ maxLength) :
    varint (pack data) 10 0 0 0 = some (data.size, (varintBytes data.size).length) := by
  have hbound : data.size < 128 ^ 10 := by unfold maxLength at h; simp only [Nat.pow_eq] at h; omega
  have := varint_go (literals data 0) 9 [] data.size 0 0 hbound (by decide) (by unfold maxLength at h; simp only [Nat.pow_eq] at h; simp; omega)
  simpa [pack, varintBytes] using this

/-! ## The literals -/

/-- The literals hold every byte from `pos` on, and their tags. -/
theorem le_length_literals (data : ByteArray) (pos : Nat) : data.size - pos ≤ (literals data pos).length := by
  fun_induction literals data pos with
  | case1 pos hmore n ih =>
    have hchunk : (data.extract pos (pos + n)).toList.length = n := by
      rw [toList_eq_data_toList]
      simp
      omega
    simp only [List.length_cons, List.length_append, hchunk]
    omega
  | case2 pos hend => omega

/-- The literals from `pos` on, read after the bytes before `pos`, give all the bytes. -/
theorem expandFrom_literals (data : ByteArray) :
    ∀ (k : Nat) (pos : Nat) (pre : List UInt8) (fuel : Nat), data.size - pos = k → pos ≤ data.size →
      k < fuel →
        expandFrom (ofList (pre ++ literals data pos)) data.size fuel pre.length (data.extract 0 pos) =
          .ok data := by
  intro k
  induction k using Nat.strong_induction_on with
  | _ k ih =>
    intro pos pre fuel hk hpos hfuel
    obtain ⟨f, rfl⟩ : ∃ f, fuel = f + 1 := ⟨fuel - 1, by omega⟩
    by_cases hmore : pos < data.size
    · -- a literal of at most 60 bytes, its length less one in the tag
      set n := min 60 (data.size - pos) with hn
      have hn1 : 1 ≤ n := by omega
      have hlit : literals data pos = ((n - 1) * 4).toUInt8 :: (data.extract pos (pos + n)).toList ++
          literals data (pos + n) := by
        rw [literals, if_pos hmore]
      have hchunk : (data.extract pos (pos + n)).toList.length = n := by
        rw [toList_eq_data_toList]
        simp
        omega
      have htag : (ofList (pre ++ literals data pos))[pre.length]? = some ((n - 1) * 4).toUInt8 := by
        rw [getElem?_ofList, hlit]
        simp
      have hval : ((n - 1) * 4).toUInt8.toNat = (n - 1) * 4 := by simp; omega
      have hsize : (ofList (pre ++ literals data pos)).size =
          pre.length + 1 + n + (literals data (pos + n)).length := by
        rw [size_ofList, hlit]
        simp [hchunk]
        omega
      have hcopy : (ofList (pre ++ literals data pos)).extract (pre.length + 1) (pre.length + 1 + n) =
          data.extract pos (pos + n) := by
        rw [hlit, show pre ++ (((n - 1) * 4).toUInt8 :: (data.extract pos (pos + n)).toList ++
            literals data (pos + n)) = (pre ++ [((n - 1) * 4).toUInt8]) ++
              (data.extract pos (pos + n)).toList ++ literals data (pos + n) by simp]
        have := extract_ofList (pre ++ [((n - 1) * 4).toUInt8]) (data.extract pos (pos + n)).toList
          (literals data (pos + n))
        rw [hchunk, List.length_append, List.length_singleton] at this
        rw [this, toList_eq_data_toList, ofList_data_toList]
      have hout : data.extract 0 pos ++ data.extract pos (pos + n) = data.extract 0 (pos + n) := by
        rw [ByteArray.extract_append_extract]
        congr 1
        omega
      have hnext := ih (data.size - (pos + n)) (by omega) (pos + n)
        (pre ++ ((n - 1) * 4).toUInt8 :: (data.extract pos (pos + n)).toList) f rfl (by omega) (by omega)
      rw [expandFrom, htag]
      dsimp only
      rw [hval, show (n - 1) * 4 % 4 = 0 by omega, show (n - 1) * 4 / 4 = n - 1 by omega,
        if_pos (show (0 == 0) = true from rfl), if_pos (show n - 1 < 60 by omega)]
      dsimp only
      have hfits : ¬(decide (pre.length + 1 + (n - 1 + 1) > (ofList (pre ++ literals data pos)).size) ||
          decide ((data.extract 0 pos).size + (n - 1 + 1) > data.size)) = true := by
        simp only [Bool.or_eq_true, decide_eq_true_eq, ByteArray.size_extract, hsize, not_or]
        omega
      rw [if_neg hfits]
      have hstart : pre.length + 1 + n = (pre ++ ((n - 1) * 4).toUInt8 :: (data.extract pos (pos + n)).toList).length := by
        simp [hchunk]
        omega
      rw [show pre.length + 1 + (n - 1 + 1) = pre.length + 1 + n by omega, hcopy, hout, hlit,
        ← List.append_assoc, hstart]
      exact hnext
    · -- nothing is left: the output has the announced length
      have hend : pos = data.size := by omega
      subst hend
      have hnone : (ofList (pre ++ literals data data.size))[pre.length]? = none := by
        rw [getElem?_ofList, literals, if_neg (Nat.lt_irrefl _)]
        simp
      rw [expandFrom, hnone, ByteArray.extract_zero_size]
      simp

/-- **A packed block expands back to its bytes**, when they are fewer than `2 ^ 32`. -/
theorem expand_pack (data : ByteArray) (h : data.size ≤ maxLength) : expand (pack data) = .ok data := by
  have hlen := varint_pack h
  have hne : (pack data).size ≠ 0 := by
    have hvarint := List.length_pos_of_ne_nil (varintBytes_ne_nil data.size)
    rw [pack, size_ofList, List.length_append]
    omega
  rw [expand, if_neg (by simpa using hne), hlen]
  dsimp only
  rw [if_neg (by omega)]
  have := expandFrom_literals data data.size 0 (varintBytes data.size) ((pack data).size + 1) (by omega)
    (Nat.zero_le _) (by
      have := le_length_literals data 0
      rw [pack, size_ofList, List.length_append]
      omega)
  rwa [ByteArray.extract_same] at this

end TagStore.Snappy
