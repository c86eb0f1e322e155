import TagStore.Proofs.Binary.Serial
import TagStore.Compress.Lz4
/-!
# Proofs.Compress.Lz4

A block of one literal sequence expands back to its bytes, given their length as the capacity
(`Lz4.expand_pack`). The token's high nibble is the literal length, continued from 15 on in
bytes of 255 and a last byte below 255 (`continued_eq`). Whichever of its two loops the
expander starts in, it hands the token's literals to the careful copy (`advance_pack_short`,
`advance_pack_long`), and there the sequence is the last: it ends the input exactly and fills
the capacity, so it is copied whole (`advance_last`).
-/

namespace TagStore.Lz4

open Binary

/-! ## Steps of the expander -/

theorem run_go {src : ByteArray} {cap fuel : Nat} {step step' : Step} {out out' : ByteArray}
    (h : advance src cap step out = .ok (.go step' out')) :
    run src cap (fuel + 1) step out = run src cap fuel step' out' := by
  rw [run, h]

theorem run_done {src : ByteArray} {cap fuel : Nat} {step : Step} {out out' : ByteArray}
    (h : advance src cap step out = .ok (.done out')) : run src cap (fuel + 1) step out = .ok out' := by
  rw [run, h]

/-- The last sequence: literals that end the input exactly and fill the capacity are copied
whole. -/
theorem advance_last {src : ByteArray} {cap token ip length : Nat} {out : ByteArray}
    (hend : ip + length = src.size) (hcap : out.size + length = cap) :
    advance src cap (.literals token ip length) out =
      .ok (.done (out ++ src.extract ip (ip + length))) := by
  simp only [advance]
  rw [if_pos (by simp only [Bool.or_eq_true, decide_eq_true_eq]; omega)]
  rw [if_neg (by simp only [Bool.or_eq_true, bne_iff_ne, ne_eq, decide_eq_true_eq, not_or]; omega)]

/-- A length continued in `k` bytes of 255 and a last byte `r` below 255, each standing within
the limit, adds `255 · k + r`. -/
theorem continued_eq {src : ByteArray} {limit : Int} {r : Nat} (hr : r < 255) (k : Nat) :
    ∀ {pos fuel acc : Nat}, (∀ i < k, src[pos + i]? = some 255) → src[pos + k]? = some r.toUInt8 →
      ((pos + k + 1 : Nat) : Int) ≤ limit → k < fuel →
        continued src limit fuel pos acc = some (acc + 255 * k + r, pos + k + 1) := by
  induction k with
  | zero =>
    intro pos fuel acc _ hlast hlimit hfuel
    obtain ⟨f, rfl⟩ : ∃ f, fuel = f + 1 := ⟨fuel - 1, by omega⟩
    rw [Nat.add_zero] at hlast
    have hval : r.toUInt8.toNat = r := by simp; omega
    -- the last byte is below 255 and ends the length
    have hne : (r.toUInt8 == 255) = false := by
      rw [beq_eq_false_iff_ne]
      intro h
      have := congrArg UInt8.toNat h
      rw [hval] at this
      simp at this
      omega
    have hlim : ¬(((pos + 1 : Nat) : Int) > limit) := by omega
    simp only [continued, hlast, hlim, hne, if_false, Bool.false_eq_true, hval]
    congr 2
  | succ k ih =>
    intro pos fuel acc hbytes hlast hlimit hfuel
    obtain ⟨f, rfl⟩ : ∃ f, fuel = f + 1 := ⟨fuel - 1, by omega⟩
    have hfirst : src[pos]? = some 255 := by simpa using hbytes 0 (by omega)
    have hlim : ¬(((pos + 1 : Nat) : Int) > limit) := by omega
    have hnext := @ih (pos + 1) f (acc + 255)
      (fun i hi => by rw [show pos + 1 + i = pos + (i + 1) by omega]; exact hbytes (i + 1) (by omega))
      (by rw [show pos + 1 + k = pos + (k + 1) by omega]; exact hlast) (by omega) (by omega)
    simp only [continued, hfirst, hlim, if_false, beq_self_eq_true, if_true, hnext]
    congr 2 <;> omega

/-! ## A block of one literal sequence -/

section Pack

variable {data : ByteArray}

theorem pack_short (h : data.size < 15) :
    pack data = ofList ([(data.size * 16).toUInt8] ++ data.data.toList) := by
  rw [← ofList_append, ofList_data_toList, pack, if_pos h]

theorem pack_long (h : 15 ≤ data.size) :
    pack data = ofList (240 :: (List.replicate ((data.size - 15) / 255) 255 ++
      ((data.size - 15) % 255).toUInt8 :: data.data.toList)) := by
  rw [pack, if_neg (by omega), ← ofList_data_toList data, ofList_append, ofList_data_toList]
  simp [lengthBytes]

/-- The literals stand after the head of the block. -/
theorem extract_pack {h : Nat} (hh : h + data.size = (pack data).size) :
    (pack data).extract h (h + data.size) = data := by
  rw [pack] at hh ⊢
  rw [ByteArray.size_append] at hh
  exact ByteArray.extract_append_eq_right (by omega) (by omega)

/-- The length of a long block, continued past 15. -/
theorem extraLength_pack (h : 15 ≤ data.size) :
    extraLength (pack data) ((pack data).size - 15 : Int) true 1 =
      .ok (data.size - 15, (data.size - 15) / 255 + 2) := by
  have hsize : (pack data).size = (data.size - 15) / 255 + 2 + data.size := by
    rw [pack_long h, size_ofList]
    simp
    omega
  have hcont := @continued_eq (pack data) ((pack data).size - 15 : Int) ((data.size - 15) % 255)
    (Nat.mod_lt _ (by decide)) ((data.size - 15) / 255) 1 ((pack data).size + 1) 0
    (fun i hi => by
      rw [pack_long h, getElem?_ofList, Nat.add_comm, List.getElem?_cons_succ,
        List.getElem?_append_left (by simpa using hi), List.getElem?_replicate_of_lt hi])
    (by
      rw [pack_long h, getElem?_ofList, Nat.add_comm, List.getElem?_cons_succ,
        List.getElem?_append_right (by simp)]
      simp)
    (by omega) (by omega)
  rw [extraLength, if_neg (by simp; omega), hcont]
  dsimp only
  rw [Except.ok.injEq, Prod.mk.injEq]
  constructor <;> omega

/-- Short literals: the careful loop takes them to the last-sequence copy. -/
theorem advance_pack_short (h : data.size < 15) :
    advance (pack data) data.size (.token false 0) ByteArray.empty =
      .ok (.go (.literals (data.size * 16) 1 data.size) ByteArray.empty) := by
  have hsize : (pack data).size = data.size + 1 := by
    rw [pack_short h, size_ofList]
    simp
  have htoken : byteAt (pack data) 0 = data.size * 16 := by
    rw [pack_short h, byteAt_ofList _ (by simp)]
    simp
    omega
  have hlit : data.size * 16 / 16 = data.size := Nat.mul_div_cancel _ (by decide)
  have hne : data.size ≠ 15 := by omega
  simp [advance, hsize, htoken, hlit, hne]
  rw [if_neg (by omega)]
  rfl

/-- Long literals: either loop reads their continued length and takes them to the
last-sequence copy. -/
theorem advance_pack_long (h : 15 ≤ data.size) (fast : Bool) :
    advance (pack data) data.size (.token fast 0) ByteArray.empty =
      .ok (.go (.literals 240 ((data.size - 15) / 255 + 2) data.size) ByteArray.empty) := by
  have hsize : (pack data).size = (data.size - 15) / 255 + 2 + data.size := by
    rw [pack_long h, size_ofList]
    simp
    omega
  have htoken : byteAt (pack data) 0 = 240 := by
    rw [pack_long h, byteAt_ofList _ (by simp)]
    rfl
  have hlen : 15 + (data.size - 15) = data.size := by omega
  cases fast
  · simp only [advance, htoken, extraLength_pack h]
    simp [hsize, hlen]
  · -- the fast loop sends the literals on, as they come within 32 bytes of the capacity
    simp only [advance, htoken, extraLength_pack h]
    simp only [hsize, bind, Except.bind]
    simp
    rw [if_pos (Or.inl (by omega))]
    simp [hlen, pure, Except.pure]

/-- **A packed block expands back to its bytes**, given their length as the capacity. -/
theorem expand_pack (data : ByteArray) : expand (pack data) data.size = .ok data := by
  rcases Nat.eq_zero_or_pos data.size with h0 | hpos
  · -- nothing to pack: the block is the single byte 0
    obtain rfl : data = ByteArray.empty := ByteArray.size_eq_zero_iff.1 h0
    decide
  · have hsize : 0 < (pack data).size := by rw [pack, ByteArray.size_append]; omega
    rw [expand, if_neg (show ¬(data.size == 0) = true by simp only [beq_iff_eq]; omega),
      if_neg (show ¬((pack data).size == 0) = true by simp only [beq_iff_eq]; omega),
      show 4 * (pack data).size + 8 = 4 * (pack data).size + 6 + 1 + 1 by omega]
    by_cases h15 : data.size < 15
    · have hend : 1 + data.size = (pack data).size := by rw [pack_short h15, size_ofList]; simp; omega
      rw [show decide (data.size ≥ 64) = false by simp; omega, run_go (advance_pack_short h15),
        run_done (advance_last hend (by simp)), ByteArray.empty_append, extract_pack hend]
    · have h15' : 15 ≤ data.size := by omega
      have hend : (data.size - 15) / 255 + 2 + data.size = (pack data).size := by
        rw [pack_long h15', size_ofList]
        simp
        omega
      rw [run_go (advance_pack_long h15' _), run_done (advance_last hend (by simp)),
        ByteArray.empty_append, extract_pack hend]

end Pack

end TagStore.Lz4
