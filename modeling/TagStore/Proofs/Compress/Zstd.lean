import TagStore.Proofs.Binary.Serial
import TagStore.Compress.Zstd
/-!
# Proofs.Compress.Zstd

A packed frame expands back to its bytes, at any length (`Zstd.expand_pack`). Its header gives
no content size, no checksum and a window of 128 KiB (`readHeader_pack`), so the frame is
streamed with a block limit of 128 KiB, which every raw block keeps. Each raw block's
three-byte header gives its type, its size and whether it is the last, and its bytes are
copied after the frame's output (`readBlocks_raw`); the blocks from any position on give the
rest of the bytes (`readBlocks_rawBlocks`). After the last block the input ends, and so does
the stream.
-/

namespace TagStore.Zstd

open Binary

/-! ## Raw blocks -/

/-- One raw block of a streamed frame: its header gives its size and whether it is the last,
and its bytes follow the frame's output. -/
theorem readBlocks_raw {src : ByteArray} {limit fuel pos size : Nat} {ctx : Context} {out : ByteArray}
    (last : Bool) (hheader : readLE src pos 3 = size * 8 + (if last then 1 else 0))
    (hfit : pos + 3 + size ≤ src.size) (hroom : size ≤ limit) :
    readBlocks src .streamed limit (fuel + 1) pos ctx out =
      if last then .ok (out ++ src.extract (pos + 3) (pos + 3 + size), pos + 3 + size)
      else readBlocks src .streamed limit fuel (pos + 3 + size) ctx
        (out ++ src.extract (pos + 3) (pos + 3 + size)) := by
  have hkind : (size * 8 + (if last then 1 else 0)) / 2 % 4 = 0 := by split <;> omega
  have hsize : (size * 8 + (if last then 1 else 0)) / 8 = size := by split <;> omega
  have hlast : ((size * 8 + (if last then 1 else 0)) % 2 == 1) = last := by
    cases last <;> simp <;> omega
  rw [readBlocks, if_neg (by omega)]
  simp only [hheader, hkind, hsize, hlast, Pass.room]
  rw [if_neg (by omega), if_neg (by omega)]

/-- The raw blocks from `pos` on, read in a streamed frame after the output of the blocks
before them, give all the bytes and end the input. -/
theorem readBlocks_rawBlocks (data : ByteArray) (ctx : Context) :
    ∀ (k pos : Nat) (pre : List UInt8) (fuel : Nat), data.size - pos = k → pos ≤ data.size →
      k / blockMax < fuel →
        readBlocks (ofList (pre ++ rawBlocks data pos)) .streamed blockMax fuel pre.length ctx
          (data.extract 0 pos) = .ok (data, (ofList (pre ++ rawBlocks data pos)).size) := by
  intro k
  induction k using Nat.strong_induction_on with
  | _ k ih =>
    intro pos pre fuel hk hpos hfuel
    obtain ⟨f, rfl⟩ : ∃ f, fuel = f + 1 := ⟨fuel - 1, by have := Nat.lt_of_le_of_lt (Nat.zero_le _) hfuel; omega⟩
    by_cases hend : pos + blockMax ≥ data.size
    · -- the last block holds the rest of the bytes
      have hraw : rawBlocks data pos =
          bytesLE ((data.size - pos) * 8 + 1) 3 ++ (data.extract pos data.size).toList := by
        rw [rawBlocks, if_pos hend]
      have hchunk : (data.extract pos data.size).toList.length = data.size - pos := by
        rw [toList_eq_data_toList]
        simp
      rw [hraw, ← List.append_assoc]
      have hheader := readLE_ofList_bytesLE pre (data.extract pos data.size).toList
        ((data.size - pos) * 8 + 1) 3
      have hsmall : ((data.size - pos) * 8 + 1) % 256 ^ 3 = (data.size - pos) * 8 + 1 := by
        unfold blockMax at hend
        omega
      rw [hsmall] at hheader
      have hsrc : (ofList (pre ++ bytesLE ((data.size - pos) * 8 + 1) 3 ++
          (data.extract pos data.size).toList)).size = pre.length + 3 + (data.size - pos) := by
        rw [size_ofList]
        simp [length_bytesLE, hchunk]
        omega
      rw [readBlocks_raw true (show _ = (data.size - pos) * 8 + _ by rw [hheader]; rfl) (by omega)
        (by unfold blockMax at hend ⊢; omega)]
      have hcopy := extract_ofList (pre ++ bytesLE ((data.size - pos) * 8 + 1) 3)
        (data.extract pos data.size).toList []
      simp only [List.append_nil, List.length_append, length_bytesLE, hchunk] at hcopy
      rw [if_pos rfl, hsrc, hcopy, toList_eq_data_toList, ofList_data_toList,
        ByteArray.extract_append_extract, Nat.min_eq_left (Nat.zero_le _), Nat.max_eq_right hpos,
        ByteArray.extract_zero_size]
    · -- a full block, then the blocks after it
      have hraw : rawBlocks data pos = bytesLE (blockMax * 8) 3 ++
          (data.extract pos (pos + blockMax)).toList ++ rawBlocks data (pos + blockMax) := by
        rw [rawBlocks, if_neg hend]
      have hchunk : (data.extract pos (pos + blockMax)).toList.length = blockMax := by
        rw [toList_eq_data_toList]
        simp
        omega
      have hlist : pre ++ rawBlocks data pos = pre ++ bytesLE (blockMax * 8) 3 ++
          ((data.extract pos (pos + blockMax)).toList ++ rawBlocks data (pos + blockMax)) := by
        simp [hraw]
      have hheader := readLE_ofList_bytesLE pre
        ((data.extract pos (pos + blockMax)).toList ++ rawBlocks data (pos + blockMax)) (blockMax * 8) 3
      rw [show blockMax * 8 % 256 ^ 3 = blockMax * 8 by unfold blockMax; omega] at hheader
      have hfit : pre.length + 3 + blockMax ≤ (ofList (pre ++ bytesLE (blockMax * 8) 3 ++
          ((data.extract pos (pos + blockMax)).toList ++ rawBlocks data (pos + blockMax)))).size := by
        rw [size_ofList]
        simp [length_bytesLE, hchunk]
        omega
      have hcopy := extract_ofList (pre ++ bytesLE (blockMax * 8) 3) (data.extract pos (pos + blockMax)).toList
        (rawBlocks data (pos + blockMax))
      simp only [List.length_append, length_bytesLE, hchunk, List.append_assoc] at hcopy
      have hout : data.extract 0 pos ++ data.extract pos (pos + blockMax) = data.extract 0 (pos + blockMax) := by
        rw [ByteArray.extract_append_extract, Nat.min_eq_left (Nat.zero_le _), Nat.max_eq_right (by omega)]
      have hnext := ih (data.size - (pos + blockMax)) (by unfold blockMax at hend ⊢; omega) (pos + blockMax)
        (pre ++ bytesLE (blockMax * 8) 3 ++ (data.extract pos (pos + blockMax)).toList) f rfl (by omega)
        (by unfold blockMax at hend hfuel ⊢; omega)
      simp only [List.length_append, length_bytesLE, hchunk, List.append_assoc] at hnext
      rw [hlist, readBlocks_raw false (by rw [hheader]; rfl) hfit (Nat.le_refl _), if_neg (by simp)]
      simp only [List.append_assoc]
      rw [hcopy, toList_eq_data_toList, ofList_data_toList, hout]
      rw [toList_eq_data_toList] at hnext
      simpa only [List.append_assoc, Nat.add_assoc, toList_eq_data_toList] using hnext

/-! ## The frame -/

section Pack

variable (data : ByteArray)

/-- The bytes before the first block: the magic number, the header byte and the window byte. -/
abbrev packHead : List UInt8 := bytesLE frameMagic 4 ++ [0, packWindow.toUInt8]

theorem pack_eq : pack data = ofList (packHead ++ rawBlocks data 0) := rfl

theorem three_le_length_rawBlocks (pos : Nat) : 3 ≤ (rawBlocks data pos).length := by
  rw [rawBlocks]
  split <;> simp [length_bytesLE]

/-- The raw blocks hold every byte from `pos` on, and their headers. -/
theorem le_length_rawBlocks (pos : Nat) : data.size - pos ≤ (rawBlocks data pos).length := by
  fun_induction rawBlocks data pos with
  | case1 pos hend =>
    rw [toList_eq_data_toList]
    simp [length_bytesLE]
  | case2 pos hmore ih =>
    rw [toList_eq_data_toList]
    simp only [List.length_append, length_bytesLE, Array.length_toList, ByteArray.size_data,
      ByteArray.size_extract]
    omega

/-- A packed frame holds its six bytes of head and at least one block header. -/
theorem nine_le_size_pack : 9 ≤ (pack data).size := by
  have := three_le_length_rawBlocks data 0
  rw [pack_eq, size_ofList, List.length_append]
  simp [length_bytesLE]
  omega

/-- The header of a packed frame: no content size, no checksum, a window of 128 KiB. -/
theorem readHeader_pack : readHeader (pack data) 4 = .ok ⟨none, blockMax, false, 6⟩ := by
  have hsize := nine_le_size_pack data
  have h4 : (pack data)[4]? = some 0 := by
    rw [pack_eq, getElem?_ofList]
    rfl
  have h5 : byteAt (pack data) 5 = 56 := by
    rw [pack_eq, byteAt_ofList _ (by have := three_le_length_rawBlocks data 0; simp [length_bytesLE]; omega)]
    rfl
  simp [readHeader, h4, h5, readLE, blockMax]
  rw [if_neg (by omega)]
  rfl

theorem readFrame_pack :
    readFrame (pack data) ⟨none, blockMax, false, 6⟩ .streamed = .ok (data, (pack data).size) := by
  have hblocks := readBlocks_rawBlocks data {} data.size 0 packHead ((pack data).size + 1) (by simp)
    (Nat.zero_le _) (by
      have := le_length_rawBlocks data 0
      rw [pack_eq, size_ofList, List.length_append]
      exact Nat.lt_succ_of_le (Nat.le_trans (Nat.div_le_self _ _) (by omega)))
  rw [ByteArray.extract_same, ← pack_eq, show packHead.length = 6 by simp [length_bytesLE]] at hblocks
  simp [readFrame, FrameHeader.blockLimit, windowMax, blockMax]
  exact hblocks

/-- A packed frame expands back to its bytes. -/
theorem expand_pack : expand (pack data) = .ok data := by
  have hsize := nine_le_size_pack data
  have hmagic : readLE (pack data) 0 4 = frameMagic := by
    have := readLE_ofList_bytesLE [] ([0, packWindow.toUInt8] ++ rawBlocks data 0) frameMagic 4
    simp only [List.nil_append, List.length_nil] at this
    rw [pack_eq, List.append_assoc, this]
    rfl
  rw [expand, if_neg (show ¬((pack data).size == 0) = true by simp only [beq_iff_eq]; omega)]
  obtain ⟨f, hf⟩ : ∃ f, (pack data).size + 1 = f + 1 + 1 := ⟨(pack data).size - 1, by omega⟩
  rw [hf, readFrames, if_neg (show ¬(0 == (pack data).size) = true by simp only [beq_iff_eq]; omega),
    if_neg (by omega)]
  -- the frame is no skippable frame, and its pass is streamed, as its header gives no content size
  have hskip : ¬(frameMagic / 16 == 0x184D2A5) = true := by decide
  simp only [hmagic]
  rw [if_neg hskip, if_neg (by simp), Nat.zero_add, readHeader_pack]
  simp only [bind, Except.bind, Option.any_none, Bool.false_and, Bool.false_eq_true, if_false,
    readFrame_pack]
  rw [readFrames, if_pos (by simp), ByteArray.empty_append]

end Pack

end TagStore.Zstd
