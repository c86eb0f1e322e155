import TagStore.Binary.Bytes
/-!
# Binary.XxHash

The 64-bit xxHash of a byte string, which a compressed frame carries the low half of as
its checksum. Four lanes take 32-byte stripes; the lanes are folded together, the length
added, the last 8-byte, 4-byte and single-byte pieces mixed in, and the result spread by
shifts and multiplications. All arithmetic wraps at 2^64.
-/

namespace TagStore.Binary.XxHash

def prime1 : UInt64 := 11400714785074694791
def prime2 : UInt64 := 14029467366897019727
def prime3 : UInt64 := 1609587929392839161
def prime4 : UInt64 := 9650029242287828579
def prime5 : UInt64 := 2870177450012600261

/-- Rotation to the left. -/
def rotl (x : UInt64) (r : UInt64) : UInt64 := (x <<< r) ||| (x >>> (64 - r))

/-- One lane step over an 8-byte word. -/
def round (acc input : UInt64) : UInt64 := rotl (acc + input * prime2) 31 * prime1

/-- Folds a lane into the hash. -/
def merge (h lane : UInt64) : UInt64 := (h ^^^ round 0 lane) * prime1 + prime4

/-- The little-endian word of `n` bytes at a position. -/
def word (b : ByteArray) (pos n : Nat) : UInt64 := (readLE b pos n).toUInt64

/-- The four lanes after the stripes from `pos` on. -/
def stripes (b : ByteArray) (pos : Nat) (v : UInt64 × UInt64 × UInt64 × UInt64) :
    Nat × (UInt64 × UInt64 × UInt64 × UInt64) :=
  if pos + 32 ≤ b.size then
    let (v1, v2, v3, v4) := v
    stripes b (pos + 32) (round v1 (word b pos 8), round v2 (word b (pos + 8) 8),
      round v3 (word b (pos + 16) 8), round v4 (word b (pos + 24) 8))
  else (pos, v)
termination_by b.size - pos

/-- Mixes in the bytes from `pos` to the end. -/
def tail (b : ByteArray) (pos : Nat) (h : UInt64) : UInt64 :=
  if pos + 8 ≤ b.size then
    tail b (pos + 8) (rotl (h ^^^ round 0 (word b pos 8)) 27 * prime1 + prime4)
  else if pos + 4 ≤ b.size then
    tail b (pos + 4) (rotl (h ^^^ word b pos 4 * prime1) 23 * prime2 + prime3)
  else if pos < b.size then
    tail b (pos + 1) (rotl (h ^^^ word b pos 1 * prime5) 11 * prime1)
  else h
termination_by b.size - pos

/-- Spreads the bits of the hash. -/
def avalanche (h : UInt64) : UInt64 :=
  let h := (h ^^^ (h >>> 33)) * prime2
  let h := (h ^^^ (h >>> 29)) * prime3
  h ^^^ (h >>> 32)

/-- The hash of bytes with a seed. -/
def hash (b : ByteArray) (seed : UInt64 := 0) : UInt64 :=
  let (pos, h) :=
    if b.size ≥ 32 then
      let (pos, (v1, v2, v3, v4)) :=
        stripes b 0 (seed + prime1 + prime2, seed + prime2, seed, seed - prime1)
      let h := rotl v1 1 + rotl v2 7 + rotl v3 12 + rotl v4 18
      (pos, merge (merge (merge (merge h v1) v2) v3) v4)
    else (0, seed + prime5)
  avalanche (tail b pos (h + b.size.toUInt64))

end TagStore.Binary.XxHash
