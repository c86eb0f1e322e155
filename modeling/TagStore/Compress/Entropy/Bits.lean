import TagStore.Binary.Bytes
/-!
# Compress.Entropy.Bits

Bit-level reading of byte strings, in the two directions that entropy-coded data uses.

Bits are numbered little-endian: bit `i` is bit `i % 8` of byte `i / 8`, and a field of
`n` bits from bit `lo` is the number whose bit `k` is bit `lo + k`. Bits past the end of
the bytes read as zeros.

* A **forward** reader takes fields from bit 0 upwards.
* A **reverse** stream is read from its end towards its start. Its last byte carries a
  marker, its highest set bit, above which nothing counts, so a stream never ends in a
  zero byte. Each field taken is the run of bits just below those already taken. Bits
  below the start read as zeros, and a stream is *consumed* when exactly the bits below
  the marker have been taken.
-/

namespace TagStore.Bits

open Binary

/-- The field of `n` bits from bit `lo`. -/
def field (b : ByteArray) (lo n : Nat) : Nat :=
  readLE b (lo / 8) ((lo % 8 + n + 7) / 8) / Nat.pow 2 (lo % 8) % Nat.pow 2 n

/-! ## Forward reading -/

/-- A forward reader: the bytes and the next bit. -/
structure Forward where
  bytes : ByteArray
  pos : Nat := 0

namespace Forward

/-- Take a field of `n` bits. -/
def read (r : Forward) (n : Nat) : Nat × Forward :=
  (field r.bytes r.pos n, { r with pos := r.pos + n })

/-- The bytes begun so far, a partly read byte counting as whole. -/
def bytesUsed (r : Forward) : Nat := (r.pos + 7) / 8

end Forward

/-! ## Reverse reading -/

/-- A stream read from its end: the bytes, the number of bits below the marker, and the
number of bits taken. -/
structure Reverse where
  bytes : ByteArray
  total : Nat
  used : Nat := 0

namespace Reverse

/-- The stream over some bytes: none when they are empty or end in a zero byte. -/
def ofBytes? (b : ByteArray) : Option Reverse :=
  match b[b.size - 1]? with
  | some last => if last == 0 then none else some ⟨b, 8 * (b.size - 1) + Nat.log2 last.toNat, 0⟩
  | none => none

/-- Take a field of `n` bits: the `n` bits below those already taken, zeros below the
start. -/
def read (s : Reverse) (n : Nat) : Nat × Reverse :=
  let left := s.total - s.used
  let v := if n ≤ left then field s.bytes (left - n) n
    else field s.bytes 0 left * Nat.pow 2 (n - left)
  (v, { s with used := s.used + n })

/-- The field of `n` bits that `read` would take, without taking it. -/
def peek (s : Reverse) (n : Nat) : Nat := (s.read n).1

/-- Whether exactly the bits below the marker have been taken. -/
def consumed (s : Reverse) : Bool := s.used == s.total

/-- Whether more bits have been taken than the stream holds. -/
def overflowed (s : Reverse) : Bool := s.total < s.used

end Reverse

end TagStore.Bits
