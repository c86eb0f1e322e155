import TagStore.Binary.Bytes
/-!
# Binary.Crc32

The CRC-32 checksum of a byte string, in its common form: the bits of each byte enter
lowest first, the generator is the reflected polynomial `0xEDB88320`, the register starts
with all bits set and is inverted at the end. The checksum of `123456789` is
`0xCBF43926`.

A byte step is eight bit steps; the table holds the byte step of every byte value from a
zero register, which is what a byte step needs once the byte is folded into the register.
-/

namespace TagStore.Binary.Crc32

/-- The reflected generator polynomial. -/
def polynomial : UInt32 := 0xEDB88320

/-- One bit of the register shifted out: the polynomial is added when the bit was set. -/
def bitStep (crc : UInt32) : UInt32 :=
  if crc &&& 1 == 1 then (crc >>> 1) ^^^ polynomial else crc >>> 1

/-- `n` bit steps. -/
def bits : Nat → UInt32 → UInt32
  | 0, x => x
  | n + 1, x => bits n (bitStep x)

/-- The eight bit steps of every byte value, indexed by the byte. -/
def table : Array UInt32 := (Array.range 256).map fun i => bits 8 i.toUInt32

/-- One byte into the register: fold the byte into the low bits, then eight bit steps,
read from the table. -/
def byteStep (crc : UInt32) (byte : UInt8) : UInt32 :=
  let i := ((crc ^^^ byte.toUInt32) &&& 0xFF).toNat
  (crc >>> 8) ^^^ table.getD i (bits 8 i.toUInt32)

/-- The checksum of a byte string. -/
def checksum (b : ByteArray) : UInt32 :=
  b.foldl byteStep 0xFFFFFFFF ^^^ 0xFFFFFFFF

end TagStore.Binary.Crc32
