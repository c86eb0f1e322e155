import TagStore.Binary.Bytes
/-!
# Compress.Snappy

Snappy blocks. A block starts with its expanded length as a little-endian base-128
varint, below 2^32, and goes on with elements: a literal (tag bits `00`, a length of up
to 60 in the tag or in 1 to 4 more bytes, then the bytes) or a copy of earlier output
(tags `01`, `10` and `11`, with an offset of 11, 16 or 32 bits). A copy must reach back
no further than what is written, and the elements must fill exactly the length the
block starts with.

A literal whose length needs more bytes is read only when 4 bytes are left, as the reader
of the format does. Packing writes the length and the data as literals of at most 60
bytes.
-/

namespace TagStore.Snappy

open Binary

/-- The largest length a block may announce. -/
def maxLength : Nat := Nat.pow 2 32 - 1

/-- A varint from `pos`: its value (kept to 64 bits, as bits past them fall away) and the
position after it; at most ten bytes. -/
def varint (src : ByteArray) : Nat → Nat → Nat → Nat → Option (Nat × Nat)
  | 0, _, _, _ => none
  | fuel + 1, pos, shift, acc =>
    match src[pos]? with
    | none => none
    | some b =>
      let part := (b.toNat % 128 * Nat.pow 2 shift) % Nat.pow 2 64
      if b.toNat < 128 then some (acc ||| part, pos + 1)
      else varint src fuel (pos + 1) (shift + 7) (acc ||| part)

/-- Expands the elements from `pos` into `out`, which must end at `total` bytes. -/
def expandFrom (src : ByteArray) (total : Nat) : Nat → Nat → ByteArray → Except String ByteArray
  | 0, _, _ => .error "block too long"
  | fuel + 1, pos, out =>
    match src[pos]? with
    | none =>
      if out.size == total then .ok out else .error "length does not match the header"
    | some tag =>
      let t := tag.toNat
      let pos := pos + 1
      if t % 4 == 0 then
        let short := t / 4
        let lenResult : Except String (Nat × Nat) :=
          if short < 60 then .ok (short + 1, pos)
          else if pos + 4 > src.size then .error "literal runs past the end"
          else
            let extra := short - 59
            .ok (readLE src pos extra + 1, pos + extra)
        match lenResult with
        | .error e => .error e
        | .ok (len, start) =>
          if start + len > src.size || out.size + len > total then .error "literal runs past the end"
          else expandFrom src total fuel (start + len) (out ++ src.extract start (start + len))
      else
        let extra := if t % 4 == 1 then 1 else if t % 4 == 2 then 2 else 4
        if pos + extra > src.size then .error "copy runs past the end"
        else
          let (len, dist) :=
            if t % 4 == 1 then (t / 4 % 8 + 4, t / 32 * 256 + byteAt src pos)
            else (t / 4 + 1, readLE src pos extra)
          if dist == 0 || dist > out.size then .error "copy offset out of range"
          else if out.size + len > total then .error "copy runs past the end"
          else expandFrom src total fuel (pos + extra) (copyBack dist len out)

/-- Expands a block. -/
def expand (src : ByteArray) : Except String ByteArray :=
  if src.size == 0 then .error "empty block"
  else
    match varint src 10 0 0 0 with
    | none => .error "bad length header"
    | some (total, start) =>
      if total > maxLength then .error "block too large"
      else expandFrom src total (src.size + 1) start ByteArray.empty

/-- The varint of a number. -/
def varintBytes (n : Nat) : List UInt8 :=
  let rec go : Nat → Nat → List UInt8
    | 0, _ => []
    | fuel + 1, v => if v < 128 then [v.toUInt8] else (v % 128 + 128).toUInt8 :: go fuel (v / 128)
  go 10 n

/-- Literal elements for bytes from `pos`, at most 60 bytes each. -/
def literals (data : ByteArray) (pos : Nat) : List UInt8 :=
  if pos < data.size then
    let n := min 60 (data.size - pos)
    ((n - 1) * 4).toUInt8 :: (data.extract pos (pos + n)).toList ++ literals data (pos + n)
  else []
termination_by data.size - pos

/-- A block holding the bytes as literals. -/
def pack (data : ByteArray) : ByteArray := ofList (varintBytes data.size ++ literals data 0)

end TagStore.Snappy
