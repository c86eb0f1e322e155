import TagStore.Compress.Entropy.Huffman
/-!
# Compress.Zstd.Literals

The literals section that opens a compressed block: the bytes that the block's
sequences copy out between their matches.

Its first byte gives the kind in its low two bits and a size format in the next two.

* **Raw** and **repeated-byte** literals have a header of one byte (formats 0 and 2: the
  size in the top five bits), two bytes (format 1: twelve bits) or three bytes
  (format 3: twenty bits), the size counted from bit 4. The bytes, or the one byte to
  repeat, follow.
* **Huffman-coded** literals, and **reusing** ones that keep the previous block's code,
  give the regenerated and the coded size in a header of three bytes (formats 0 and 1,
  ten bits each), four bytes (format 2, fourteen bits each) or five bytes (format 3,
  eighteen bits each), from bit 4. Format 0 is one stream, the others four streams,
  which need at least six literals. Fresh code comes first in the coded bytes, and some
  stream bytes must follow it; reusing literals need an earlier code in the frame.

The literals may not outgrow the block limit, and a coded literals section must be at least
five bytes long.
-/

namespace TagStore.Zstd

open Binary

/-- The literals of a block: the bytes, the length of the section, and the code to keep for
later blocks. -/
structure Literals where
  bytes : ByteArray
  used : Nat
  code : Option Huffman.Table

/-- Reads the literals section at the start of a block, given the code of earlier blocks
and the block limit. -/
def Literals.read (previous : Option Huffman.Table) (b : ByteArray) (limit : Nat) :
    Except String Literals := do
  let some first := b[0]? | throw "empty block"
  let first := first.toNat
  let kind := first % 4
  let format := first / 4 % 4
  if kind < 2 then
    let (header, size) :=
      match format with
      | 1 => (2, readLE b 0 2 / 16)
      | 3 => (3, readLE b 0 3 / 16)
      | _ => (1, first / 8)
    if size > limit then throw "literals too large"
    if kind == 0 then
      if header + size > b.size then throw "literals run past the block"
      pure ⟨b.extract header (header + size), header + size, previous⟩
    else
      let some byte := b[header]? | throw "literals run past the block"
      pure ⟨ofList (List.replicate size byte), header + 1, previous⟩
  else
    if b.size < 5 then throw "literals section too short"
    let (header, size, coded) :=
      match format with
      | 2 => (4, readLE b 0 4 / 16 % Nat.pow 2 14, readLE b 0 4 / Nat.pow 2 18)
      | 3 => (5, readLE b 0 5 / 16 % Nat.pow 2 18, readLE b 0 5 / Nat.pow 2 22)
      | _ => (3, readLE b 0 3 / 16 % 1024, readLE b 0 3 / Nat.pow 2 14)
    let single := format == 0
    if size > limit then throw "literals too large"
    if !single && size < 6 then throw "too few literals for four streams"
    if header + coded > b.size then throw "literals run past the block"
    let codedPart := b.extract header (header + coded)
    let (code, streams) ← if kind == 2 then do
        let (code, used) ← Huffman.readTable codedPart
        if used ≥ codedPart.size then throw "no literal streams"
        pure (code, codedPart.extract used codedPart.size)
      else
        match previous with
        | some code => pure (code, codedPart)
        | none => throw "no earlier literal code"
    let bytes ← if single then Huffman.decodeStream code streams size
      else Huffman.decodeFour code streams size
    pure ⟨bytes, header + coded, some code⟩

end TagStore.Zstd
