import TagStore.Binary.Bytes
import TagStore.Binary.XxHash
import TagStore.Compress.Zstd.Block
/-!
# Compress.Zstd

Zstandard frames. A stream is a run of frames, each either skippable (a magic number
from `184D2A50` to `184D2A5F`, a length and that many bytes, giving nothing) or a data
frame: the magic number `FD2FB528`, a header, blocks, and an optional checksum.

The header byte gives the size of the content-size field, whether the frame is one
segment (then there is no window byte and the window is the content size), whether a
checksum follows, and the size of the dictionary id, which must be 0 since no dictionary
is known; its reserved bit must be clear, and the window exponent may not pass 31. Each
block has a three-byte header: a last-block bit, a type (raw, repeated byte, compressed,
reserved) and a size. The block limit is the smaller of the window and 128 KiB. The
content must have the size the header gives, and the checksum must be the low half of
the content's 64-bit xxHash.

A frame is read in one of two ways, decided by the room the reader offers for output
when the frame begins (`Reads`). A frame that gives its content size, fits that room and
lies whole in the input is read in one pass: its window may be of any size, and raw and
repeated-byte blocks may exceed the block limit; a compressed block and its literals may
not. Any other frame is streamed: its window, taken as at least 1 KiB, may not pass
2^27 + 1 bytes, and no block may hold or give more than the block limit. A read gives
a whole frame read in one pass, and as much of a streamed frame as fits; a frame that
gives nothing leaves the read going on.

Compressed blocks are decoded by `Context.decodeBlock`, the context passing from block to
block within a frame. Packing writes one streamed frame of raw blocks.
-/

namespace TagStore.Zstd

open Binary

/-- The magic number of a data frame. -/
def frameMagic : Nat := 0xFD2FB528

/-- The largest block. -/
def blockMax : Nat := 128 * 1024

/-- The largest window a streamed frame may have. -/
def windowMax : Nat := Nat.pow 2 27 + 1

/-- The size of the reader's first reads. -/
def readSize : Nat := 8192

/-- How the reader offers room for output. Until it holds 8 KiB its reads share 8 KiB, and
its buffer grows to fit what arrives, at least doubling; after that it makes room for
8 KiB more whenever the buffer is full, doubling the buffer at least, and offers the
buffer's free space, at most `largest` bytes, which doubles after a read that fills it. -/
structure Reads where
  taken : Nat := 0
  capacity : Nat := 0
  largest : Nat := readSize

namespace Reads

/-- The buffer after making room for 8 KiB more. -/
def reserve (r : Reads) : Reads :=
  if r.capacity - r.taken < readSize then
    { r with capacity := max (2 * r.capacity) (r.taken + readSize) }
  else r

/-- The room of the next read. -/
def room (r : Reads) : Nat :=
  if r.taken < readSize then readSize - r.taken else min r.largest (r.capacity - r.taken)

/-- The reader after a read that gave `n` bytes. -/
def after (r : Reads) (n : Nat) : Reads :=
  let taken := r.taken + n
  if r.taken < readSize then
    let capacity := if taken > r.capacity then max (max (2 * r.capacity) taken) 8 else r.capacity
    let r := { r with taken, capacity }
    if taken == readSize then r.reserve else r
  else
    let largest := if n == r.room then 2 * r.largest else r.largest
    let r := { r with taken, largest }
    if taken == r.capacity then r.reserve else r

/-- The reader after reads that give `n` bytes, each as much as its room allows. -/
def feed : Nat → Reads → Nat → Reads
  | 0, r, _ => r
  | fuel + 1, r, n =>
    if n == 0 then r
    else
      let k := min n r.room
      if k == 0 then r else feed fuel (r.after k) (n - k)

end Reads

/-- What a frame header says. -/
structure FrameHeader where
  contentSize : Option Nat
  window : Nat
  checksum : Bool
  /-- The position of the first block. -/
  start : Nat

/-- The block limit of a frame: its window, at most 128 KiB. -/
def FrameHeader.blockLimit (h : FrameHeader) : Nat := min h.window blockMax

/-- Reads a frame header after the magic number at `pos`. -/
def readHeader (src : ByteArray) (pos : Nat) : Except String FrameHeader := do
  let some fhd := src[pos]? | .error "incomplete frame"
  let fhd := fhd.toNat
  let fcsCode := fhd / 64
  let single := fhd / 32 % 2 == 1
  let checksum := fhd / 4 % 2 == 1
  let dictCode := fhd % 4
  if fhd / 8 % 2 == 1 then .error "reserved bit set"
  let windowBytes := if single then 0 else 1
  let dictBytes := match dictCode with
    | 0 => 0 | 1 => 1 | 2 => 2 | _ => 4
  let fcsBytes := match fcsCode with
    | 0 => if single then 1 else 0 | 1 => 2 | 2 => 4 | _ => 8
  let headerEnd := pos + 1 + windowBytes + dictBytes + fcsBytes
  if headerEnd > src.size then .error "incomplete frame"
  let window? : Option Nat :=
    if single then none
    else
      let wd := byteAt src (pos + 1)
      let exponent := wd / 8 + 10
      let base := Nat.pow 2 exponent
      some (base + base / 8 * (wd % 8))
  if window?.any (fun _ => byteAt src (pos + 1) / 8 + 10 > 31) then .error "window too large"
  let dictId := readLE src (pos + 1 + windowBytes) dictBytes
  if dictId != 0 then .error "dictionary unknown"
  let fcsPos := pos + 1 + windowBytes + dictBytes
  let contentSize : Option Nat := match fcsCode with
    | 0 => if single then some (byteAt src fcsPos) else none
    | 1 => some (readLE src fcsPos 2 + 256)
    | 2 => some (readLE src fcsPos 4)
    | _ => some (readLE src fcsPos 8)
  let window := match window? with
    | some w => w
    | none => contentSize.getD 0
  pure ⟨contentSize, window, checksum, headerEnd⟩

/-- The position after the blocks from `pos`, when every block header is readable, no
block is of the reserved type and every block lies in the input; a repeated-byte block
takes one byte. -/
def blocksEnd (src : ByteArray) : Nat → Nat → Option Nat
  | 0, _ => none
  | fuel + 1, pos =>
    if pos + 3 > src.size then none
    else
      let h := readLE src pos 3
      let kind := h / 2 % 4
      let size := if kind == 1 then 1 else h / 8
      if kind == 3 || pos + 3 + size > src.size then none
      else if h % 2 == 1 then some (pos + 3 + size)
      else blocksEnd src fuel (pos + 3 + size)

/-- Whether the data frame whose header is `hdr` lies whole in the input, its checksum
included. -/
def FrameHeader.isWhole (hdr : FrameHeader) (src : ByteArray) : Bool :=
  match blocksEnd src (src.size + 1) hdr.start with
  | some e => !hdr.checksum || e + 4 ≤ src.size
  | none => false

/-- How a frame is read: in one pass with room for `room` bytes of output, or streamed. -/
inductive Pass where
  | whole (room : Nat)
  | streamed

/-- The room a block of a frame read by `pass` has for its output, `done` bytes of the
frame being written. -/
def Pass.room (pass : Pass) (limit done : Nat) : Nat :=
  match pass with
  | .whole room => room - done
  | .streamed => limit

/-- Expands the blocks of a frame from `pos` after `out`, the frame's output so far;
gives the output and the position after the last block. -/
def readBlocks (src : ByteArray) (pass : Pass) (limit : Nat) :
    Nat → Nat → Context → ByteArray → Except String (ByteArray × Nat)
  | 0, _, _, _ => .error "too many blocks"
  | fuel + 1, pos, ctx, out =>
    if pos + 3 > src.size then .error "incomplete frame"
    else
      let h := readLE src pos 3
      let last := h % 2 == 1
      let kind := h / 2 % 4
      let size := h / 8
      let body := pos + 3
      let room := pass.room limit out.size
      let step : Except String (ByteArray × Nat × Context) :=
        match kind with
        | 0 =>
          if body + size > src.size then .error "incomplete frame"
          else if size > room then .error "block too large"
          else .ok (out ++ src.extract body (body + size), body + size, ctx)
        | 1 =>
          match src[body]? with
          | some b =>
            if size > room then .error "block too large"
            else .ok (out ++ ofList (List.replicate size b), body + 1, ctx)
          | none => .error "incomplete frame"
        | 2 =>
          if body + size > src.size then .error "incomplete frame"
          else
            match ctx.decodeBlock (src.extract body (body + size)) limit room out with
            | .ok (out, ctx) => .ok (out, body + size, ctx)
            | .error e => .error e
        | _ => .error "reserved block type"
      match step with
      | .error e => .error e
      | .ok (out, next, ctx) =>
        if last then .ok (out, next)
        else readBlocks src pass limit fuel next ctx out

/-- Reads the data frame whose header is `hdr`, in the way `pass` says: its content and
the position after it. -/
def readFrame (src : ByteArray) (hdr : FrameHeader) (pass : Pass) :
    Except String (ByteArray × Nat) := do
  if pass matches .streamed && max hdr.window 1024 > windowMax then .error "window too large"
  let (content, after) ← readBlocks src pass hdr.blockLimit (src.size + 1) hdr.start {} ByteArray.empty
  if hdr.contentSize.any (· != content.size) then .error "content size mismatch"
  if hdr.checksum then
    if after + 4 > src.size then .error "incomplete frame"
    else if readLE src after 4 != (XxHash.hash content).toNat % Nat.pow 2 32 then
      .error "checksum mismatch"
    else pure (content, after + 4)
  else pure (content, after)

/-- Expands the frames from `pos`, appending to `out`; `reads` is how the reader stands. -/
def readFrames (src : ByteArray) : Nat → Nat → Reads → ByteArray → Except String ByteArray
  | 0, _, _, _ => .error "too many frames"
  | fuel + 1, pos, reads, out =>
    if pos == src.size then .ok out
    else if pos + 4 > src.size then .error "incomplete frame"
    else
      let magic := readLE src pos 4
      if magic / 16 == 0x184D2A5 then
        if pos + 8 > src.size then .error "incomplete frame"
        else
          let next := pos + 8 + readLE src (pos + 4) 4
          if next > src.size then .error "incomplete frame" else readFrames src fuel next reads out
      else if magic != frameMagic then .error "unknown frame descriptor"
      else do
        let hdr ← readHeader src (pos + 4)
        let room := reads.room
        let pass : Pass :=
          if hdr.contentSize.any (· ≤ room) && hdr.isWhole src then .whole room else .streamed
        let (content, next) ← readFrame src hdr pass
        readFrames src fuel next (Reads.feed (content.size + 1) reads content.size) (out ++ content)

/-- Expands a stream of frames; an empty stream is an incomplete frame. -/
def expand (src : ByteArray) : Except String ByteArray :=
  if src.size == 0 then .error "incomplete frame"
  else readFrames src (src.size + 1) 0 {} ByteArray.empty

/-- Raw blocks of at most 128 KiB for bytes from `pos`; the last one is marked. -/
def rawBlocks (data : ByteArray) (pos : Nat) : List UInt8 :=
  if pos + blockMax ≥ data.size then
    bytesLE ((data.size - pos) * 8 + 1) 3 ++ (data.extract pos data.size).toList
  else
    bytesLE (blockMax * 8) 3 ++ (data.extract pos (pos + blockMax)).toList ++
      rawBlocks data (pos + blockMax)
termination_by data.size - pos
decreasing_by simp only [blockMax] at *; omega

/-- The window descriptor of a 128 KiB window: exponent 17, no mantissa. -/
def packWindow : Nat := (17 - 10) * 8

/-- One frame of raw blocks holding the bytes, with a 128 KiB window and neither a content
size nor a checksum, as a streaming compressor writes it. -/
def pack (data : ByteArray) : ByteArray :=
  ofList (bytesLE frameMagic 4 ++ [0, packWindow.toUInt8] ++ rawBlocks data 0)

end TagStore.Zstd
