import TagStore.Compress.Zstd.Literals
import TagStore.Compress.Zstd.Sequences
/-!
# Compress.Zstd.Block

A compressed block: its literals section, then its sequences section, carried out after
what the frame has produced so far. What a block leaves to the later blocks of its frame
is a `Context`: the last literal code, the last tables of sequence codes, and the recent
offsets. A compressed block may not be larger than the block limit, nor its literals
larger than the block limit or the room for its output.
-/

namespace TagStore.Zstd

/-- What the blocks of a frame pass on to the blocks after them. -/
structure Context where
  code : Option Huffman.Table := none
  tables : Option Tables := none
  repeats : Repeats := {}

/-- Decodes a compressed block after `out`, the frame's output so far, within the block
limit and with `room` bytes left for its output. -/
def Context.decodeBlock (c : Context) (block : ByteArray) (limit room : Nat) (out : ByteArray) :
    Except String (ByteArray × Context) := do
  if block.size > limit then throw "block too large"
  let lits ← Literals.read c.code block (min limit room)
  let (seqs, tables) ← readSequences c.tables (block.extract lits.used block.size)
  let (out, repeats) ← execute lits.bytes out.size room seqs.toList c.repeats 0 out
  pure (out, { code := lits.code, tables, repeats })

end TagStore.Zstd
