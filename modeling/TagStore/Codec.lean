import TagStore.Config
import TagStore.Error
import TagStore.Document
import TagStore.Json.Read
import TagStore.Json.Write
import TagStore.Compress.Lz4
import TagStore.Compress.Snappy
import TagStore.Compress.Zstd
/-!
# Codec

Documents as bytes. The plain codec writes a document as compact JSON. The framed codec
puts a five-byte header before the compressed JSON: a tag byte naming the compression
(0 none, 1 LZ4, 2 Zstandard, 3 Snappy) and the JSON's length as a 32-bit little-endian
number. A reader goes by the tag, whatever its own compression: so any framed codec reads
what any other wrote.

A frame under five bytes, or with an unknown tag, is malformed; compressed bytes that do
not expand are an input failure; bytes that are no document are a JSON failure. An LZ4
payload expands within the length of the header, which may not pass `7E000000`.
-/

namespace TagStore

namespace Compression

/-- The tag byte of a compression. -/
def tag : Compression → Nat
  | .none => 0
  | .lz4 => 1
  | .zstd => 2
  | .snappy => 3

/-- The compression of a tag byte. -/
def ofTag? : Nat → Option Compression
  | 0 => some .none
  | 1 => some .lz4
  | 2 => some .zstd
  | 3 => some .snappy
  | _ => Option.none

/-- Compresses bytes. -/
def pack : Compression → ByteArray → ByteArray
  | .none, b => b
  | .lz4, b => Lz4.pack b
  | .zstd, b => Zstd.pack b
  | .snappy, b => Snappy.pack b

/-- Expands bytes; `size` is the length the frame header gives. -/
def expand (c : Compression) (b : ByteArray) (size : Nat) : Outcome ByteArray :=
  let result : Except String ByteArray := match c with
    | .none => .ok b
    | .lz4 =>
      if size ≥ Nat.pow 2 31 then .error "size must not be negative"
      else if size > 0x7E000000 then .error "size too big"
      else Lz4.expand b size
    | .zstd => Zstd.expand b
    | .snappy => Snappy.expand b
  match result with
  | .ok out => .ok out
  | .error e => .error (.io e)

end Compression

/-- A document as compact JSON bytes. -/
def Document.encode (d : Document) : ByteArray := (Json.render d.toJson).toUTF8

/-- A document read from JSON bytes. -/
def Document.decode (b : ByteArray) : Outcome Document :=
  match Json.parseWrittenBytes b with
  | .error _ => .error (.json "invalid JSON")
  | .ok j =>
    match Document.ofSource? (.ofJson j) with
    | some d => .ok d
    | none => .error (.json "invalid document")

/-- How documents become bytes. -/
inductive Codec where
  /-- Compact JSON. -/
  | plain
  /-- Compressed JSON behind a five-byte header. -/
  | framed (c : Compression)

namespace Codec

/-- The codec a configured compression stores with: plain for none. -/
def ofCompression (c : Compression) : Codec :=
  match c with
  | .none => .plain
  | c => .framed c

/-- The name of a codec. -/
def name : Codec → String
  | .plain | .framed .none => "json"
  | .framed .lz4 => "json+lz4"
  | .framed .zstd => "json+zstd"
  | .framed .snappy => "json+snappy"

/-- The header of a frame: the tag and the length. -/
def header (c : Compression) (length : Nat) : ByteArray :=
  Binary.ofList (c.tag.toUInt8 :: Binary.bytesLE length 4)

/-- Writes a document. -/
def encode : Codec → Document → ByteArray
  | .plain, d => d.encode
  | .framed c, d =>
    let raw := d.encode
    header c raw.size ++ c.pack raw

/-- Reads a document. -/
def decode : Codec → ByteArray → Outcome Document
  | .plain, b => Document.decode b
  | .framed _, b => do
    if b.size < 5 then .error (.parse "Encoded poly too short")
    let t := Binary.byteAt b 0
    let some c := Compression.ofTag? t
      | .error (.parse ("Unknown compression tag " ++ toString t))
    let raw ← c.expand (b.extract 5 b.size) (Binary.readLE b 1 4)
    Document.decode raw

end Codec

end TagStore
