import TagStore.Codec
import TagStore.Storage.Registry
import TagStore.Storage.Record
import TagStore.Storage.Files
import TagStore.Binary.Serial
import TagStore.Binary.Crc32
/-!
# Storage.DatasetFile

One dataset as one file: a record of the format version (1), the dataset's name, its
configuration and metadata, and its documents with their write metadata, each document
written by the engine's codec; after the record, its CRC-32 as four little-endian bytes.

Reading checks, in this order, that the file has at least the four bytes of the checksum,
that the checksum matches, that the record reads, that its version is 1, and that the
configuration and metadata decode; any of these failing fails the whole file. A document
that does not decode, or lacks its write time, is left out and the rest is read.
-/

namespace TagStore

/-- The version of the dataset file format. -/
def datasetFormatVersion : Nat := 1

/-- What a dataset file holds. -/
structure LoadedDataset where
  name : String
  record : DatasetRecord
  documents : List StoredDocument

/-- The raw fields of a dataset file's record. -/
structure DatasetFileRecord where
  version : Nat
  name : String
  config : ByteArray
  metadata : ByteArray
  documents : List ByteArray

namespace DatasetFileRecord

/-- The record in the binary serial form. -/
def write (r : DatasetFileRecord) : ByteArray :=
  Binary.Serial.u32 r.version ++ Binary.Serial.text r.name ++ Binary.Serial.bytes r.config ++
    Binary.Serial.bytes r.metadata ++ Binary.Serial.seq (r.documents.map Binary.Serial.bytes)

/-- The record read from the front of a byte string. -/
def read? (b : ByteArray) : Option DatasetFileRecord := do
  let (version, pos) ← Binary.Serial.readU32 b 0
  let (name, pos) ← Binary.Serial.readText b pos
  let (config, pos) ← Binary.Serial.readBytes b pos
  let (metadata, pos) ← Binary.Serial.readBytes b pos
  let (documents, _) ← Binary.Serial.readSeq Binary.Serial.readBytes b pos
  pure ⟨version, name, config, metadata, documents⟩

end DatasetFileRecord

/-- The bytes of a dataset file. -/
def encodeDatasetFile (codec : Codec) (name : String) (record : DatasetRecord)
    (documents : List StoredDocument) : ByteArray :=
  let body := DatasetFileRecord.write
    ⟨datasetFormatVersion, name, codec.encode record.config, codec.encode record.metadata,
      documents.map fun d => codec.encode d.toDocument⟩
  body ++ Binary.ofList (Binary.bytesLE (Binary.Crc32.checksum body).toNat 4)

/-- A damaged dataset file: its path and what is wrong. -/
def corruptFile (path : Path) (reason : String) : Error := .parse (path.display ++ ": " ++ reason)

/-- Read the bytes of the dataset file at `path`. -/
def decodeDatasetFile (codec : Codec) (path : Path) (data : ByteArray) : Outcome LoadedDataset := do
  if data.size < 4 then throw (corruptFile path "file too short")
  let body := data.extract 0 (data.size - 4)
  let expected := Binary.readLE data (data.size - 4) 4
  if (Binary.Crc32.checksum body).toNat != expected then throw (corruptFile path "checksum mismatch")
  let some file := DatasetFileRecord.read? body
    | throw (.parse "malformed dataset record")
  if file.version != datasetFormatVersion then
    throw (corruptFile path ("unsupported format version " ++ toString file.version))
  let config ← codec.decode file.config
  let metadata ← codec.decode file.metadata
  let documents := file.documents.filterMap fun bytes =>
    match codec.decode bytes >>= StoredDocument.ofDocument with
    | .ok d => some d
    | .error _ => none
  pure ⟨file.name, ⟨config, metadata⟩, documents⟩

end TagStore
