import TagStore.Index.Key
import TagStore.Error
/-!
# Storage.Record

A document as a backend holds it: the caller's document, the tags it is filed under,
its write time and its sequence number. The backend's own metadata keys `_indexes`,
`_update_date` and `_seq` are never kept in the caller's part: they are stripped on the
way in and written from the record on the way out, so what a caller puts there never
survives a write.
-/

namespace TagStore

/-- A stored document. -/
structure StoredDocument where
  document : Document
  tags : TagSet
  /-- Write time in milliseconds. -/
  timestamp : Int64
  seq : UInt64

/-- A document without the backend's own metadata keys. -/
def Document.stripWriteMetadata (d : Document) : Document :=
  { d with metadata := d.metadata.filter fun (k, _) => k != indexesKey && k != updateDateKey && k != sequenceKey }

namespace StoredDocument

/-- A stored document; the backend's own metadata keys are stripped from the document. -/
def new (d : Document) (tags : TagSet) (timestamp : Int64) (seq : UInt64) : StoredDocument :=
  ⟨d.stripWriteMetadata, tags, timestamp, seq⟩

/-- The id. -/
def id (s : StoredDocument) : String := s.document.id

/-- The entry the index files. -/
def entry (s : StoredDocument) : IndexEntry := ⟨s.id, s.tags, s.timestamp, s.seq⟩

/-- The document with `_indexes`, `_update_date` and `_seq` in its metadata. -/
def toDocument (s : StoredDocument) : Document :=
  ((s.document.putMetadata indexesKey (Json.strings s.tags.toList)).putMetadata updateDateKey
    (Json.ofInt64 s.timestamp)).putMetadata sequenceKey (Json.ofUInt64 s.seq)

/-- Read a stored document back from its document form: the tags from `_indexes`, the
write time from `_update_date`, which must be a signed 64-bit integer, and the sequence
number from `_seq`, zero when absent or not an unsigned integer. -/
def ofDocument (d : Document) : Outcome StoredDocument :=
  match (d.fetchMetadata updateDateKey).bind Json.toInt64? with
  | none => .error (.parse ("document " ++ d.id ++ " has no " ++ updateDateKey))
  | some ts =>
    let seq := ((d.fetchMetadata sequenceKey).bind Json.toUInt64?).getD 0
    .ok ⟨d.stripWriteMetadata, d.tags, ts, seq⟩

end StoredDocument

/-- Every id of a batch must be non-blank before anything is applied. -/
def validateIds (ids : List String) : Outcome Unit :=
  if ids.any Text.isBlankText then .error (.invalidArgument "document id must not be empty")
  else .ok ()

end TagStore
