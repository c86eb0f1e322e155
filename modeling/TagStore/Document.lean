import Std.Data.ExtTreeSet
import TagStore.Json.Record
import TagStore.Json.Write
import TagStore.Text.Blank
/-!
# Document

A document has an immutable id, free-form `data` and out-of-band `metadata`, both
objects of the document format. It is written as `{"_id": id, "data": …, "metadata": …}`
and read back from that shape: the id is required, the two objects default to empty.

Reserved names: every document is filed under the chronological tag `_date` unless the
caller opts out; a dataset's configuration and metadata are documents with the ids
`_config` and `_metadata`; a stored document records its tags, write time and sequence
number under the metadata keys `_indexes`, `_update_date` and `_seq`.
-/

namespace TagStore

/-- A set of tags, sorted by code point. -/
abbrev TagSet := Std.ExtTreeSet String compare

/-- The tag every document is filed under unless the caller opts out. -/
def dateTag : String := "_date"

/-- The id of a dataset's configuration document. -/
def configId : String := "_config"

/-- The id of a dataset's metadata document. -/
def metadataId : String := "_metadata"

/-- The configuration key for the page size. -/
def itemPerPageKey : String := "item_per_page"

/-- The page size of a dataset created without one. -/
def defaultItemPerPage : Nat := 10

/-- Metadata key of the tags a stored document is filed under. -/
def indexesKey : String := "_indexes"

/-- Metadata key of a stored document's write time, in milliseconds. -/
def updateDateKey : String := "_update_date"

/-- Metadata key of a dataset's creation time. -/
def createDateKey : String := "_create_date"

/-- Metadata key of a stored document's sequence number. -/
def sequenceKey : String := "_seq"

/-- The key of a tag's document count in index documents. -/
def countKey : String := "count"

/-- An unsigned number read from a text: blanks around it trimmed, an optional `+`, then
one or more ASCII digits, at most `2^64 - 1`. -/
def parseUnsigned (s : String) : Option UInt64 :=
  let cs := Text.trimChars s.toList
  let ds := match cs with
    | '+' :: rest => rest
    | _ => cs
  if ds.isEmpty || !ds.all Char.isDigit then none
  else
    let n : Nat := ds.foldl (fun acc c => acc * 10 + (c.toNat - 48)) 0
    if n < Nat.pow 2 64 then some n.toUInt64 else none

/-- A value read as an unsigned number: an unsigned integer as it is, or a text holding
one; anything else has none. -/
def valueAsUnsigned : Json → Option UInt64
  | .number n => n.toUInt64?
  | .string s => parseUnsigned s
  | _ => none

/-- A document. -/
structure Document where
  id : String
  data : Json.Fields := []
  metadata : Json.Fields := []
  deriving Inhabited

namespace Document

/-- A data value. -/
def fetch (d : Document) (k : String) : Option Json := Json.Fields.get? d.data k

/-- A data value that is a string. -/
def fetchStr (d : Document) (k : String) : Option String := (d.fetch k).bind Json.str?

/-- A data value read as an unsigned number. -/
def fetchUnsigned (d : Document) (k : String) : Option UInt64 := (d.fetch k).bind valueAsUnsigned

/-- Whether a data key is present. -/
def contains (d : Document) (k : String) : Bool := Json.Fields.contains d.data k

/-- A metadata value. -/
def fetchMetadata (d : Document) (k : String) : Option Json := Json.Fields.get? d.metadata k

/-- Set a data value. -/
def put (d : Document) (k : String) (v : Json) : Document :=
  { d with data := Json.Fields.insert d.data k v }

/-- Set a metadata value. -/
def putMetadata (d : Document) (k : String) (v : Json) : Document :=
  { d with metadata := Json.Fields.insert d.metadata k v }

/-- The strings of a list of values, others skipped. -/
def stringsOf (xs : List Json) : List String := xs.filterMap Json.str?

/-- The tags recorded in the metadata under `_indexes`: its string items, as a set. -/
def tags (d : Document) : TagSet :=
  match d.fetchMetadata indexesKey with
  | some (.array items) => Std.ExtTreeSet.ofList (stringsOf items) compare
  | _ => ∅

/-- The document as a value of the document format. -/
def toJson (d : Document) : Json :=
  .object [("_id", .string d.id), ("data", .object d.data), ("metadata", .object d.metadata)]

/-- The fields of a document record. -/
def fieldSpec : List Json.FieldSpec := [⟨"_id", false⟩, ⟨"data", true⟩, ⟨"metadata", true⟩]

/-- A document read from a record source: a string id and two objects. -/
def ofSource? (src : Json.RecordSource) : Option Document := do
  match ← src.fields fieldSpec with
  | [some (.string id), data, metadata] =>
    let data ← match data with
      | none => some []
      | some v => v.objectFields?
    let metadata ← match metadata with
      | none => some []
      | some v => v.objectFields?
    return ⟨id, data, metadata⟩
  | _ => none

/-- A document read from a value. -/
def ofJson? (j : Json) : Option Document := ofSource? (.ofJson j)

/-- The same document under another id. -/
def withId (d : Document) (id : String) : Document := { d with id := id }

/-- Documents are equal when their ids, data and metadata are. -/
def beq (a b : Document) : Bool :=
  a.id == b.id && Json.beqFields a.data b.data && Json.beqFields a.metadata b.metadata

instance : BEq Document := ⟨beq⟩

end Document

end TagStore
