import TagStore.Document
/-!
# Insert

A write request: a document and the tags the caller files it under. The tags a
document ends up filed under are the caller's tags without the blank ones, plus the
chronological tag `_date` unless the options skip it.

Options also say whether index maintenance waits for the end of the batch, which
changes how the index is brought up to date but not what it holds afterwards.
-/

namespace TagStore

/-- How a batch is written. -/
structure InsertOptions where
  /-- Do not file the documents under the chronological tag. -/
  skipDefaultTag : Bool := false
  /-- Rebuild the index once after the batch instead of per document. -/
  deferIndex : Bool := false

/-- A document and the tags to file it under. -/
structure InsertRequest where
  document : Document
  tags : TagSet

namespace InsertRequest

/-- The tags the document is filed under: the non-blank requested tags, and `_date`
unless skipped. -/
def effectiveTags (r : InsertRequest) (o : InsertOptions) : TagSet :=
  let kept := r.tags.filter fun t => !Text.isBlankText t
  if o.skipDefaultTag then kept else kept.insert dateTag

/-- A tag set read from an array of strings. -/
def tagsOfJson? : Json → Option TagSet
  | .array xs => do
    let ts ← xs.mapM Json.str?
    return Std.ExtTreeSet.ofList ts compare
  | _ => none

/-- A request read from a record with a document `poly` and a tag array `tags`, both
required. -/
def ofJson? (j : Json) : Option InsertRequest := do
  match ← (Json.RecordSource.ofJson j).fields [⟨"poly", false⟩, ⟨"tags", false⟩] with
  | [some p, some t] => return ⟨← Document.ofJson? p, ← tagsOfJson? t⟩
  | _ => none

end InsertRequest

/-- Options read from a record with both booleans required. -/
def InsertOptions.ofJson? (j : Json) : Option InsertOptions := do
  match ← (Json.RecordSource.ofJson j).fields [⟨"skip_default_tag", false⟩, ⟨"defer_index", false⟩] with
  | [some (.bool s), some (.bool d)] => return ⟨s, d⟩
  | _ => none

end TagStore
