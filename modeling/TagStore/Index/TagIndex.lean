import TagStore.Index.State
/-!
# Index.TagIndex

A dataset's tag index with its operations: filing and dropping documents one at a time
or in batches, reading a tag's count, members, a page of them or a random sample, the
snapshot of all counts, and a full rebuild from a list of entries that reports what it
corrected. The index also counts every clamped decrement since it was made.
-/

namespace TagStore

/-- What a rebuild found. -/
structure RebuildReport where
  /-- Documents in the rebuilt index. -/
  documents : Nat
  /-- Tags in the rebuilt index. -/
  tags : Nat
  /-- Tags whose count had drifted from their membership before the rebuild, sorted. -/
  inconsistent : List String
  /-- Tags whose count differs between the old and the rebuilt index. -/
  changed : Nat

/-- Whether no tag had drifted. -/
def RebuildReport.clean (r : RebuildReport) : Bool := r.inconsistent.isEmpty

/-- The id of the snapshot document of all counts. -/
def indexSnapshotId : String := "_index"

/-- The snapshot document of tag counts: `{tag: {"count": n}}`. -/
def snapshotOfCounts (counts : List (String × Nat)) : Document :=
  ⟨indexSnapshotId, Json.Fields.ofList (counts.map fun (t, n) => (t, Json.obj [(countKey, Json.ofNat n)])), []⟩

/-- A dataset's tag index. -/
structure TagIndex where
  state : IndexState := {}
  /-- Clamped decrements since the index was made. -/
  inconsistencies : Nat := 0

namespace TagIndex

/-- File one entry. -/
def insert (t : TagIndex) (e : IndexEntry) : TagIndex :=
  let (s, c) := t.state.upsert e
  ⟨s, t.inconsistencies + c⟩

/-- File entries in order. -/
def insertBatch (t : TagIndex) (es : List IndexEntry) : TagIndex :=
  es.foldl insert t

/-- Drop a document: the tags it held, none for an unknown id. -/
def remove (t : TagIndex) (id : String) : TagIndex × Option TagSet :=
  let (s, held, c) := t.state.dropDocument id
  (⟨s, t.inconsistencies + c⟩, held)

/-- Drop documents: how many of the ids were known. -/
def removeBatch (t : TagIndex) (ids : List String) : TagIndex × Nat :=
  ids.foldl (fun (t, n) id =>
    let (t, held) := t.remove id
    (t, if held.isSome then n + 1 else n)) (t, 0)

/-- A tag's count, zero for an unknown tag. -/
def tagCount (t : TagIndex) (tag : String) : Nat :=
  ((t.state.tags.get? tag).map (·.count)).getD 0

/-- The tags a document is filed under. -/
def tagsOf (t : TagIndex) (id : String) : Option TagSet :=
  (t.state.documents.get? id).map (·.2)

/-- Whether a document is filed. -/
def contains (t : TagIndex) (id : String) : Bool := t.state.documents.contains id

/-- How many documents are filed. -/
def documentCount (t : TagIndex) : Nat := t.state.documents.size

/-- A tag's member keys, most recent first. -/
def memberKeys (t : TagIndex) (tag : String) : List MemberKey :=
  match t.state.tags.get? tag with
  | some e => e.members.toList
  | none => []

/-- A tag's members, most recent first. -/
def members (t : TagIndex) (tag : String) : List String := (t.memberKeys tag).map (·.id)

/-- The members at positions `offset` to `offset + limit - 1`. -/
def page (t : TagIndex) (tag : String) (offset limit : Nat) : List String :=
  ((t.members tag).drop offset).take limit

/-- The next state of the pseudo-random sequence. -/
def nextRandom (x : Nat) : Nat := (x * 6364136223846793005 + 1442695040888963407) % Nat.pow 2 64

/-- `amount` distinct positions below `len` drawn by a partial shuffle from `seed`. -/
def drawPositions (len amount seed : Nat) : List Nat :=
  let rec go : Nat → Nat → Array Nat → Nat → Array Nat
    | 0, _, a, _ => a
    | fuel + 1, i, a, x =>
      if i < amount ∧ i < len then
        let x := nextRandom x
        let j := i + (x / Nat.pow 2 33) % (len - i)
        go fuel (i + 1) (a.swapIfInBounds i j) x
      else a
  ((go amount 0 (Array.range len) seed).toList.take (min amount len))

/-- `min count members` distinct members drawn from `seed`. -/
def sample (t : TagIndex) (tag : String) (count seed : Nat) : List String :=
  let ms := (t.members tag).toArray
  (drawPositions ms.size count seed).filterMap fun i => ms[i]?

/-- Every tag with its count, sorted by tag. -/
def counts (t : TagIndex) : List (String × Nat) :=
  t.state.tags.toList.map fun (tag, e) => (tag, e.count)

/-- The snapshot document of all counts. -/
def snapshot (t : TagIndex) : Document := snapshotOfCounts t.counts

/-- One tag as a document: its count and its members, most recent first. -/
def tagData (t : TagIndex) (tag : String) : Option Document :=
  (t.state.tags.get? tag).map fun e =>
    ⟨tag, Json.Fields.ofList [(countKey, Json.ofNat e.count),
      ("members", Json.strings (e.members.toList.map (·.id)))], []⟩

/-- Tags whose count differs from their membership. -/
def verify (t : TagIndex) : List String := t.state.inconsistentTags

/-- Replace the index by a build of `entries` and report what changed. -/
def recalculate (t : TagIndex) (entries : List IndexEntry) : TagIndex × RebuildReport :=
  let rebuilt := IndexState.build entries
  let report : RebuildReport :=
    ⟨rebuilt.documents.size, rebuilt.tags.size, t.state.inconsistentTags,
      IndexState.changedTags t.state rebuilt⟩
  (⟨rebuilt, t.inconsistencies⟩, report)

end TagIndex

end TagStore
