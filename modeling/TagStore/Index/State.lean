import Std.Data.ExtTreeMap
import TagStore.Index.Key
/-!
# Index.State

The tag index of one dataset: for each tag a count and the set of member keys, and for
each document its key and the tags it is filed under.

Filing a document first drops every membership its id held, then adds its key to each
of its tags. Dropping a document takes its key out of each tag it held and lowers the
count; a tag whose count and membership are both empty disappears. A count already at
zero is left at zero and the drop is counted as clamped; a consistent index never
clamps.

A full build files a list of entries one by one, the last entry of an id winning. From
4096 entries on it groups the keys by tag instead, which gives the same state.
-/

namespace TagStore

/-- A tag's count and membership. -/
structure TagEntry where
  count : Nat
  members : Membership

/-- The tag index of one dataset. -/
structure IndexState where
  tags : Std.ExtTreeMap String TagEntry compare := ∅
  documents : Std.ExtTreeMap String (MemberKey × TagSet) compare := ∅

namespace IndexState

/-- Lower one tag's count and take a key out of its membership; the tag disappears when
both are empty. The count says how many decrements had to be clamped. -/
def leaveTag (key : MemberKey) (acc : Std.ExtTreeMap String TagEntry compare × Nat) (tag : String) :
    Std.ExtTreeMap String TagEntry compare × Nat :=
  let (m, clamped) := acc
  match m.get? tag with
  | none => (m, clamped + 1)
  | some e =>
    let members := e.members.erase key
    let (count, clamped) := if e.count == 0 then (0, clamped + 1) else (e.count - 1, clamped)
    if count == 0 && members.isEmpty then (m.erase tag, clamped)
    else (m.insert tag ⟨count, members⟩, clamped)

/-- Drop a document from every tag it held: the new state, the tags it held (none for an
unknown id) and how many decrements were clamped. -/
def dropDocument (s : IndexState) (id : String) : IndexState × Option TagSet × Nat :=
  match s.documents.get? id with
  | none => (s, none, 0)
  | some (key, held) =>
    let (tags, clamped) := held.foldl (leaveTag key) (s.tags, 0)
    (⟨tags, s.documents.erase id⟩, some held, clamped)

/-- Add a key to one tag, raising its count when the key is new to it. -/
def joinTag (key : MemberKey) (m : Std.ExtTreeMap String TagEntry compare) (tag : String) :
    Std.ExtTreeMap String TagEntry compare :=
  let e := m.getD tag ⟨0, ∅⟩
  if e.members.contains key then m.insert tag e
  else m.insert tag ⟨e.count + 1, e.members.insert key⟩

/-- File an entry: drop what its id held, then add its key to each of its tags. The count
says how many decrements were clamped on the way. -/
def upsert (s : IndexState) (e : IndexEntry) : IndexState × Nat :=
  let (s, _, clamped) := s.dropDocument e.id
  (⟨e.tags.foldl (joinTag e.key) s.tags, s.documents.insert e.id (e.key, e.tags)⟩, clamped)

/-- Tags whose count differs from the size of their membership, sorted. -/
def inconsistentTags (s : IndexState) : List String :=
  (s.tags.toList.filter fun (_, e) => e.count != e.members.size).map (·.1)

/-- File entries one by one into an empty index. -/
def buildSequential (entries : List IndexEntry) : IndexState :=
  entries.foldl (fun s e => (s.upsert e).1) {}

/-- Group the keys of the last entry of each id by tag. -/
def buildGrouped (entries : List IndexEntry) : IndexState :=
  let documents : Std.ExtTreeMap String (MemberKey × TagSet) compare :=
    entries.foldl (fun m e => m.insert e.id (e.key, e.tags)) ∅
  let grouped : Std.ExtTreeMap String Membership compare :=
    documents.foldl (fun g _ (key, tags) =>
      tags.foldl (fun g tag => g.insert tag ((g.getD tag ∅).insert key)) g) ∅
  ⟨grouped.map fun _ members => ⟨members.size, members⟩, documents⟩

/-- How many entries a build files one by one before it groups by tag instead. -/
def groupingThreshold : Nat := 4096

/-- A fresh index of a list of entries, the last entry of an id winning. -/
def build (entries : List IndexEntry) : IndexState :=
  if entries.length < groupingThreshold then buildSequential entries else buildGrouped entries

/-- Tags of `old` whose count is not the count in `new`, plus tags only `new` has. -/
def changedTags (old new : IndexState) : Nat :=
  (old.tags.toList.filter fun (tag, e) => (new.tags.get? tag).map (·.count) != some e.count).length +
    (new.tags.keys.filter fun tag => !old.tags.contains tag).length

end IndexState

end TagStore
