import Std.Data.ExtTreeSet
import TagStore.Document
/-!
# Index.Key

Where a document stands in a tag's membership. Members are ordered most recent first:
by write time descending, then by sequence number descending, then by id ascending.
The sequence number makes documents written in the same millisecond keep their write
order, and the id makes the order total, so that two documents never share a place.
-/

namespace TagStore

/-- A document's place in a tag's membership. -/
structure MemberKey where
  /-- Write time in milliseconds. -/
  timestamp : Int64
  /-- Write sequence number. -/
  seq : UInt64
  id : String
  deriving Inhabited, BEq, Repr

namespace MemberKey

/-- Most recent first: later write time first, then higher sequence number first, then
smaller id first. -/
def order : MemberKey → MemberKey → Ordering :=
  compareLex (fun a b => compareOn (fun k : MemberKey => k.timestamp.toInt) b a)
    (compareLex (fun a b => compareOn (fun k : MemberKey => k.seq.toNat) b a)
      (compareOn (fun k : MemberKey => k.id)))

instance : Std.TransCmp order := by
  unfold order
  infer_instance

end MemberKey

/-- What the index knows about one stored document: its id, its tags and its place. -/
structure IndexEntry where
  id : String
  tags : TagSet
  timestamp : Int64
  seq : UInt64

/-- The place of an entry in its tags' memberships. -/
def IndexEntry.key (e : IndexEntry) : MemberKey := ⟨e.timestamp, e.seq, e.id⟩

/-- A set of member keys, most recent first. -/
abbrev Membership := Std.ExtTreeSet MemberKey MemberKey.order

end TagStore
