import TagStore.Query.Filter
import TagStore.Text.Tokenizer
/-!
# Query.Matcher

Which documents a filtered query keeps. A search keeps a document whose data holds every
term of the search text among the terms of its string values, at any depth; a custom
query keeps the documents that pass its filter.
-/

namespace TagStore

/-- A test that a filtered query applies to each member. -/
inductive Matcher where
  /-- Every term must occur among the document's terms. -/
  | search (terms : List String)
  /-- The document must pass the filter. -/
  | custom (filter : Filter)

namespace Matcher

/-- A search for the terms of a text. -/
def ofText (text : String) : Matcher := .search (({} : Text.Tokenizer).terms text)

/-- The terms of a document's data values. -/
def documentTerms (d : Document) : List String :=
  d.data.flatMap fun (_, v) => ({} : Text.Tokenizer).valueTerms v

/-- Whether a document is kept. -/
def accepts : Matcher → Document → Bool
  | .search terms, d =>
    let found := documentTerms d
    terms.all (found.contains ·)
  | .custom f, d => f.accepts d

/-- The matcher as a record: `{"search": terms}` or `{"custom": clauses}`. -/
def toJson : Matcher → Json
  | .search terms => .object [("search", Json.strings terms)]
  | .custom f => .object [("custom", f.toJson)]

end Matcher

end TagStore
