import TagStore.Api.Pure
import TagStore.Query.Plan
/-!
# Api.Query

Requests about queries: a filter applied to documents, a search applied to documents, and
the plan of a query.
-/

namespace TagStore.Api

open Request

/-- A field holding an array of documents, none when absent; anything else is a failure of
the document reader. -/
def documents (r : Request) (k : String) : Except Failure (List Document) :=
  match r.get? k with
  | none => .ok []
  | some (.array items) => items.mapM fun j => decoded "document" (Document.ofJson? j)
  | some _ => .error (.store (.json ("invalid documents in " ++ k)))

/-- `filter`: the clauses of a filter and which documents pass it. -/
def filterOp (r : Request) : Reply := do
  let f ← Failure.lift (Filter.ofJson ((r.get? "query").getD .null))
  let docs ← documents r "docs"
  return Json.obj [("clauses", f.toJson), ("matches", .array (docs.map fun d => .bool (f.accepts d)))]

/-- `search`: the terms of a text and which documents hold them all. -/
def searchOp (r : Request) : Reply := do
  let text ← r.text "text"
  let docs ← documents r "docs"
  let m := Matcher.ofText text
  let terms := match m with
    | .search ts => ts
    | .custom _ => []
  return Json.obj [("terms", Json.strings terms),
    ("matches", .array (docs.map fun d => .bool (m.accepts d)))]

/-- `plan`: the page size, the planner's default and the plan of a query. -/
def planOp (r : Request) : Reply := do
  let dflt ← r.natOr "default_item_per_page" 10
  let config ← match r.get? "config" with
    | some _ => some <$> r.document "config"
    | none => pure none
  let spec ← specField r
  let dataset := r.textOr "dataset" "ds"
  let planner := Planner.new dflt
  let plan ← Failure.lift (planner.plan dataset config spec)
  let size : Json := match config with
    | some c => match planner.pageSize c spec with
      | .ok n => Json.ofNat n
      | .error e => errorJson e
    | none => .null
  return Json.obj [("page_size", size), ("default_item_per_page", Json.ofNat planner.defaultItemPerPage),
    ("plan", plan.toJson)]

end TagStore.Api
