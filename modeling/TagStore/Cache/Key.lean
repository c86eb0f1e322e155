import TagStore.Query.Spec
import TagStore.Json.Write
/-!
# Cache.Key

Cache keys are `dataset-operation-parameter-…`: the components joined by `-`, with a
backslash written before every `-` and `\` inside a component. A `-` that is not
escaped therefore always separates two components, so keys of different datasets,
operations or parameters never coincide.

A query's key holds its resolved page, resolved tag, kind and options; a count's key
the same without the page, since a count does not depend on it.
-/

namespace TagStore.Cache

/-- Append a component with `-` and `\` escaped by a backslash. -/
def escapeInto (acc : String) (component : String) : String :=
  component.foldl (fun acc c =>
    if c == '\\' then acc ++ "\\\\" else if c == '-' then acc ++ "\\-" else acc.push c) acc

/-- The key of an operation on a dataset with its parameters. -/
def key (dataset operation : String) (parameters : List String) : String :=
  parameters.foldl (fun acc p => escapeInto (acc.push '-') p)
    (escapeInto ((escapeInto "" dataset).push '-') operation)

/-- The key of a dataset's configuration. -/
def configKey (dataset : String) : String := key dataset "config" []

/-- The key of a dataset's metadata. -/
def metadataKey (dataset : String) : String := key dataset "metadata" []

/-- The key of one document. -/
def readKey (dataset id : String) : String := key dataset "read" [id]

/-- The key of a dataset's count snapshot. -/
def indexKey (dataset : String) : String := key dataset "index" []

/-- The key of one tag's data. -/
def tagKey (dataset tag : String) : String := key dataset "tag" [tag]

/-- The key of a query: page, tag, kind and options. -/
def queryKey (dataset : String) (q : QuerySpec) : String :=
  key dataset "query" [toString q.resolvedPage, q.resolvedTag, q.kind.name, Json.render (.object q.options)]

/-- The key of a count: tag, kind and options. -/
def countKey (dataset : String) (q : QuerySpec) : String :=
  key dataset "count" [q.resolvedTag, q.kind.name, Json.render (.object q.options)]

end TagStore.Cache
