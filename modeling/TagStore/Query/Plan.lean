import TagStore.Query.Matcher
import TagStore.Query.Spec
import TagStore.Index.TagIndex
/-!
# Query.Plan

Turning a query into index lookups, and running them. A page of a tag is a slice of its
members, most recent first; a random query draws members; a search or custom query walks
the members in order and keeps those its matcher accepts, skipping the first
`page · size` kept ones.

The page size is the query's `item_per_page` option (which must be at least 1), else the
dataset's positive `item_per_page` setting, else the planner's default, itself at least 1.
Sizes and offsets are 64-bit words; the offset stops at the largest one.
-/

namespace TagStore

/-- The seed of random draws. Which members a draw takes is left open; a fixed seed makes
the draws of a run repeatable. -/
def drawSeed : Nat := 0x853C49E6748FEA9B

/-- The largest 64-bit word. -/
def wordMax : Nat := Nat.pow 2 64 - 1

/-- A planned query against one tag. -/
inductive QueryPlan where
  /-- Members `offset` to `offset + limit` of the tag. -/
  | page (tag : String) (offset limit : Nat)
  /-- `count` members drawn at random. -/
  | random (tag : String) (count : Nat)
  /-- Members the matcher accepts, after skipping `offset` of them, at most `limit`. -/
  | filtered (tag : String) (matcher : Matcher) (offset limit : Nat)

namespace QueryPlan

/-- The tag a plan walks. -/
def tag : QueryPlan → String
  | .page t _ _ | .random t _ | .filtered t _ _ _ => t

/-- The plan as a record. -/
def toJson : QueryPlan → Json
  | .page t offset limit => Json.obj [("plan", .string "Page"), ("tag", .string t),
      ("offset", Json.ofNat offset), ("limit", Json.ofNat limit)]
  | .random t count => Json.obj [("plan", .string "Random"), ("tag", .string t),
      ("count", Json.ofNat count)]
  | .filtered t m offset limit => Json.obj [("plan", .string "Filtered"), ("tag", .string t),
      ("offset", Json.ofNat offset), ("limit", Json.ofNat limit), ("matcher", m.toJson)]

end QueryPlan

/-- Plans queries with a default page size of at least 1. -/
structure Planner where
  defaultItemPerPage : Nat

namespace Planner

/-- A planner whose default page size is the given one, raised to 1. -/
def new (n : Nat) : Planner := ⟨max n 1⟩

/-- An option read as a count; the message shows the value given. -/
def countOption (key : String) (raw : Json) : Outcome Nat :=
  match valueAsUnsigned raw with
  | some n => .ok n.toNat
  | none => .error (.invalidArgument (key ++ " must be a non-negative integer, got " ++ raw.render))

/-- The page size: the query's option, else the dataset's positive setting, else the
default. -/
def pageSize (p : Planner) (config : Document) (spec : QuerySpec) : Outcome Nat :=
  match Json.Fields.get? spec.options itemPerPageKey with
  | some raw => do
    let size ← countOption itemPerPageKey raw
    if size == 0 then .error (.invalidArgument "item_per_page must be at least 1")
    pure size
  | none =>
    match config.fetchUnsigned itemPerPageKey with
    | some n => if n.toNat > 0 then .ok n.toNat else .ok p.defaultItemPerPage
    | none => .ok p.defaultItemPerPage

/-- Plans a query on a dataset with the given configuration; no configuration means the
dataset was never created. -/
def plan (p : Planner) (dataset : String) (config : Option Document) (spec : QuerySpec) :
    Outcome QueryPlan := do
  let some config := config | .error (.notConfigured dataset)
  let tag := spec.resolvedTag
  let limit ← p.pageSize config spec
  let offset := min (spec.resolvedPage * limit) wordMax
  match spec.kind with
  | .pages => pure (.page tag offset limit)
  | .random =>
    let count ← match Json.Fields.get? spec.options randomCountKey with
      | some raw => countOption randomCountKey raw
      | none => pure limit
    pure (.random tag count)
  | .search =>
    match spec.searchText with
    | some text =>
      if Text.isBlankText text then .error (.invalidArgument "SEARCH needs a non-empty search_text")
      else pure (.filtered tag (Matcher.ofText text) offset limit)
    | none => .error (.invalidArgument "SEARCH needs a non-empty search_text")
  | .custom =>
    match spec.customQuery with
    | some payload => do
      let f ← Filter.ofJson payload
      pure (.filtered tag (.custom f) offset limit)
    | none => .error (.invalidArgument "CUSTOM needs a custom_query")

end Planner

section Run

variable {m : Type → Type} [Monad m]

/-- Loads documents by id in order, leaving out those storage no longer holds. -/
def loadAll (load : String → m (Option Document)) : List String → m (List Document)
  | [] => pure []
  | id :: ids => do
    let d ← load id
    let rest ← loadAll load ids
    pure (match d with
      | some doc => doc :: rest
      | none => rest)

/-- Walks members in order, keeping accepted documents after skipping `skip` of them,
until `limit` are kept; `kept` holds those kept so far, last first. -/
def collectMatches (matcher : Matcher) (limit : Nat) (load : String → m (Option Document)) :
    List String → Nat → List Document → m (List Document)
  | [], _, kept => pure kept.reverse
  | id :: ids, skip, kept =>
    if kept.length ≥ limit then pure kept.reverse
    else do
      match ← load id with
      | none => collectMatches matcher limit load ids skip kept
      | some d =>
        if !matcher.accepts d then collectMatches matcher limit load ids skip kept
        else if skip > 0 then collectMatches matcher limit load ids (skip - 1) kept
        else collectMatches matcher limit load ids skip (d :: kept)

/-- Counts the members whose documents the matcher accepts. -/
def countMatches (matcher : Matcher) (load : String → m (Option Document)) :
    List String → m Nat
  | [] => pure 0
  | id :: ids => do
    let d ← load id
    let rest ← countMatches matcher load ids
    pure (match d with
      | some doc => if matcher.accepts doc then rest + 1 else rest
      | none => rest)

/-- Runs a plan on an index, loading documents by id; `seed` drives a random draw. -/
def QueryPlan.execute (index : TagIndex) (seed : Nat) (load : String → m (Option Document)) :
    QueryPlan → m (List Document)
  | .page tag offset limit => loadAll load (index.page tag offset limit)
  | .random tag count => loadAll load (index.sample tag count seed)
  | .filtered tag matcher offset limit => collectMatches matcher limit load (index.members tag) offset []

/-- The number of results without paging: the tag's size for pages and random draws, the
number of accepted members for filtered plans. -/
def QueryPlan.count (index : TagIndex) (load : String → m (Option Document)) :
    QueryPlan → m Nat
  | .page tag _ _ | .random tag _ => pure (index.tagCount tag)
  | .filtered tag matcher _ _ => countMatches matcher load (index.members tag)

end Run

end TagStore
