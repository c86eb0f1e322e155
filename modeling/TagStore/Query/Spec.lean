import TagStore.Document
import TagStore.Error
/-!
# Query.Spec

What a query asks for: its kind, the tag to walk, the page and loose options. A missing
or blank tag means the chronological tag `_date`; a negative page means the first.

Kinds are named `PAGES`, `RANDOM`, `SEARCH` and `CUSTOM`. In a record only these exact
names are accepted; as free text the name is trimmed and upper-cased in ASCII first, and
an empty text means `PAGES`.
-/

namespace TagStore

/-- The kind of a query. -/
inductive QueryKind where
  /-- One page of a tag's members. -/
  | pages
  /-- A random draw from a tag's members. -/
  | random
  /-- Members whose data holds every term of a text. -/
  | search
  /-- Members that pass a filter on their fields. -/
  | custom
  deriving BEq, Repr, Inhabited

namespace QueryKind

/-- The name of the kind. -/
def name : QueryKind → String
  | .pages => "PAGES"
  | .random => "RANDOM"
  | .search => "SEARCH"
  | .custom => "CUSTOM"

/-- The kind of an exact name. -/
def ofName? : String → Option QueryKind
  | "PAGES" => some .pages
  | "RANDOM" => some .random
  | "SEARCH" => some .search
  | "CUSTOM" => some .custom
  | _ => none

/-- A text in ASCII upper case. -/
def asciiUpper (s : String) : String := s.map Char.toUpper

/-- The kind named by a free text: trimmed, upper-cased in ASCII, empty meaning `PAGES`. -/
def parse (s : String) : Outcome QueryKind :=
  let t := asciiUpper (Text.trim s)
  if t.isEmpty then .ok .pages
  else match ofName? t with
    | some k => .ok k
    | none => .error (.invalidArgument ("unknown query type " ++ t))

/-- A kind read from a value: its exact name, or an object holding only that name with
a null value. -/
def ofJson? : Json → Option QueryKind
  | .string s => ofName? s
  | .object [(s, .null)] => ofName? s
  | _ => none

end QueryKind

/-- The option naming how many members a random query draws. -/
def randomCountKey : String := "random_count"

/-- The option holding the text of a search. -/
def searchTextKey : String := "search_text"

/-- The option holding the filter of a custom query. -/
def customQueryKey : String := "custom_query"

/-- A query. -/
structure QuerySpec where
  kind : QueryKind := .pages
  tag : Option String := none
  page : Int64 := 0
  options : Json.Fields := []
  deriving Inhabited

namespace QuerySpec

/-- The tag walked: the given one unless it is missing or blank, else `_date`. -/
def resolvedTag (q : QuerySpec) : String :=
  match q.tag with
  | some t => if Text.isBlankText t then dateTag else t
  | none => dateTag

/-- The page asked for, a negative page counting as the first. -/
def resolvedPage (q : QuerySpec) : Nat := q.page.toInt.toNat

/-- The text of a search, if the option is a string. -/
def searchText (q : QuerySpec) : Option String :=
  (Json.Fields.get? q.options searchTextKey).bind Json.str?

/-- The filter of a custom query, if given. -/
def customQuery (q : QuerySpec) : Option Json := Json.Fields.get? q.options customQueryKey

/-- A query read from a record whose fields `type`, `tag`, `page` and `options` all have
defaults; the page must be a signed 64-bit integer and the options an object. -/
def ofJson? (j : Json) : Option QuerySpec := do
  let spec : List Json.FieldSpec := [⟨"type", true⟩, ⟨"tag", true⟩, ⟨"page", true⟩, ⟨"options", true⟩]
  match ← (Json.RecordSource.ofJson j).fields spec with
  | [kind, tag, page, options] =>
    let kind ← match kind with
      | none => some .pages
      | some v => QueryKind.ofJson? v
    let tag ← match tag with
      | none | some .null => some none
      | some (.string s) => some (some s)
      | some _ => none
    let page ← match page with
      | none => some 0
      | some v => v.toInt64?
    let options ← match options with
      | none => some []
      | some v => v.objectFields?
    return ⟨kind, tag, page, options⟩
  | _ => none

/-- The query as a record value. -/
def toJson (q : QuerySpec) : Json :=
  Json.obj [("type", .string q.kind.name),
    ("tag", match q.tag with | some t => .string t | none => .null),
    ("page", Json.ofInt64 q.page), ("options", .object q.options)]

end QuerySpec

end TagStore
