import Std.Data.ExtTreeMap
import TagStore.Error
/-!
# Storage.Files

A directory tree held as a value: every file with its bytes and every directory, each
under its path below the top directory, which always exists. A path is a list of
components; no component is empty or holds a `/`.

Writing a file makes the directories above it, as making a directory makes those above
it; a file standing where a directory is needed, or a directory where a file is written,
is an input failure. Paths are ordered component by component, each component by its
bytes, which is the order a directory listing is sorted in.
-/

namespace TagStore

/-- A path below the top directory: its components, outermost first. -/
abbrev Path := List String

namespace Path

/-- The components of a text with `/` between them; empty and `.` components are left
out, and a `..` component takes back the one before it. -/
def ofText (s : String) : Path :=
  (((s.toList.splitOn '/').map String.ofList).filter fun c => c != "" && c != ".").foldl
    (fun p c => if c == ".." then p.dropLast else p ++ [c]) []

/-- The path as text, `/` between its components. -/
def text (p : Path) : String := "/".intercalate p

/-- The path as failure messages show it, below the top directory written `<root>`. -/
def display (p : Path) : String := p.foldl (fun acc c => acc ++ "/" ++ c) "<root>"

/-- Component by component, each component by its bytes; a path comes before the paths
below it. -/
def order : Path → Path → Ordering
  | [], [] => .eq
  | [], _ :: _ => .lt
  | _ :: _, [] => .gt
  | a :: as, b :: bs =>
    match compare a b with
    | .eq => order as bs
    | o => o

/-- Paths sorted by `order`. -/
def sort (ps : List Path) : List Path := ps.mergeSort fun a b => order a b != .gt

/-- The part of a file name after its last `.`, unless that `.` begins the name. -/
def extension? (name : String) : Option String :=
  match ((name.toList.splitOn '.').map String.ofList).reverse with
  | ext :: before@(_ :: _) => if before == [""] then none else some ext
  | _ => none

/-- A file name without its extension. -/
def stem (name : String) : String :=
  match extension? name with
  | some ext => String.ofList (name.toList.take (name.length - ext.length - 1))
  | none => name

end Path

/-- What stands at a path. -/
inductive Entry where
  | file (bytes : ByteArray)
  | directory

/-- A directory tree below a top directory. -/
structure FileTree where
  entries : Std.ExtTreeMap String Entry compare := ∅

namespace FileTree

/-- What stands at a path; the top directory is always there. -/
def lookup (t : FileTree) (p : Path) : Option Entry :=
  if p.isEmpty then some .directory else t.entries.get? p.text

/-- Whether a directory stands at a path. -/
def isDirectory (t : FileTree) (p : Path) : Bool :=
  match t.lookup p with
  | some .directory => true
  | _ => false

/-- The bytes of the file at a path. -/
def read? (t : FileTree) (p : Path) : Option ByteArray :=
  match t.lookup p with
  | some (.file b) => some b
  | _ => none

/-- Whether a file stands at a path. -/
def isFile (t : FileTree) (p : Path) : Bool := (t.read? p).isSome

/-- Make a directory and those above it. -/
def makeDirectories (t : FileTree) (p : Path) : Outcome FileTree :=
  (List.range p.length).foldlM (fun (t : FileTree) k =>
    let q : Path := p.take (k + 1)
    match t.lookup q with
    | some .directory => .ok t
    | some (.file _) => .error (.io ("not a directory: " ++ q.display))
    | none => .ok ⟨t.entries.insert q.text .directory⟩) t

/-- Write a file, making the directories above it. -/
def write (t : FileTree) (p : Path) (bytes : ByteArray) : Outcome FileTree := do
  if p.isEmpty then throw (.io "is a directory: <root>")
  let t ← t.makeDirectories p.dropLast
  if t.isDirectory p then throw (.io ("is a directory: " ++ p.display))
  pure ⟨t.entries.insert p.text (.file bytes)⟩

/-- Remove the file at a path; none when no file stands there. -/
def remove? (t : FileTree) (p : Path) : Option FileTree :=
  if t.isFile p then some ⟨t.entries.erase p.text⟩ else none

/-- The paths of every entry, with what stands there. -/
def all (t : FileTree) : List (Path × Entry) :=
  t.entries.toList.map fun (k, e) => (Path.ofText k, e)

/-- The names of the entries directly in a directory, sorted. -/
def children (t : FileTree) (p : Path) : List String :=
  t.all.filterMap fun (q, _) =>
    if q.length == p.length + 1 && q.take p.length == p then q.getLast? else none

/-- The paths below a directory of every file under it, relative to it, sorted by
`Path.order`. -/
def filesBelow (t : FileTree) (p : Path) : List Path :=
  Path.sort (t.all.filterMap fun (q, e) =>
    match e with
    | .file _ => if q.length > p.length && q.take p.length == p then some (q.drop p.length) else none
    | .directory => none)

end FileTree

end TagStore
