/-!
# Time

Instants as milliseconds since 1970-01-01T00:00:00Z, and their RFC 3339 text in UTC
with milliseconds, such as `2024-05-01T12:30:00.000Z`. The calendar is the proleptic
Gregorian one, computed from the day count by whole 400-year eras.
-/

namespace TagStore.Time

/-- Year, month and day of a count of days since 1970-01-01. -/
def civilOfDays (days : Int) : Int × Nat × Nat :=
  let z := days + 719468
  let era := z.fdiv 146097
  let doe := (z - era * 146097).toNat
  let yoe := (doe - doe / 1460 + doe / 36524 - doe / 146096) / 365
  let doy := doe - (365 * yoe + yoe / 4 - yoe / 100)
  let mp := (5 * doy + 2) / 153
  let d := doy - (153 * mp + 2) / 5 + 1
  let m := if mp < 10 then mp + 3 else mp - 9
  let y := (yoe : Int) + era * 400 + (if m ≤ 2 then 1 else 0)
  (y, m, d)

/-- A number with at least `width` digits, zeros in front. -/
def padded (width : Nat) (n : Nat) : String :=
  let s := toString n
  String.ofList (List.replicate (width - s.length) '0') ++ s

/-- The RFC 3339 text of an instant, in UTC with milliseconds. -/
def rfc3339 (ms : Int) : String :=
  let days := ms.fdiv 86400000
  let rest := (ms - days * 86400000).toNat
  let (y, m, d) := civilOfDays days
  let year := if y < 0 then "-" ++ padded 4 y.natAbs else padded 4 y.toNat
  year ++ "-" ++ padded 2 m ++ "-" ++ padded 2 d ++ "T" ++ padded 2 (rest / 3600000) ++ ":" ++
    padded 2 (rest / 60000 % 60) ++ ":" ++ padded 2 (rest / 1000 % 60) ++ "." ++
    padded 3 (rest % 1000) ++ "Z"

end TagStore.Time
