import TagStore.Proofs.Binary.Serial
import TagStore.Proofs.Json.Text
/-!
# Proofs.Json.RoundTrip

The compact text of a value reads back as the value. Two things can stop it: a number that is
not an integer of the reader's kind (`Json.integral`), and arrays and objects nested deeper
than the reader allows (`Json.nesting`). Otherwise `parseWritten (render j)` is `j`
(`parseWritten_render`), and so are the UTF-8 bytes of the text (`parseWrittenBytes_render`).

The reader is a recursive descent with fuel. It dispatches on the first character of a value
(the atoms `readValue_null` to `readValue_object`; every value's text starts with a character
that is no blank and closes nothing, `chars_eq_cons`), and an array or object goes on with the
items or fields, each read by the value reader and followed by a comma or the closing bracket
(`readItems_last`, `readItems_more`, `readFields_last`, `readFields_more`). The walkers
`readValue_chars`, `readItems_chars` and `readFields_chars` thread these through a value by
recursion on it: the fuel stays above the length of the text still to read, and the depth
above the nesting still to enter.
-/

namespace TagStore.Json

/-! ## What reads back -/

mutual
/-- How deep arrays and objects nest in a value: a scalar has depth 0, an array or object one
more than its deepest item or field. -/
def nesting : Json → Nat
  | .array xs => nestingItems xs + 1
  | .object fs => nestingFields fs + 1
  | _ => 0

/-- The deepest nesting among array items. -/
def nestingItems : List Json → Nat
  | [] => 0
  | x :: xs => max (nesting x) (nestingItems xs)

/-- The deepest nesting among the values of object fields. -/
def nestingFields : List (String × Json) → Nat
  | [] => 0
  | (_, v) :: rest => max (nesting v) (nestingFields rest)
end

mutual
/-- Whether `p` holds of a value and of every value inside it. -/
def all (p : Json → Bool) : Json → Bool
  | .array xs => p (.array xs) && allItems p xs
  | .object fs => p (.object fs) && allFields p fs
  | j => p j

/-- Whether `p` holds inside every array item. -/
def allItems (p : Json → Bool) : List Json → Bool
  | [] => true
  | x :: xs => all p x && allItems p xs

/-- Whether `p` holds inside the value of every object field. -/
def allFields (p : Json → Bool) : List (String × Json) → Bool
  | [] => true
  | (_, v) :: rest => all p v && allFields p rest
end

/-- Whether a value is no number, or an integer of the reader's kind. -/
def integralHere : Json → Bool
  | .number n => n.isInteger
  | _ => true

/-- Whether every number in a value is an integer of the reader's kind. -/
def integral (j : Json) : Bool := j.all integralHere

theorem integralHere_of_all {j : Json} (h : j.all integralHere = true) : integralHere j = true := by
  cases j <;> simp_all [all, integralHere]

/-! ## Dispatch on the first character -/

/-- A value's text starts with a character that is no blank and closes nothing. -/
theorem chars_eq_cons {j : Json} (h : integralHere j = true) :
    ∃ c tl, chars j = c :: tl ∧ 32 < c.toNat ∧ c ≠ ']' ∧ c ≠ '\x7d' := by
  cases j with
  | null => exact ⟨'n', _, rfl, by decide, by decide, by decide⟩
  | bool b => cases b <;> exact ⟨_, _, rfl, by decide, by decide, by decide⟩
  | number n =>
    cases n with
    | nat u =>
      obtain ⟨d, tl, hdt⟩ := List.exists_cons_of_ne_nil (Nat.toDigits_ne_nil (n := u.toNat) (b := 10))
      have hd := isDigit_iff.1 (Nat.isDigit_of_mem_toDigits (by decide) (by decide) (hdt ▸ List.mem_cons_self))
      refine ⟨d, tl, by rw [chars_nat, hdt], by omega, ne_of_isDigit (isDigit_iff.2 hd) (by decide),
        ne_of_isDigit (isDigit_iff.2 hd) (by decide)⟩
    | negative i =>
      have hi : i < 0 := by simpa [integralHere, Number.isInteger] using h
      exact ⟨'-', _, chars_negative hi, by decide, by decide, by decide⟩
    | float x => simp [integralHere, Number.isInteger] at h
  | string s => exact ⟨'"', _, rfl, by decide, by decide, by decide⟩
  | array xs => exact ⟨'[', _, rfl, by decide, by decide, by decide⟩
  | object fs => exact ⟨'\x7b', _, rfl, by decide, by decide, by decide⟩

theorem readValue_null (fuel depth : Nat) (rest : List Char) :
    readValue (fuel + 1) depth (chars .null ++ rest) = .ok (.null, rest) := rfl

theorem readValue_bool (b : Bool) (fuel depth : Nat) (rest : List Char) :
    readValue (fuel + 1) depth (chars (.bool b) ++ rest) = .ok (.bool b, rest) := by
  cases b <;> rfl

theorem readValue_string (s : String) (fuel depth : Nat) (rest : List Char) :
    readValue (fuel + 1) depth (chars (.string s) ++ rest) = .ok (.string s, rest) := by
  simp only [chars, quotedChars, List.cons_append, List.append_assoc]
  rw [readValue.eq_2, skipBlanks_of_lt (by decide)]
  simp only [readString_quoted]
  rfl

theorem readValue_array_nil (fuel depth : Nat) (rest : List Char) :
    readValue (fuel + 1) (depth + 1) (chars (.array []) ++ rest) = .ok (.array [], rest) := rfl

/-- After `[`, the reader goes on with the items. -/
theorem readValue_array (fuel depth : Nat) {x : Json} (hx : integralHere x = true) (xs : List Json)
    (rest : List Char) :
    readValue (fuel + 1) (depth + 1) (chars (.array (x :: xs)) ++ rest) =
      readItems fuel depth [] (itemsChars true (x :: xs) ++ ']' :: rest) := by
  obtain ⟨c, tl, hc, hlt, hclose, -⟩ := chars_eq_cons hx
  have hitems : itemsChars true (x :: xs) = c :: (tl ++ itemsChars false xs) := by
    simp [itemsChars, hc]
  simp only [chars, List.cons_append, List.append_assoc]
  rw [readValue.eq_2, skipBlanks_of_lt (by decide), hitems]
  simp only [List.cons_append, skipBlanks_of_lt hlt]
  split
  · next heq => exact absurd (List.cons.inj heq).1 hclose
  · rfl

theorem readValue_object_nil (fuel depth : Nat) (rest : List Char) :
    readValue (fuel + 1) (depth + 1) (chars (.object []) ++ rest) = .ok (.object [], rest) := rfl

/-- After the opening brace, the reader goes on with the fields. -/
theorem readValue_object (fuel depth : Nat) (k : String) (v : Json) (fs : List (String × Json))
    (rest : List Char) :
    readValue (fuel + 1) (depth + 1) (chars (.object ((k, v) :: fs)) ++ rest) =
      readFields fuel depth [] (fieldsChars true ((k, v) :: fs) ++ '\x7d' :: rest) := by
  simp only [chars, fieldsChars, quotedChars, if_true, List.nil_append, List.cons_append,
    List.append_assoc]
  rw [readValue.eq_2, skipBlanks_of_lt (by decide)]
  simp only [skipBlanks_of_lt (show 32 < ('"' : Char).toNat by decide)]
  rfl

/-! ## Items and fields -/

/-- The last item is followed by the closing bracket. -/
theorem readItems_last {fuel depth : Nat} {acc : List Json} {x : Json} {rest : List Char}
    (hx : readValue fuel depth (chars x ++ ']' :: rest) = .ok (x, ']' :: rest)) :
    readItems (fuel + 1) depth acc (chars x ++ ']' :: rest) = .ok (.array (acc.reverse ++ [x]), rest) := by
  rw [readItems, hx]
  simp only [bind, Except.bind, skipBlanks_of_lt (show 32 < (']' : Char).toNat by decide),
    List.reverse_cons]

/-- An item followed by a comma: the reader goes on with the next item. -/
theorem readItems_more {fuel depth : Nat} {acc : List Json} {x : Json} {more : List Char}
    (hx : readValue fuel depth (chars x ++ ',' :: more) = .ok (x, ',' :: more))
    {c : Char} {tl : List Char} (hmore : more = c :: tl) (hlt : 32 < c.toNat) (hclose : c ≠ ']') :
    readItems (fuel + 1) depth acc (chars x ++ ',' :: more) = readItems fuel depth (x :: acc) more := by
  rw [readItems, hx]
  simp only [bind, Except.bind, skipBlanks_of_lt (show 32 < (',' : Char).toNat by decide)]
  rw [hmore, skipBlanks_of_lt hlt]
  split
  · next heq => exact absurd (List.cons.inj heq).1 hclose
  · rfl

/-- The last field is followed by the closing brace. -/
theorem readFields_last {fuel depth : Nat} {acc : Fields} {k : String} {v : Json} {rest : List Char}
    (hv : readValue fuel depth (chars v ++ '\x7d' :: rest) = .ok (v, '\x7d' :: rest)) :
    readFields (fuel + 1) depth acc (quotedChars k ++ ':' :: (chars v ++ '\x7d' :: rest)) =
      .ok (.object (acc.reverse ++ [(k, v)]), rest) := by
  simp only [quotedChars, List.cons_append, List.append_assoc, List.nil_append]
  rw [readFields, skipBlanks_of_lt (by decide)]
  simp only [bind, Except.bind, readString_quoted, skipBlanks_of_lt (show 32 < (':' : Char).toNat by decide)]
  rw [hv]
  simp only [skipBlanks_of_lt (show 32 < ('\x7d' : Char).toNat by decide), List.reverse_cons]

/-- A field followed by a comma: the reader goes on with the next field. -/
theorem readFields_more {fuel depth : Nat} {acc : Fields} {k : String} {v : Json} {more : List Char}
    (hv : readValue fuel depth (chars v ++ ',' :: more) = .ok (v, ',' :: more))
    (hmore : more.head? = some '"') :
    readFields (fuel + 1) depth acc (quotedChars k ++ ':' :: (chars v ++ ',' :: more)) =
      readFields fuel depth ((k, v) :: acc) more := by
  simp only [quotedChars, List.cons_append, List.append_assoc, List.nil_append]
  rw [readFields, skipBlanks_of_lt (by decide)]
  simp only [bind, Except.bind, readString_quoted, skipBlanks_of_lt (show 32 < (':' : Char).toNat by decide)]
  rw [hv]
  simp only [skipBlanks_of_lt (show 32 < (',' : Char).toNat by decide)]
  obtain ⟨tl, rfl⟩ : ∃ tl, more = '"' :: tl := by
    cases more with
    | nil => cases hmore
    | cons c tl => exact ⟨tl, by simp_all⟩
  rfl

/-! ## Walkers -/

theorem itemsChars_true_cons (x : Json) (xs : List Json) :
    itemsChars true (x :: xs) = chars x ++ itemsChars false xs := by
  simp [itemsChars]

theorem itemsChars_false_cons (x : Json) (xs : List Json) :
    itemsChars false (x :: xs) = ',' :: itemsChars true (x :: xs) := by
  simp [itemsChars]

theorem fieldsChars_true_cons (k : String) (v : Json) (fs : List (String × Json)) :
    fieldsChars true ((k, v) :: fs) = quotedChars k ++ ':' :: chars v ++ fieldsChars false fs := by
  simp [fieldsChars]

theorem fieldsChars_false_cons (f : String × Json) (fs : List (String × Json)) :
    fieldsChars false (f :: fs) = ',' :: fieldsChars true (f :: fs) := by
  obtain ⟨k, v⟩ := f
  simp [fieldsChars]

mutual
/-- A value's text reads back as the value, when the fuel reaches its length, the depth its
nesting, and what follows cannot continue it. -/
theorem readValue_chars : ∀ (j : Json) {fuel depth : Nat} {rest : List Char},
    j.all integralHere = true → (chars j).length ≤ fuel → nesting j ≤ depth → Follows rest →
      readValue (fuel + 1) depth (chars j ++ rest) = .ok (j, rest)
  | .null, _, _, _, _, _, _, _ => readValue_null _ _ _
  | .bool b, _, _, _, _, _, _, _ => readValue_bool b _ _ _
  | .number n, _, _, _, hint, _, _, hrest => readValue_number hint _ _ hrest
  | .string s, _, _, _, _, _, _, _ => readValue_string s _ _ _
  | .array xs, fuel, depth, rest, hint, hfuel, hdepth, _ => by
    obtain ⟨d, rfl⟩ : ∃ d, depth = d + 1 := ⟨depth - 1, by simp only [nesting] at hdepth; omega⟩
    cases xs with
    | nil => exact readValue_array_nil _ _ _
    | cons x xs =>
      have hitems : allItems integralHere (x :: xs) = true := by simp_all [all]
      have hx : integralHere x = true := integralHere_of_all (by simp_all [allItems])
      rw [readValue_array _ _ hx]
      -- the items and the closing bracket take all but the opening bracket
      replace hfuel : (itemsChars true (x :: xs)).length + 2 ≤ fuel := by
        simp only [chars, List.length_cons, List.length_append, List.length_nil] at hfuel
        omega
      obtain ⟨g, rfl⟩ : ∃ g, fuel = g + 1 := ⟨fuel - 1, by omega⟩
      have hlen : (itemsChars true (x :: xs)).length < g := by omega
      have hnest : nestingItems (x :: xs) ≤ d := by simp only [nesting] at hdepth; omega
      rw [readItems_chars (x :: xs) (List.cons_ne_nil _ _) hitems hlen hnest]
      rfl
  | .object fs, fuel, depth, rest, hint, hfuel, hdepth, _ => by
    obtain ⟨d, rfl⟩ : ∃ d, depth = d + 1 := ⟨depth - 1, by simp only [nesting] at hdepth; omega⟩
    cases fs with
    | nil => exact readValue_object_nil _ _ _
    | cons f fs =>
      obtain ⟨k, v⟩ := f
      have hfields : allFields integralHere ((k, v) :: fs) = true := by simp_all [all]
      rw [readValue_object]
      replace hfuel : (fieldsChars true ((k, v) :: fs)).length + 2 ≤ fuel := by
        simp only [chars, List.length_cons, List.length_append, List.length_nil] at hfuel
        omega
      obtain ⟨g, rfl⟩ : ∃ g, fuel = g + 1 := ⟨fuel - 1, by omega⟩
      have hlen : (fieldsChars true ((k, v) :: fs)).length < g := by omega
      have hnest : nestingFields ((k, v) :: fs) ≤ d := by simp only [nesting] at hdepth; omega
      rw [readFields_chars ((k, v) :: fs) (List.cons_ne_nil _ _) hfields hlen hnest]
      rfl

/-- Array items read back, up to the closing bracket, after the items in `acc`. -/
theorem readItems_chars : ∀ (xs : List Json) {fuel depth : Nat} {acc : List Json} {rest : List Char},
    xs ≠ [] → allItems integralHere xs = true → (itemsChars true xs).length < fuel →
      nestingItems xs ≤ depth →
        readItems (fuel + 1) depth acc (itemsChars true xs ++ ']' :: rest) =
          .ok (.array (acc.reverse ++ xs), rest)
  | [], _, _, _, _, hne, _, _, _ => absurd rfl hne
  | x :: xs, fuel, depth, acc, rest, _, hint, hfuel, hdepth => by
    have hx : x.all integralHere = true := by simp_all [allItems]
    have hxs : allItems integralHere xs = true := by simp_all [allItems]
    have hnx : nesting x ≤ depth := by simp only [nestingItems] at hdepth; omega
    have hnxs : nestingItems xs ≤ depth := by simp only [nestingItems] at hdepth; omega
    have ih := fun g => @readItems_chars xs g depth (x :: acc) rest
    obtain ⟨g, rfl⟩ : ∃ g, fuel = g + 1 := ⟨fuel - 1, by omega⟩
    rw [itemsChars_true_cons] at hfuel ⊢
    rw [List.length_append] at hfuel
    cases xs with
    | nil =>
      -- the last item, then the closing bracket
      rw [itemsChars, List.append_nil]
      rw [readItems_last (readValue_chars x hx (by omega) hnx (by simp [Follows]))]
    | cons y ys =>
      -- an item, a comma, and the items after it
      obtain ⟨c, tl, hc, hlt, hclose, -⟩ :=
        chars_eq_cons (integralHere_of_all (by simp_all [allItems] : y.all integralHere = true))
      rw [itemsChars_false_cons, List.length_cons] at hfuel
      rw [itemsChars_false_cons]
      simp only [List.append_assoc, List.cons_append]
      rw [readItems_more (readValue_chars x hx (by omega) hnx (by simp [Follows]))
        (by rw [itemsChars_true_cons, hc, List.cons_append, List.cons_append]) hlt hclose]
      rw [ih g (List.cons_ne_nil _ _) hxs (by omega) hnxs]
      simp

/-- Object fields read back, up to the closing brace, after the fields in `acc`. -/
theorem readFields_chars : ∀ (fs : List (String × Json)) {fuel depth : Nat} {acc : Fields} {rest : List Char},
    fs ≠ [] → allFields integralHere fs = true → (fieldsChars true fs).length < fuel →
      nestingFields fs ≤ depth →
        readFields (fuel + 1) depth acc (fieldsChars true fs ++ '\x7d' :: rest) =
          .ok (.object (acc.reverse ++ fs), rest)
  | [], _, _, _, _, hne, _, _, _ => absurd rfl hne
  | (k, v) :: fs, fuel, depth, acc, rest, _, hint, hfuel, hdepth => by
    have hv : v.all integralHere = true := by simp_all [allFields]
    have hfs : allFields integralHere fs = true := by simp_all [allFields]
    have hnv : nesting v ≤ depth := by simp only [nestingFields] at hdepth; omega
    have hnfs : nestingFields fs ≤ depth := by simp only [nestingFields] at hdepth; omega
    have ih := fun g => @readFields_chars fs g depth ((k, v) :: acc) rest
    obtain ⟨g, rfl⟩ : ∃ g, fuel = g + 1 := ⟨fuel - 1, by omega⟩
    rw [fieldsChars_true_cons] at hfuel ⊢
    simp only [List.length_append, List.length_cons] at hfuel
    cases fs with
    | nil =>
      -- the last field, then the closing brace
      simp only [fieldsChars, List.append_assoc, List.cons_append, List.nil_append]
      rw [readFields_last (readValue_chars v hv (by omega) hnv (by simp [Follows]))]
    | cons f fs =>
      -- a field, a comma, and the fields after it
      obtain ⟨k', v'⟩ := f
      rw [fieldsChars_false_cons, List.length_cons] at hfuel
      rw [fieldsChars_false_cons]
      simp only [List.append_assoc, List.cons_append]
      rw [readFields_more (readValue_chars v hv (by omega) hnv (by simp [Follows]))
        (by simp [fieldsChars_true_cons, quotedChars])]
      rw [ih g (List.cons_ne_nil _ _) hfs (by omega) hnfs]
      simp
end

/-! ## Whole texts -/

/-- **The compact text of a value reads back as the value**, when every number in it is an
integer of the reader's kind and it nests no deeper than the reader allows. -/
theorem parseWritten_render {j : Json} (hint : j.integral = true) (hnest : j.nesting ≤ nestingLimit) :
    parseWritten (render j) = .ok j := by
  have hread := @readValue_chars j (2 * (chars j).length + 1) _ [] hint (by omega) hnest trivial
  rw [List.append_nil] at hread
  rw [parseWritten, toList_render, hread]
  rfl

/-- The UTF-8 bytes of the compact text read back as the value too. -/
theorem parseWrittenBytes_render {j : Json} (hint : j.integral = true) (hnest : j.nesting ≤ nestingLimit) :
    parseWrittenBytes (render j).toUTF8 = .ok j := by
  rw [parseWrittenBytes, String.toUTF8_eq_toByteArray, Binary.Serial.fromUTF8?_toByteArray]
  exact parseWritten_render hint hnest

end TagStore.Json
