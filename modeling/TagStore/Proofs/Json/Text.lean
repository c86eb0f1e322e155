import Mathlib
import TagStore.Json.Read
import TagStore.Json.Write
/-!
# Proofs.Json.Text

The compact text of a value, character by character, and its atoms read back.

`Json.chars` says what each constructor is written as: a scalar as its word, number or quoted
string, an array as its items between brackets and an object as its quoted keys and values
between braces, commas between them. The writer appends exactly these characters to what it
has (`toList_write`), so they are the characters of `render` (`toList_render`). A character of a
string is written as `escapedChars` says, and the reader takes each such form back to the
character (`readString_escapedChars`), so a quoted string reads back as itself
(`readString_quoted`).

A number reads back as itself when it is an integer of the kind the reader gives
(`Number.isInteger`): unsigned, or negative and below zero. Its text is its decimal digits,
after a minus sign for a negative one, and the reader takes them whole when a comma, a
closing bracket or nothing follows (`Follows`), since none of these continues a number
(`readValue_number`). A float is written in its shortest text and is left out.
-/

namespace TagStore.Json

/-! ## The characters of a text -/

/-- The characters a character of a string is written as between the quotes. -/
def escapedChars (c : Char) : List Char := (escapeChar "" c).toList

/-- The characters of a quoted string. -/
def quotedChars (s : String) : List Char := '"' :: s.toList.flatMap escapedChars ++ ['"']

mutual
/-- The characters of the compact text of a value. -/
def chars : Json → List Char
  | .null => ['n', 'u', 'l', 'l']
  | .bool b => if b then ['t', 'r', 'u', 'e'] else ['f', 'a', 'l', 's', 'e']
  | .number n => n.render.toList
  | .string s => quotedChars s
  | .array xs => '[' :: itemsChars true xs ++ [']']
  | .object fs => '\x7b' :: fieldsChars true fs ++ ['\x7d']

/-- The characters of array items, a comma before each but the first. -/
def itemsChars (first : Bool) : List Json → List Char
  | [] => []
  | x :: xs => (if first then [] else [',']) ++ chars x ++ itemsChars false xs

/-- The characters of object fields, a comma before each but the first. -/
def fieldsChars (first : Bool) : List (String × Json) → List Char
  | [] => []
  | (k, v) :: rest =>
    (if first then [] else [',']) ++ quotedChars k ++ ':' :: chars v ++ fieldsChars false rest
end

theorem toList_escapeChar (acc : String) (c : Char) :
    (escapeChar acc c).toList = acc.toList ++ escapedChars c := by
  -- one case per branch of the escape, on the left only: the right takes the same branch
  fun_cases escapeChar acc c <;> simp [escapedChars, escapeChar, *]

theorem toList_foldl_escapeChar (cs : List Char) (acc : String) :
    (cs.foldl escapeChar acc).toList = acc.toList ++ cs.flatMap escapedChars := by
  induction cs generalizing acc with
  | nil => simp
  | cons c cs ih => rw [List.foldl_cons, ih, toList_escapeChar, List.flatMap_cons, List.append_assoc]

theorem toList_writeString (acc s : String) :
    (writeString acc s).toList = acc.toList ++ quotedChars s := by
  rw [writeString, String.toList_push, String.foldl_eq_foldl_toList, toList_foldl_escapeChar,
    String.toList_push]
  simp [quotedChars]

mutual
/-- The writer appends the characters of the value. -/
theorem toList_write : ∀ (acc : String) (j : Json), (write acc j).toList = acc.toList ++ chars j
  | acc, .null => by simp [write, chars]
  | acc, .bool b => by cases b <;> simp [write, chars]
  | acc, .number n => by simp [write, chars]
  | acc, .string s => by rw [write, toList_writeString, chars]
  | acc, .array xs => by
    rw [write, String.toList_push, toList_writeItems, String.toList_push, chars]
    simp
  | acc, .object fs => by
    rw [write, String.toList_push, toList_writeFields, String.toList_push, chars]
    simp

theorem toList_writeItems : ∀ (acc : String) (first : Bool) (xs : List Json),
    (writeItems acc first xs).toList = acc.toList ++ itemsChars first xs
  | acc, _, [] => by simp [writeItems, itemsChars]
  | acc, first, x :: xs => by
    rw [writeItems, toList_writeItems, toList_write, itemsChars]
    cases first <;> simp

theorem toList_writeFields : ∀ (acc : String) (first : Bool) (fs : List (String × Json)),
    (writeFields acc first fs).toList = acc.toList ++ fieldsChars first fs
  | acc, _, [] => by simp [writeFields, fieldsChars]
  | acc, first, (k, v) :: rest => by
    rw [writeFields, toList_writeFields, toList_write, String.toList_push, toList_writeString,
      fieldsChars]
    cases first <;> simp
end

theorem toList_render (j : Json) : (render j).toList = chars j := by
  rw [render, toList_write]
  rfl

/-! ## Strings read back -/

theorem hexValue?_hexDigit {n : Nat} (h : n < 16) : hexValue? (hexDigit n) = some n := by
  have hall : ∀ n < 16, hexValue? (hexDigit n) = some n := by decide
  exact hall n h

/-- The reader takes the escaped form of a character back to the character. -/
theorem readString_escapedChars (acc : String) (c : Char) (more : List Char) :
    readString acc (escapedChars c ++ more) = readString (acc.push c) more := by
  unfold escapedChars
  fun_cases escapeChar "" c with
  | case1 hq =>
    obtain rfl : c = '"' := beq_iff_eq.1 hq
    simp [readString.eq_3]
  | case2 _ hb =>
    obtain rfl : c = '\\' := beq_iff_eq.1 hb
    simp [readString.eq_4]
  | case3 _ _ hn =>
    obtain rfl : c = '\n' := beq_iff_eq.1 hn
    simp [readString.eq_8]
  | case4 _ _ _ hr =>
    obtain rfl : c = '\r' := beq_iff_eq.1 hr
    simp [readString.eq_9]
  | case5 _ _ _ _ ht =>
    obtain rfl : c = '\t' := beq_iff_eq.1 ht
    simp [readString.eq_10]
  | case6 _ _ _ _ _ h8 =>
    obtain rfl : c = Char.ofNat 8 := by rw [← beq_iff_eq.1 h8, Char.ofNat_toNat]
    simp [readString.eq_6]
  | case7 _ _ _ _ _ _ h12 =>
    obtain rfl : c = Char.ofNat 12 := by rw [← beq_iff_eq.1 h12, Char.ofNat_toNat]
    simp [readString.eq_7]
  | case8 _ _ _ _ _ _ _ hlow =>
    -- any other control character goes as `\u00` and two hex digits
    have hhex : hex4 ('0' :: '0' :: hexDigit (c.toNat / 16) :: hexDigit (c.toNat % 16) :: more) =
        some (c.toNat, more) := by
      simp only [hex4, hexValue?_hexDigit (by omega : c.toNat / 16 < 16),
        hexValue?_hexDigit (by omega : c.toNat % 16 < 16)]
      show some (((0 * 16 + 0) * 16 + c.toNat / 16) * 16 + c.toNat % 16, more) = some (c.toNat, more)
      rw [show ((0 * 16 + 0) * 16 + c.toNat / 16) * 16 + c.toNat % 16 = c.toNat by omega]
    have hesc : unicodeEscape ('0' :: '0' :: hexDigit (c.toNat / 16) :: hexDigit (c.toNat % 16) :: more) =
        .ok (c, 4) := by
      rw [unicodeEscape, hhex]
      simp only [Char.ofNat_toNat]
      rw [if_neg (by omega), if_neg (by omega)]
    simp only [String.empty_append, String.toList_push, List.append_assoc, List.cons_append,
      List.nil_append]
    simp only [show ("\\u00" : String).toList = ['\\', 'u', '0', '0'] by simp, List.cons_append,
      List.nil_append, readString.eq_11, hesc]
    rfl
  | case9 hq hb _ _ _ _ _ hlow =>
    -- a character written as itself
    have hq' : c ≠ '"' := fun h => by simp [h] at hq
    have hb' : c ≠ '\\' := fun h => by simp [h] at hb
    simp only [String.toList_push, String.toList_empty, List.nil_append, List.singleton_append]
    rw [readString.eq_14 _ _ _ hq' hb', if_neg hlow]

/-- Escaped characters read back, the closing quote ending the string. -/
theorem readString_escaped (acc : String) (cs rest : List Char) :
    readString acc (cs.flatMap escapedChars ++ '"' :: rest) = .ok (acc ++ String.ofList cs, rest) := by
  induction cs generalizing acc with
  | nil => simp [readString.eq_2]
  | cons c cs ih =>
    rw [List.flatMap_cons, List.append_assoc, readString_escapedChars, ih, String.ofList_cons,
      String.push_eq_append, String.append_assoc]

/-- A quoted string reads back as itself, the reader standing after its closing quote. -/
theorem readString_quoted (s : String) (rest : List Char) :
    readString "" (s.toList.flatMap escapedChars ++ '"' :: rest) = .ok (s, rest) := by
  rw [readString_escaped, String.empty_append, String.ofList_toList]

/-! ## Numbers read back -/

/-- An integer of the kind the reader gives it: unsigned, or negative and below zero. The text
of a float need not read back as the same float, and a negative integer that is not below
zero reads back as an unsigned one. -/
def Number.isInteger : Number → Bool
  | .nat _ => true
  | .negative i => decide (i < 0)
  | .float _ => false

/-- What may follow a value in a compact text: nothing, or a comma or the closing bracket or
brace of the array or object around it. -/
def Follows : List Char → Prop
  | [] => True
  | c :: _ => c = ',' ∨ c = ']' ∨ c = '\x7d'

theorem isDigit_iff {c : Char} : c.isDigit = true ↔ 48 ≤ c.toNat ∧ c.toNat ≤ 57 := by
  simp only [Char.isDigit, Bool.and_eq_true, decide_eq_true_eq, UInt32.le_iff_toNat_le, ge_iff_le]
  rfl

theorem digitValue?_of_isDigit {c : Char} (h : c.isDigit = true) : digitValue? c = some (c.toNat - 48) := by
  unfold digitValue?
  rw [if_pos]
  simp only [Char.le_def, UInt32.le_iff_toNat_le]
  exact isDigit_iff.1 h

theorem digitValue?_of_follows {c : Char} {rest : List Char} (h : Follows (c :: rest)) :
    digitValue? c = none := by
  rcases h with rfl | rfl | rfl <;> rfl

/-- A decimal digit differs from every character outside `0` to `9`. -/
theorem ne_of_isDigit {c : Char} (h : c.isDigit = true) {c' : Char} (h' : c'.toNat < 48 ∨ 57 < c'.toNat) :
    c ≠ c' := by
  rintro rfl
  have := isDigit_iff.1 h
  omega

theorem spanDigits_toDigits (n : Nat) {rest : List Char} (hrest : Follows rest) :
    spanDigits (Nat.toDigits 10 n ++ rest) = (Nat.toDigits 10 n, rest) := by
  have hall : ∀ c ∈ Nat.toDigits 10 n, (digitValue? c).isSome = true := fun c hc => by
    rw [digitValue?_of_isDigit (Nat.isDigit_of_mem_toDigits (by decide) (by decide) hc)]
    rfl
  rw [spanDigits, List.takeWhile_append_of_pos hall, List.dropWhile_append_of_pos hall]
  cases rest with
  | nil => simp
  | cons c rest => simp [digitValue?_of_follows hrest]

theorem readFraction_of_follows {rest : List Char} (h : Follows rest) : readFraction rest = .ok (none, rest) := by
  cases rest with
  | nil => rfl
  | cons c rest => rcases h with rfl | rfl | rfl <;> rfl

theorem readExponent_of_follows {rest : List Char} (h : Follows rest) : readExponent rest = .ok (none, rest) := by
  cases rest with
  | nil => rfl
  | cons c rest => rcases h with rfl | rfl | rfl <;> rfl

/-- The decimal digits of a number start with `0` only for zero. -/
theorem eq_zero_of_toDigits_eq_cons {n : Nat} {tl : List Char} (h : Nat.toDigits 10 n = '0' :: tl) : n = 0 := by
  induction n using Nat.strongRecOn generalizing tl with
  | ind n ih =>
    rw [Nat.toDigits_eq_if (by decide)] at h
    split at h
    · next hlt =>
      have hsmall : ∀ m < 10, Nat.digitChar m = '0' → m = 0 := by decide
      exact hsmall n hlt (List.cons.inj h).1
    · next hge =>
      -- the leading digit is that of `n / 10`, which is not zero
      obtain ⟨d, tl', hd⟩ := List.exists_cons_of_ne_nil (Nat.toDigits_ne_nil (n := n / 10) (b := 10))
      rw [hd, List.cons_append] at h
      obtain ⟨rfl, -⟩ := List.cons.inj h
      have := ih (n / 10) (by omega) hd
      omega

/-- `passes` says exactly that a digit takes the significand past the limit. -/
theorem passes_iff {limit s d : Nat} (hd : d < 10) : Number.passes limit s d = true ↔ limit < s * 10 + d := by
  simp only [Number.passes, Bool.and_eq_true, Bool.or_eq_true, decide_eq_true_eq]
  omega

theorem le_foldl_decimal (ds : List Nat) (s : Nat) : s ≤ ds.foldl (fun s d => s * 10 + d) s := by
  induction ds generalizing s with
  | nil => exact Nat.le_refl _
  | cons d ds ih => exact Nat.le_trans (by omega) (ih (s * 10 + d))

/-- Digits whose value stays within `u64Max` all go into the significand. -/
theorem foldl_significand {ds : List Nat} (hds : ∀ d ∈ ds, d < 10) {s : Nat}
    (h : ds.foldl (fun s d => s * 10 + d) s ≤ Number.u64Max) :
    ds.foldl (fun (s, extra) d =>
      if extra > 0 || Number.passes Number.u64Max s d then (s, extra + 1) else (s * 10 + d, 0)) (s, 0) =
      (ds.foldl (fun s d => s * 10 + d) s, 0) := by
  induction ds generalizing s with
  | nil => rfl
  | cons d ds ih =>
    have hd := hds d List.mem_cons_self
    have hnext : s * 10 + d ≤ Number.u64Max := Nat.le_trans (le_foldl_decimal ds _) h
    have hpass : Number.passes Number.u64Max s d = false := by
      rw [Bool.eq_false_iff]
      intro hp
      rw [passes_iff hd] at hp
      omega
    simp only [List.foldl_cons, gt_iff_lt, Nat.lt_irrefl, decide_false, Bool.false_or, hpass,
      Bool.false_eq_true, if_false]
    exact ih (fun d' hd' => hds d' (List.mem_cons_of_mem _ hd')) h

theorem foldl_digitValues_toDigits (n : Nat) :
    (digitValues (Nat.toDigits 10 n)).foldl (fun s d => s * 10 + d) 0 = n := by
  have hfun : (fun (s : Nat) (c : Char) => s * 10 + (c.toNat - 48)) =
      fun sofar c => 10 * sofar + (c.toNat - '0'.toNat) := by
    funext s c
    rw [Nat.mul_comm]
    rfl
  rw [digitValues, List.foldl_map, hfun, ← Nat.ofDigitChars_eq_foldl, Nat.ofDigitChars_ten_toDigits]

theorem wholeSignificand_toDigits {n : Nat} (h : n ≤ Number.u64Max) :
    Number.wholeSignificand (digitValues (Nat.toDigits 10 n)) = (n, 0) := by
  have hfold := foldl_digitValues_toDigits n
  have hdigits : ∀ d ∈ digitValues (Nat.toDigits 10 n), d < 10 := by
    intro d hd
    obtain ⟨c, hc, rfl⟩ := List.mem_map.1 hd
    have := isDigit_iff.1 (Nat.isDigit_of_mem_toDigits (by decide) (by decide) hc)
    omega
  unfold Number.wholeSignificand
  rw [foldl_significand hdigits (by rw [hfold]; exact h), hfold]

theorem ofNumeral_unsigned {n : Nat} (h : n < 2 ^ 64) :
    Number.ofNumeral ⟨false, digitValues (Nat.toDigits 10 n), none, none⟩ = some (.nat n.toUInt64) := by
  have hw := wholeSignificand_toDigits (n := n) (by unfold Number.u64Max; exact Nat.le_sub_one_of_lt h)
  simp only [Number.ofNumeral, hw]
  rfl

theorem ofNumeral_negative {n : Nat} (h0 : 0 < n) (h : n ≤ 2 ^ 63) :
    Number.ofNumeral ⟨true, digitValues (Nat.toDigits 10 n), none, none⟩ =
      some (.negative (Int64.ofInt (-(n : Int)))) := by
  have hw := wholeSignificand_toDigits (n := n) (by unfold Number.u64Max; simp only [Nat.pow_eq]; omega)
  have hkind : ¬(n == 0 || decide (n > Nat.pow 2 63)) = true := by
    simp only [Bool.or_eq_true, beq_iff_eq, decide_eq_true_eq, Nat.pow_eq, not_or]
    omega
  simp only [Number.ofNumeral, hw]
  rw [if_neg (by decide), if_neg hkind]

/-- Decimal digits read back as the number their numeral gives, when what follows cannot
continue them. -/
theorem readNumber_toDigits (negative : Bool) (n : Nat) {rest : List Char} (hrest : Follows rest) {v : Number}
    (hv : Number.ofNumeral ⟨negative, digitValues (Nat.toDigits 10 n), none, none⟩ = some v) :
    readNumber negative (Nat.toDigits 10 n ++ rest) = .ok (v, rest) := by
  unfold readNumber
  split
  · next rest' heq =>
    -- a leading zero: the number is zero, written as that one digit
    obtain ⟨d, tl, hdt⟩ := List.exists_cons_of_ne_nil (Nat.toDigits_ne_nil (n := n) (b := 10))
    rw [hdt, List.cons_append] at heq
    obtain ⟨rfl, hrest'⟩ := List.cons.inj heq
    obtain rfl := eq_zero_of_toDigits_eq_cons hdt
    rw [Nat.toDigits_zero] at hdt hv
    obtain rfl : tl = [] := (List.cons.inj hdt).2.symm
    rw [List.nil_append] at hrest'
    subst hrest'
    cases rest with
    | nil => simp [readFraction_of_follows hrest, readExponent_of_follows hrest, hv, bind, Except.bind]
    | cons c r =>
      simp [digitValue?_of_follows hrest, readFraction_of_follows hrest, readExponent_of_follows hrest, hv, bind, Except.bind]
  · next c tl hc heq =>
    have hdigit : (digitValue? c).isNone = false := by
      obtain ⟨d, tl', hdt⟩ := List.exists_cons_of_ne_nil (Nat.toDigits_ne_nil (n := n) (b := 10))
      rw [hdt, List.cons_append] at heq
      obtain ⟨rfl, -⟩ := List.cons.inj heq
      rw [digitValue?_of_isDigit (Nat.isDigit_of_mem_toDigits (by decide) (by decide) (hdt ▸ List.mem_cons_self))]
      rfl
    simp [hdigit, spanDigits_toDigits n hrest, readFraction_of_follows hrest, readExponent_of_follows hrest, hv, bind, Except.bind]
  · next heq => exact absurd heq (by simp [Nat.toDigits_ne_nil])

/-- Blanks are at most a space: a character past it stands as it is. -/
theorem skipBlanks_of_lt {c : Char} (h : 32 < c.toNat) (cs : List Char) : skipBlanks (c :: cs) = c :: cs := by
  have hne : ∀ c' : Char, c'.toNat ≤ 32 → c ≠ c' := by
    rintro c' hc' rfl
    omega
  rw [skipBlanks, if_neg]
  simp only [Bool.or_eq_true, beq_iff_eq, not_or]
  exact ⟨⟨⟨hne ' ' (by decide), hne '\t' (by decide)⟩, hne '\n' (by decide)⟩, hne '\r' (by decide)⟩

theorem chars_nat (u : UInt64) : chars (.number (.nat u)) = Nat.toDigits 10 u.toNat := by
  simp [chars, Number.render, Nat.toList_repr]

theorem chars_negative {i : Int64} (h : i < 0) :
    chars (.number (.negative i)) = '-' :: Nat.toDigits 10 (-i.toInt).toNat := by
  have hneg : i.toInt < 0 := by simpa using Int64.lt_iff_toInt_lt.1 h
  simp [chars, Number.render, Int.repr_eq_if, Int.not_le.2 hneg, Nat.toList_repr]

/-- An integer reads back as itself when what follows cannot continue it. -/
theorem readValue_number {n : Number} (hn : n.isInteger = true) (fuel depth : Nat) {rest : List Char}
    (hrest : Follows rest) : readValue (fuel + 1) depth (chars (.number n) ++ rest) = .ok (.number n, rest) := by
  cases n with
  | nat u =>
    have hread := readNumber_toDigits false u.toNat hrest (ofNumeral_unsigned u.toNat_lt)
    obtain ⟨d, tl, hdt⟩ := List.exists_cons_of_ne_nil (Nat.toDigits_ne_nil (n := u.toNat) (b := 10))
    have hd : d.isDigit = true := Nat.isDigit_of_mem_toDigits (by decide) (by decide) (hdt ▸ List.mem_cons_self)
    have hd' := isDigit_iff.1 hd
    rw [hdt, List.cons_append] at hread
    rw [chars_nat, readValue.eq_2, hdt, List.cons_append, skipBlanks_of_lt (by omega)]
    -- the dispatch on the first character: only a digit starts a number without a sign
    split
    case h_9 c rest' _ _ _ _ _ _ _ heq =>
      obtain ⟨rfl, rfl⟩ := List.cons.inj heq
      rw [if_pos (by rw [digitValue?_of_isDigit hd]; rfl)]
      simp only [hread, UInt64.ofNat_toNat]
      rfl
    -- no other character that starts a value is a digit
    all_goals
      rename_i heq
      first
        | exact absurd heq (List.cons_ne_nil _ _)
        | exact absurd (List.cons.inj heq).1 (ne_of_isDigit hd (by decide))
  | negative i =>
    have hi : i < 0 := by simpa [Number.isInteger] using hn
    have hmag : 0 < (-i.toInt).toNat ∧ (-i.toInt).toNat ≤ 2 ^ 63 := by
      have hlow := Int64.le_toInt i
      have hneg : i.toInt < 0 := by simpa using Int64.lt_iff_toInt_lt.1 hi
      omega
    have hread := readNumber_toDigits true _ hrest (ofNumeral_negative hmag.1 hmag.2)
    have hback : Int64.ofInt (-((-i.toInt).toNat : Int)) = i := by
      rw [show -((-i.toInt).toNat : Int) = i.toInt by omega, Int64.ofInt_toInt]
    rw [hback] at hread
    rw [chars_negative hi, List.cons_append, readValue.eq_2,
      skipBlanks_of_lt (show 32 < ('-' : Char).toNat by decide)]
    simp only [hread]
    rfl
  | float x => simp [Number.isInteger] at hn

end TagStore.Json
