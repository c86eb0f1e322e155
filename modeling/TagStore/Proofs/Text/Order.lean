import TagStore.Proofs.Binary.Serial
/-!
# Proofs.Text.Order

How texts are ordered. A text compares character by character, and this is the order of its
UTF-8 bytes: the encoding of a smaller character is smaller at a byte where the two encodings
differ (`utf8EncodeChar_lt`), and no character's encoding is a prefix of another's
(`utf8EncodeChar_isPrefix_iff`), so comparing the bytes of two texts decides at the first
character where they differ.

In this order the texts that start with a prefix `p` form one run that starts at `p`: none
lies below `p` (`le_of_startsWith`), and a text between `p` and a text that starts with `p`
starts with `p` too (`startsWith_of_le_of_le`).

**Main statements.**
* `lt_iff_toUTF8_lt` — texts compare as their UTF-8 bytes;
* `startsWith_iff_toUTF8_prefix` — a text starts with another exactly when its bytes do;
* `startsWith_of_le_of_le` — the texts with a prefix form an interval of the order.
-/

namespace TagStore.Text

/-! ## Lists compared after a common part -/

theorem append_lt_append_left_iff {α : Type} [LT α] [Std.Irrefl (· < · : α → α → Prop)]
    (u : List α) {a b : List α} : u ++ a < u ++ b ↔ a < b := by
  induction u with
  | nil => rfl
  | cons c u ih => simpa using ih

/-- Two lists that differ before either ends compare the same whatever follows them. -/
theorem append_lt_append_of_mismatch {α : Type} [LT α] :
    ∀ {u v : List α}, u < v → ¬ u <+: v → ∀ x y : List α, u ++ x < v ++ y
  | [], _, _, hp, _, _ => absurd List.nil_prefix hp
  | _ :: _, [], h, _, _, _ => absurd h (List.not_lt_nil _)
  | a :: u, b :: v, h, hp, x, y => by
    rcases List.cons_lt_cons_iff.1 h with hab | ⟨rfl, huv⟩
    · exact List.cons_lt_cons_iff.2 (.inl hab)
    · have hp' : ¬ u <+: v := fun h' => hp (List.cons_prefix_cons.2 ⟨rfl, h'⟩)
      exact List.cons_lt_cons_iff.2 (.inr ⟨rfl, append_lt_append_of_mismatch huv hp' x y⟩)

/-! ## The encoding of one character -/

theorem val_toNat_lt (c : Char) : c.val.toNat < 0x110000 := by
  have := c.valid
  simp only [UInt32.isValidChar, Nat.isValidChar] at this
  omega

/-- A smaller character has a smaller encoding. -/
theorem utf8EncodeChar_lt {c d : Char} (h : c < d) :
    String.utf8EncodeChar c < String.utf8EncodeChar d := by
  have hcd : c.val.toNat < d.val.toNat := h
  have hd := val_toNat_lt d
  -- the bytes are base-64 digits of the code point; spelled as nested divisions by 64 so
  -- that `omega` relates the digits of one code point to each other
  have h64 (v : Nat) : v / 4096 = v / 64 / 64 := by rw [Nat.div_div_eq_div_mul]
  have h4096 (v : Nat) : v / 262144 = v / 64 / 64 / 64 := by
    rw [Nat.div_div_eq_div_mul, Nat.div_div_eq_div_mul]
  dsimp only [String.utf8EncodeChar]
  simp only [h64, h4096]
  split_ifs <;>
    simp only [List.cons_lt_cons_iff, UInt8.lt_iff_toNat_lt, ← UInt8.toNat_inj, UInt8.toNat_ofNat',
      Nat.reducePow, List.nil_lt_cons, List.not_lt_nil, and_true, and_false, or_false] <;>
    omega

/-! ## The encoding of a list of characters -/

/-- The bytes of some characters start with the bytes of others exactly when the characters
do: UTF-8 is a prefix code. -/
theorem flatMap_utf8EncodeChar_prefix_iff {l m : List Char} :
    l.flatMap String.utf8EncodeChar <+: m.flatMap String.utf8EncodeChar ↔ l <+: m := by
  constructor
  · rintro ⟨rest, hrest⟩
    apply List.isPrefix_of_utf8Encode_append_eq_utf8Encode rest.toByteArray
    simp only [List.utf8Encode, ← hrest, List.toByteArray_append]
  · rintro ⟨rest, rfl⟩
    exact ⟨rest.flatMap String.utf8EncodeChar, List.flatMap_append.symm⟩

theorem utf8EncodeChar_isPrefix_iff {c d : Char} :
    String.utf8EncodeChar c <+: String.utf8EncodeChar d ↔ c = d := by
  constructor
  · intro hp
    have : [c] <+: [d] := flatMap_utf8EncodeChar_prefix_iff.1 (by simpa using hp)
    simpa using this
  · rintro rfl
    exact List.prefix_refl _

theorem nil_lt_utf8EncodeChar_append (d : Char) (y : List UInt8) : [] < String.utf8EncodeChar d ++ y := by
  obtain ⟨b, bs, hb⟩ := List.exists_cons_of_ne_nil (String.utf8EncodeChar_ne_nil (c := d))
  rw [hb, List.cons_append]
  exact List.nil_lt_cons _ _

/-- Characters compare as their bytes do. -/
theorem flatMap_utf8EncodeChar_lt_iff :
    ∀ {l m : List Char}, l.flatMap String.utf8EncodeChar < m.flatMap String.utf8EncodeChar ↔ l < m
  | [], [] => by simp
  | [], d :: m => by simpa using nil_lt_utf8EncodeChar_append d _
  | c :: l, [] => by simp
  | c :: l, d :: m => by
    rw [List.flatMap_cons, List.flatMap_cons, List.cons_lt_cons_iff]
    -- the first characters decide unless they are equal
    rcases lt_trichotomy c d with hcd | rfl | hdc
    · exact iff_of_true (append_lt_append_of_mismatch (utf8EncodeChar_lt hcd)
        (mt utf8EncodeChar_isPrefix_iff.1 (ne_of_lt hcd)) _ _) (.inl hcd)
    · rw [append_lt_append_left_iff, flatMap_utf8EncodeChar_lt_iff]
      simp
    · have hgt := append_lt_append_of_mismatch (utf8EncodeChar_lt hdc)
        (mt utf8EncodeChar_isPrefix_iff.1 (ne_of_lt hdc)) (m.flatMap String.utf8EncodeChar)
        (l.flatMap String.utf8EncodeChar)
      refine iff_of_false (List.lt_asymm hgt) ?_
      rintro (hlt | ⟨rfl, -⟩)
      · exact lt_asymm hlt hdc
      · exact lt_irrefl _ hdc

/-! ## Texts and their bytes -/

theorem toUTF8_toList (s : String) : s.toUTF8.toList = s.toList.flatMap String.utf8EncodeChar := by
  rw [Binary.toList_eq_data_toList, String.toUTF8_eq_toByteArray, ← String.utf8Encode_toList,
    List.utf8Encode, List.toList_data_toByteArray]

/-- Texts compare as their UTF-8 bytes. -/
theorem lt_iff_toUTF8_lt {s t : String} : s < t ↔ s.toUTF8.toList < t.toUTF8.toList := by
  rw [toUTF8_toList, toUTF8_toList, flatMap_utf8EncodeChar_lt_iff]
  rfl

/-- A text starts with another exactly when its UTF-8 bytes start with the other's. -/
theorem startsWith_iff_toUTF8_prefix {s p : String} :
    s.startsWith p ↔ p.toUTF8.toList <+: s.toUTF8.toList := by
  rw [toUTF8_toList, toUTF8_toList, flatMap_utf8EncodeChar_prefix_iff, String.startsWith_string_iff]

/-! ## The run of texts with a prefix -/

/-- No text lies below a prefix of it. -/
theorem le_of_startsWith {p s : String} (h : s.startsWith p) : p ≤ s :=
  List.IsPrefix.le (String.startsWith_string_iff.1 h)

theorem isPrefix_of_not_lt_of_not_lt : ∀ {p a b : List Char}, ¬ a < p → ¬ b < a → p <+: b → p <+: a
  | [], _, _, _, _, _ => List.nil_prefix
  | _ :: _, [], _, hpa, _, _ => absurd (List.nil_lt_cons _ _) hpa
  | c :: p, x :: a, _, hpa, hab, hb => by
    obtain ⟨rest, rfl⟩ := hb
    -- `a` not below `p` bounds its first character from below, `b` not below `a` from above
    rw [List.cons_lt_cons_iff, not_or, not_and] at hpa
    rw [List.cons_append, List.cons_lt_cons_iff, not_or, not_and] at hab
    obtain rfl : x = c := le_antisymm (not_lt.1 hab.1) (not_lt.1 hpa.1)
    exact List.cons_prefix_cons.2 ⟨rfl, isPrefix_of_not_lt_of_not_lt (hpa.2 rfl) (hab.2 rfl) ⟨rest, rfl⟩⟩

/-- The texts that start with `p` form one run of the order: a text between `p` and a text
that starts with `p` starts with `p` too. -/
theorem startsWith_of_le_of_le {p a b : String} (hpa : p ≤ a) (hab : a ≤ b) (hb : b.startsWith p) :
    a.startsWith p :=
  String.startsWith_string_iff.2
    (isPrefix_of_not_lt_of_not_lt hpa hab (String.startsWith_string_iff.1 hb))

end TagStore.Text
