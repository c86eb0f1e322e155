import TagStore.Cache.Key
/-!
# Proofs.Cache.Key

A cache key reads back. Split the characters of a key at every `-` that no backslash
escapes and undo the escapes: what comes out is the dataset, the operation and the
parameters the key was made of (`components_key`). So a key determines them (`key_inj`):
keys of different datasets, operations or parameters never coincide, and the key of an
operation is the key of no other operation (`key_ne_of_operation`).
-/

namespace TagStore.Cache

/-! ## Components over characters -/

/-- A component's characters with `-` and `\` escaped by a backslash. -/
def escaped : List Char → List Char
  | [] => []
  | c :: cs => (if c = '\\' then ['\\', '\\'] else if c = '-' then ['\\', '-'] else [c]) ++ escaped cs

/-- Put a character at the front of the first component. -/
def consFirst (c : Char) : List (List Char) → List (List Char)
  | [] => [[c]]
  | x :: xs => (c :: x) :: xs

/-- Put characters at the front of the first component. -/
def appendFirst (a : List Char) : List (List Char) → List (List Char)
  | [] => [a]
  | x :: xs => (a ++ x) :: xs

/-- The components of a key's characters: split at each `-` that no backslash escapes, with
the escapes undone. -/
def components : List Char → List (List Char)
  | [] => [[]]
  | c :: cs =>
    if c = '-' then [] :: components cs
    else if c = '\\' then
      match cs with
      | [] => [['\\']]
      | c' :: cs' => consFirst c' (components cs')
    else consFirst c (components cs)

theorem components_dash (cs : List Char) : components ('-' :: cs) = [] :: components cs := by
  rw [components.eq_def]
  simp

theorem components_escape (c : Char) (cs : List Char) :
    components ('\\' :: c :: cs) = consFirst c (components cs) := by
  rw [components.eq_def]
  simp

theorem components_plain {c : Char} (hd : c ≠ '-') (hb : c ≠ '\\') (cs : List Char) :
    components (c :: cs) = consFirst c (components cs) := by
  rw [components.eq_def]
  simp [hd, hb]

theorem components_ne_nil (cs : List Char) : components cs ≠ [] := by
  fun_cases components cs <;> simp_all [consFirst] <;> split <;> simp

theorem consFirst_appendFirst (c : Char) (a : List Char) (l : List (List Char)) :
    consFirst c (appendFirst a l) = appendFirst (c :: a) l := by
  cases l <;> rfl

/-- **An escaped component reads back** as the front of the first component of what follows. -/
theorem components_escaped_append (a t : List Char) :
    components (escaped a ++ t) = appendFirst a (components t) := by
  induction a with
  | nil =>
    obtain ⟨x, xs, hx⟩ := List.exists_cons_of_ne_nil (components_ne_nil t)
    rw [escaped, List.nil_append, hx]
    rfl
  | cons c a ih =>
    rw [← consFirst_appendFirst, ← ih, escaped]
    by_cases hb : c = '\\'
    · subst hb
      simp [components_escape]
    · by_cases hd : c = '-'
      · subst hd
        simp [components_escape]
      · simp [components_plain hd hb, hb, hd]

/-- The separated components of the parameters. -/
def separated (ps : List String) : List Char := ps.flatMap fun p => '-' :: escaped p.toList

theorem components_escaped_separated (a : List Char) (ps : List String) :
    components (escaped a ++ separated ps) = a :: ps.map String.toList := by
  induction ps generalizing a with
  | nil =>
    rw [separated, List.flatMap_nil, List.append_nil, ← List.append_nil (escaped a),
      components_escaped_append, components]
    simp [appendFirst]
  | cons p ps ih =>
    have hsep : separated (p :: ps) = '-' :: (escaped p.toList ++ separated ps) := by
      simp [separated]
    rw [hsep, components_escaped_append, components_dash, ih]
    simp [appendFirst]

/-! ## Keys -/

theorem toList_escapeInto (acc s : String) : (escapeInto acc s).toList = acc.toList ++ escaped s.toList := by
  rw [escapeInto, String.foldl_eq_foldl_toList]
  generalize s.toList = cs
  induction cs generalizing acc with
  | nil => simp [escaped]
  | cons c cs ih =>
    rw [List.foldl_cons, ih, escaped]
    by_cases hb : c = '\\'
    · subst hb
      simp [show "\\\\".toList = ['\\', '\\'] by decide]
    · by_cases hd : c = '-'
      · subst hd
        simp [show "\\-".toList = ['\\', '-'] by decide]
      · simp [hb, hd]

theorem toList_foldl_escapeInto (acc : String) (ps : List String) :
    (ps.foldl (fun acc p => escapeInto (acc.push '-') p) acc).toList = acc.toList ++ separated ps := by
  induction ps generalizing acc with
  | nil => simp [separated]
  | cons p ps ih =>
    rw [List.foldl_cons, ih, toList_escapeInto]
    simp [separated]

theorem toList_key (dataset operation : String) (parameters : List String) :
    (key dataset operation parameters).toList =
      escaped dataset.toList ++ '-' :: (escaped operation.toList ++ separated parameters) := by
  simp [key, toList_foldl_escapeInto, toList_escapeInto]

/-- **A key reads back** as its dataset, its operation and its parameters. -/
theorem components_key (dataset operation : String) (parameters : List String) :
    components (key dataset operation parameters).toList =
      dataset.toList :: operation.toList :: parameters.map String.toList := by
  rw [toList_key, components_escaped_append, components_dash, components_escaped_separated]
  simp [appendFirst]

/-- **A key determines** its dataset, its operation and its parameters. -/
theorem key_inj {d d' o o' : String} {ps ps' : List String} (h : key d o ps = key d' o' ps') :
    d = d' ∧ o = o' ∧ ps = ps' := by
  have hc := congrArg (components ·.toList) h
  simp only [components_key, List.cons.injEq, String.toList_inj] at hc
  exact ⟨hc.1, hc.2.1, (List.map_inj_right fun _ _ => String.toList_inj.1).1 hc.2.2⟩

theorem key_ne_of_operation {d d' o o' : String} {ps ps' : List String} (h : o ≠ o') :
    key d o ps ≠ key d' o' ps' :=
  fun heq => h (key_inj heq).2.1

end TagStore.Cache
