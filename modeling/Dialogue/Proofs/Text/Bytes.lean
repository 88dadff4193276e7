import Dialogue.Text.Basic

/-!
# Texts by bytes

A text in UTF-8 has a length in bytes, and it can be cut at a byte only where a character begins or
the text ends.

* `cutBytes?_eq_some`: the two sides of a cut are the text, and the first has as many bytes as asked
  for.
* `slice?_append`: a part of a text is found by the bytes before it and its own.
* `isValid_utf8Length`: where a text can be cut is a position of its string.
-/

namespace Dialogue.Text

variable {text a b : List Char}

/-! ### Lengths -/

@[simp] theorem utf8Length_nil : utf8Length [] = 0 := rfl

theorem foldl_utf8Size (text : List Char) (n : Nat) :
    text.foldl (fun n c => n + c.utf8Size) n = n + utf8Length text := by
  induction text generalizing n with
  | nil => rfl
  | cons c text ih =>
    rw [utf8Length, List.foldl_cons, List.foldl_cons, ih, ih (0 + c.utf8Size)]
    omega

@[simp] theorem utf8Length_cons (c : Char) (text : List Char) :
    utf8Length (c :: text) = c.utf8Size + utf8Length text := by
  rw [utf8Length, List.foldl_cons, foldl_utf8Size, Nat.zero_add]

@[simp] theorem utf8Length_append (a b : List Char) :
    utf8Length (a ++ b) = utf8Length a + utf8Length b := by
  rw [utf8Length, List.foldl_append, foldl_utf8Size]
  rfl

theorem utf8Length_pos (h : text ≠ []) : 0 < utf8Length text := by
  obtain ⟨c, text, rfl⟩ := List.exists_cons_of_ne_nil h
  rw [utf8Length_cons]
  exact Nat.add_pos_left c.utf8Size_pos _

theorem utf8ByteSize_ofList (text : List Char) :
    (String.ofList text).utf8ByteSize = utf8Length text := by
  induction text with
  | nil => rfl
  | cons c text ih =>
    have hsplit : String.ofList (c :: text) = String.singleton c ++ String.ofList text := by
      rw [String.singleton_eq_ofList, ← String.ofList_append]
      rfl
    rw [hsplit, String.utf8ByteSize_append, String.utf8ByteSize_singleton, ih, utf8Length_cons]

/-! ### Cuts -/

/-- The two sides of a text at a byte, when a character begins there or the text ends. -/
def cutBytes? : Nat → List Char → Option (List Char × List Char)
  | 0, text => some ([], text)
  | _ + 1, [] => none
  | n + 1, c :: text =>
    if c.utf8Size ≤ n + 1 then
      (cutBytes? (n + 1 - c.utf8Size) text).map fun (a, b) => (c :: a, b)
    else none

theorem cutBytes?_append (a b : List Char) : cutBytes? (utf8Length a) (a ++ b) = some (a, b) := by
  induction a with
  | nil => cases b <;> rfl
  | cons c a ih =>
    obtain ⟨n, hn⟩ : ∃ n, utf8Length (c :: a) = n + 1 :=
      Nat.exists_eq_succ_of_ne_zero (Nat.ne_of_gt (utf8Length_pos (List.cons_ne_nil c a)))
    have hcut : n + 1 - c.utf8Size = utf8Length a := by
      rw [← hn, utf8Length_cons, Nat.add_sub_cancel_left]
    rw [hn, List.cons_append, cutBytes?, if_pos (by rw [← hn, utf8Length_cons]; omega), hcut, ih]
    rfl

/-- The two sides of a cut are the text, and the first has as many bytes as asked for. -/
theorem cutBytes?_eq_some {n : Nat} :
    cutBytes? n text = some (a, b) ↔ text = a ++ b ∧ utf8Length a = n := by
  refine ⟨fun h => ?_, fun ⟨ht, hn⟩ => ht ▸ hn ▸ cutBytes?_append a b⟩
  induction text generalizing n a with
  | nil =>
    cases n with
    | zero => cases h; exact ⟨rfl, rfl⟩
    | succ n => cases h
  | cons c text ih =>
    cases n with
    | zero => cases h; exact ⟨rfl, rfl⟩
    | succ n =>
      rw [cutBytes?] at h
      split at h
      · rename_i hle
        obtain ⟨⟨a', b'⟩, hcut, heq⟩ := Option.map_eq_some_iff.1 h
        cases heq
        obtain ⟨rfl, hlen⟩ := ih hcut
        exact ⟨rfl, by rw [utf8Length_cons, hlen]; omega⟩
      · cases h

/-- The part of a text from one byte to another. -/
def slice? (i j : Nat) (text : List Char) : Option (List Char) :=
  match cutBytes? i text with
  | none => none
  | some (_, rest) => if i ≤ j then (cutBytes? (j - i) rest).map (·.1) else none

theorem slice?_append (a b c : List Char) :
    slice? (utf8Length a) (utf8Length a + utf8Length b) (a ++ (b ++ c)) = some b := by
  rw [slice?, cutBytes?_append]
  dsimp only
  rw [if_pos (Nat.le_add_right _ _), Nat.add_sub_cancel_left, cutBytes?_append]
  rfl

/-- Where a text can be cut is a position of its string. -/
theorem isValid_utf8Length (a b : List Char) :
    String.Pos.Raw.IsValid (String.ofList (a ++ b)) ⟨utf8Length a⟩ := by
  refine String.Pos.Raw.isValid_iff_exists_append.2
    ⟨String.ofList a, String.ofList b, String.ofList_append, ?_⟩
  rw [← utf8ByteSize_ofList a]
  rfl

/-! ### Places of characters -/

/-- The byte at which a character begins. -/
def byteOf (text : List Char) (i : Nat) : Nat := utf8Length (text.take i)

theorem byteOf_append (a b : List Char) : byteOf (a ++ b) a.length = utf8Length a := by
  rw [byteOf, List.take_left]

/-- Between two places of a text there are the characters between them. -/
theorem byteOf_add (text : List Char) (i n : Nat) :
    byteOf text (i + n) = byteOf text i + utf8Length ((text.drop i).take n) := by
  rw [byteOf, byteOf, List.take_add, utf8Length_append]

/-- A later character begins at a later byte. -/
theorem byteOf_lt {i j : Nat} (hij : i < j) (hj : j ≤ text.length) :
    byteOf text i < byteOf text j := by
  obtain ⟨n, rfl⟩ := Nat.exists_eq_add_of_lt hij
  have hne : (text.drop i).take (n + 1) ≠ [] := by
    rw [ne_eq, List.take_eq_nil_iff, List.drop_eq_nil_iff]
    omega
  have hpos := utf8Length_pos hne
  rw [Nat.add_assoc, byteOf_add]
  omega

theorem byteOf_le_iff {i j : Nat} (hi : i ≤ text.length) (hj : j ≤ text.length) :
    byteOf text i ≤ byteOf text j ↔ i ≤ j := by
  rcases Nat.lt_trichotomy i j with h | rfl | h
  · have := byteOf_lt h hj
    omega
  · omega
  · have := byteOf_lt h hi
    omega

/-- A part of a text is found by the bytes at which it begins and ends. -/
theorem slice?_byteOf {i j : Nat} (hij : i ≤ j) (hj : j ≤ text.length) :
    slice? (byteOf text i) (byteOf text j) text = some ((text.drop i).take (j - i)) := by
  obtain ⟨n, rfl⟩ := Nat.exists_eq_add_of_le hij
  have h := slice?_append (text.take i) ((text.drop i).take n) ((text.drop i).drop n)
  rw [List.take_append_drop, List.take_append_drop] at h
  rw [byteOf_add, Nat.add_sub_cancel_left]
  exact h

end Dialogue.Text
