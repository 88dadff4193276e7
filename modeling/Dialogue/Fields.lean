/-!
# Named fields in the order of their names

A collection of fields is a list of pairs kept in ascending order of names, each name once.
`Fields.insert` keeps that order; `get?_insert` says what an insertion changes.

* `get?_insert_self`: an inserted value is found under its name.
* `get?_insert_of_ne`: the values under other names stay.
* `sorted_insert`: an insertion keeps the order.
* `get?_erase_self`, `get?_erase_of_ne`: a removed name is gone, the others stay.
-/

namespace Dialogue

/-- Fields with values in `α`, in ascending order of their names. -/
abbrev Fields (α : Type) := List (String × α)

namespace Fields

variable {α β : Type}

/-- The value under a name. -/
def get? (fields : Fields α) (name : String) : Option α :=
  (fields.find? (·.1 == name)).map (·.2)

@[simp] theorem get?_nil (name : String) : get? ([] : Fields α) name = none := rfl

theorem get?_cons (key : String) (value : α) (fields : Fields α) (name : String) :
    get? ((key, value) :: fields) name = if key = name then some value else get? fields name := by
  by_cases h : key = name
  · simp [get?, List.find?, h]
  · have : (key == name) = false := by simpa using h
    simp [get?, List.find?, h, this]

/-- Whether a name is there. -/
def has (fields : Fields α) (name : String) : Bool := (get? fields name).isSome

/-- Puts a value under a name, in place of the one there. -/
def insert (name : String) (value : α) : Fields α → Fields α
  | [] => [(name, value)]
  | (key, old) :: fields =>
    if name = key then (name, value) :: fields
    else if name < key then (name, value) :: (key, old) :: fields
    else (key, old) :: insert name value fields

/-- Removes a name. -/
def erase (fields : Fields α) (name : String) : Fields α := fields.filter (·.1 != name)

/-- The fields of a list of pairs; of pairs with one name the last counts. -/
def ofList (pairs : List (String × α)) : Fields α :=
  pairs.foldl (fun fields pair => insert pair.1 pair.2 fields) []

/-- Adds all fields of the second collection to the first, replacing those there. -/
def merge (fields more : Fields α) : Fields α :=
  more.foldl (fun fields pair => insert pair.1 pair.2 fields) fields

/-- The names. -/
def names (fields : Fields α) : List String := fields.map (·.1)

/-- Names ascend, each of them once. -/
def Sorted (fields : Fields α) : Prop := fields.Pairwise (fun a b => a.1 < b.1)

@[simp] theorem get?_insert_self (name : String) (value : α) (fields : Fields α) :
    get? (insert name value fields) name = some value := by
  induction fields with
  | nil => simp [insert, get?_cons]
  | cons field fields ih =>
    obtain ⟨key, old⟩ := field
    by_cases h : name = key
    · simp [insert, h, get?_cons]
    · by_cases hl : name < key
      · simp [insert, h, hl, get?_cons]
      · simp [insert, h, hl, get?_cons, Ne.symm h, ih]

theorem get?_insert_of_ne {name other : String} (h : other ≠ name) (value : α)
    (fields : Fields α) : get? (insert name value fields) other = get? fields other := by
  induction fields with
  | nil => simp [insert, get?_cons, Ne.symm h]
  | cons field fields ih =>
    obtain ⟨key, old⟩ := field
    by_cases hk : name = key
    · subst hk
      simp [insert, get?_cons, Ne.symm h]
    · by_cases hl : name < key
      · simp [insert, hk, hl, get?_cons, Ne.symm h]
      · simp [insert, hk, hl, get?_cons, ih]

@[simp] theorem get?_erase_self (name : String) (fields : Fields α) :
    get? (erase fields name) name = none := by
  induction fields with
  | nil => rfl
  | cons field fields ih =>
    obtain ⟨key, old⟩ := field
    by_cases h : key = name
    · simpa [erase, h] using ih
    · simpa [erase, h, get?_cons] using ih

theorem get?_erase_of_ne {name other : String} (h : other ≠ name) (fields : Fields α) :
    get? (erase fields name) other = get? fields other := by
  induction fields with
  | nil => rfl
  | cons field fields ih =>
    obtain ⟨key, old⟩ := field
    by_cases hk : key = name
    · subst hk
      simpa [erase, get?_cons, Ne.symm h] using ih
    · simp only [erase, List.filter_cons, bne_iff_ne, ne_eq, hk, not_false_eq_true, ↓reduceIte,
        get?_cons]
      split
      · rfl
      · exact ih

theorem mem_insert {entry : String × α} {name : String} {value : α} {fields : Fields α}
    (h : entry ∈ insert name value fields) : entry = (name, value) ∨ entry ∈ fields := by
  induction fields with
  | nil => simpa [insert] using h
  | cons field fields ih =>
    obtain ⟨key, old⟩ := field
    unfold insert at h
    split at h
    · rcases List.mem_cons.1 h with h | h
      · exact .inl h
      · exact .inr (List.mem_cons_of_mem _ h)
    · split at h
      · rcases List.mem_cons.1 h with h | h
        · exact .inl h
        · exact .inr h
      · rcases List.mem_cons.1 h with h | h
        · exact .inr (h ▸ List.mem_cons_self)
        · rcases ih h with h | h
          · exact .inl h
          · exact .inr (List.mem_cons_of_mem _ h)

/-- An insertion keeps the order. -/
theorem sorted_insert (name : String) (value : α) {fields : Fields α} (h : Sorted fields) :
    Sorted (insert name value fields) := by
  induction fields with
  | nil => simp [insert, Sorted]
  | cons field fields ih =>
    obtain ⟨key, old⟩ := field
    obtain ⟨hhead, htail⟩ := List.pairwise_cons.1 h
    unfold insert
    split
    · rename_i he
      subst he
      exact List.pairwise_cons.2 ⟨hhead, htail⟩
    · rename_i he
      split
      · rename_i hl
        refine List.pairwise_cons.2 ⟨fun entry hm => ?_, h⟩
        rcases List.mem_cons.1 hm with rfl | hm
        · exact hl
        · exact String.lt_trans hl (hhead entry hm)
      · rename_i hl
        refine List.pairwise_cons.2 ⟨fun entry hm => ?_, ih htail⟩
        rcases mem_insert hm with rfl | hm
        · exact Decidable.byContradiction fun hn =>
            he (String.le_antisymm (String.not_lt.1 hn) (String.not_lt.1 hl))
        · exact hhead entry hm

end Fields

end Dialogue
