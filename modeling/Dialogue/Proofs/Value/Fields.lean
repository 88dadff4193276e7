import Dialogue.Fields

/-!
# Fields of a list of pairs

Pairs are collected into fields in the order of their names. When the names are distinct nothing is
lost by that, and fields that are in order already stay as they are.

* `Fields.get?_merge`: among merged fields the added ones come first.
* `Fields.get?_ofList`: what is found among collected pairs is what stands there.
* `Fields.Sorted.ofList_eq`: fields in order are their own collection.
-/

namespace Dialogue.Fields

variable {α β : Type} {fields : Fields α} {name : String}

/-! ### Finding -/

theorem mem_of_get? {value : α} (h : get? fields name = some value) : (name, value) ∈ fields := by
  obtain ⟨⟨key, v⟩, hf, rfl⟩ := Option.map_eq_some_iff.1 h
  have hk : key = name := by simpa using List.find?_some hf
  rw [← hk]
  exact List.mem_of_find?_eq_some hf

theorem get?_eq_none (h : name ∉ fields.map (·.1)) : get? fields name = none := by
  cases hg : get? fields name with
  | none => rfl
  | some value => exact absurd (List.mem_map.2 ⟨_, mem_of_get? hg, rfl⟩) h

/-- There is nothing to remove under a name that is not there. -/
theorem erase_of_get?_none (h : get? fields name = none) : erase fields name = fields := by
  have hf := List.find?_eq_none.1 (Option.map_eq_none_iff.1 h)
  refine List.filter_eq_self.2 fun entry hm => ?_
  simpa using hf entry hm

/-- Of distinct names, each stands for the one value beside it. -/
theorem get?_of_mem {value : α} (hn : (fields.map (·.1)).Nodup) (h : (name, value) ∈ fields) :
    get? fields name = some value := by
  induction fields with
  | nil => cases h
  | cons p fields ih =>
    obtain ⟨key, old⟩ := p
    obtain ⟨hkey, hn⟩ := List.nodup_cons.1 hn
    rw [get?_cons]
    rcases List.mem_cons.1 h with he | hm
    · cases he
      exact if_pos rfl
    · have hne : key ≠ name := by
        rintro rfl
        exact hkey (List.mem_map.2 ⟨_, hm, rfl⟩)
      rw [if_neg hne, ih hn hm]

/-! ### Fields in order -/

theorem Sorted.filter (h : Sorted fields) (p : String × α → Bool) : Sorted (fields.filter p) :=
  List.Pairwise.filter p h

theorem Sorted.nodup_names (h : Sorted fields) : (fields.map (·.1)).Nodup := by
  refine List.pairwise_map.2 (h.imp fun {p q} hlt he => ?_)
  rw [he] at hlt
  exact String.lt_irrefl _ hlt

/-- In order, each field is the one that is found under its name. -/
theorem Sorted.get?_of_mem (h : Sorted fields) {value : α} (hm : (name, value) ∈ fields) :
    get? fields name = some value := Fields.get?_of_mem h.nodup_names hm

/-- In order, a field is found among some of the fields when it is found and is one of them. -/
theorem Sorted.get?_filter (h : Sorted fields) (p : String × α → Bool) (name : String) :
    get? (fields.filter p) name = (get? fields name).filter fun value => p (name, value) := by
  ext value
  rw [Option.filter_eq_some_iff]
  constructor
  · intro hv
    obtain ⟨hm, hp⟩ := List.mem_filter.1 (mem_of_get? hv)
    exact ⟨h.get?_of_mem hm, hp⟩
  · rintro ⟨hv, hp⟩
    exact (h.filter p).get?_of_mem (List.mem_filter.2 ⟨mem_of_get? hv, hp⟩)

/-! ### Merged fields -/

theorem sorted_merge (more : Fields α) (h : Sorted fields) : Sorted (merge fields more) := by
  induction more generalizing fields with
  | nil => exact h
  | cons p more ih => exact ih (sorted_insert p.1 p.2 h)

/-- Among merged fields the added ones come first. -/
theorem get?_merge {more : Fields α} (h : (more.map (·.1)).Nodup) (fields : Fields α)
    (name : String) : get? (merge fields more) name = (get? more name).or (get? fields name) := by
  induction more generalizing fields with
  | nil => rfl
  | cons p more ih =>
    obtain ⟨key, value⟩ := p
    obtain ⟨hkey, hn⟩ := List.nodup_cons.1 h
    have hstep : get? (merge fields ((key, value) :: more)) name =
        (get? more name).or (get? (insert key value fields) name) := ih hn _
    rw [hstep, get?_cons]
    by_cases hk : key = name
    · subst hk
      rw [get?_eq_none hkey, if_pos rfl, get?_insert_self]
      rfl
    · rw [if_neg hk, get?_insert_of_ne (Ne.symm hk)]

/-! ### Collected pairs -/

theorem sorted_ofList (pairs : List (String × α)) : Sorted (ofList pairs) :=
  sorted_merge pairs .nil

theorem mem_of_mem_ofList {entry : String × α} {pairs : List (String × α)}
    (h : entry ∈ ofList pairs) : entry ∈ pairs := by
  have hall : ∀ (pairs : List (String × α)) {acc : Fields α},
      entry ∈ pairs.foldl (fun fields pair => insert pair.1 pair.2 fields) acc →
        entry ∈ acc ∨ entry ∈ pairs := by
    intro pairs
    induction pairs with
    | nil => exact fun h => .inl h
    | cons pair pairs ih =>
      intro acc hm
      rcases ih hm with hm | hm
      · rcases mem_insert hm with rfl | hm
        · exact .inr List.mem_cons_self
        · exact .inl hm
      · exact .inr (List.mem_cons_of_mem _ hm)
  exact (hall pairs h).resolve_left List.not_mem_nil

theorem insert_of_lt (value : α) (h : ∀ p ∈ fields, p.1 < name) :
    insert name value fields = fields ++ [(name, value)] := by
  induction fields with
  | nil => rfl
  | cons p fields ih =>
    have hlt : p.1 < name := h p List.mem_cons_self
    have hne : name ≠ p.1 := fun he => String.lt_irrefl name (he ▸ hlt)
    have hnlt : ¬name < p.1 := fun hl => String.lt_irrefl name (String.lt_trans hl hlt)
    rw [insert, if_neg hne, if_neg hnlt, ih fun q hq => h q (List.mem_cons_of_mem p hq)]
    rfl

/-- Fields in order are their own collection. -/
theorem Sorted.ofList_eq (h : Sorted fields) : ofList fields = fields := by
  have hall : ∀ (more acc : Fields α), Sorted (acc ++ more) →
      more.foldl (fun fields pair => insert pair.1 pair.2 fields) acc = acc ++ more := by
    intro more
    induction more with
    | nil => exact fun acc _ => (List.append_nil acc).symm
    | cons p more ih =>
      intro acc hs
      have hlt : ∀ q ∈ acc, q.1 < p.1 := fun q hq =>
        (List.pairwise_append.1 hs).2.2 q hq p List.mem_cons_self
      rw [List.foldl_cons, insert_of_lt p.2 hlt, ih]
      · simp
      · simpa using hs
  exact hall fields [] h

/-- What is found among collected pairs is what stands there. -/
theorem get?_ofList {pairs : List (String × α)} (h : (pairs.map (·.1)).Nodup) (name : String) :
    get? (ofList pairs) name = get? pairs name := by
  rw [show ofList pairs = merge [] pairs from rfl, get?_merge h, get?_nil, Option.or_none]

end Dialogue.Fields
