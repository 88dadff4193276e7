import Dialogue.Flow.Written
import Dialogue.Proofs.Document.Numeral
import Dialogue.Proofs.Value.Fields

/-!
# Values and documents within bounds

What the reader of JSON takes in is bounded: lists and records nest only so deep, and a whole number
has 64 bits. A value that is read keeps these bounds, and its records are in order.

* `Value.Fits`, `Document.Fits`: the bounds of a value and of a document.
* `Document.Fits.of_toValue`: the value of a document within bounds is within them, and in order.
* `Document.toValue_ofValue`: a value in order is the value of its own document.
* `Value.Ordered.sorted_eq`: sorting changes nothing in a value in order.
-/

namespace Dialogue

namespace Value

/-- A value whose lists and records nest at most so deep, and whose whole numbers have 64 bits. -/
inductive Fits : Nat → Value → Prop
  | null (n : Nat) : Fits n null
  | bool (n : Nat) (b : Bool) : Fits n (bool b)
  | int (n : Nat) {i : Int} (hl : -(twoTo 63 : Int) ≤ i) (hg : i ≤ Json.greatestNatural) :
      Fits n (int i)
  | real (n : Nat) (x : Binary64) : Fits n (real x)
  | text (n : Nat) (s : String) : Fits n (text s)
  | list {n : Nat} {items : List Value} (h : ∀ v ∈ items, Fits n v) : Fits (n + 1) (list items)
  | record {n : Nat} {fields : List (String × Value)} (h : ∀ p ∈ fields, Fits n p.2) :
      Fits (n + 1) (record fields)

/-- A value whose records are all in order. -/
inductive Ordered : Value → Prop
  | null : Ordered null
  | bool (b : Bool) : Ordered (bool b)
  | int (i : Int) : Ordered (int i)
  | real (x : Binary64) : Ordered (real x)
  | text (s : String) : Ordered (text s)
  | list {items : List Value} (h : ∀ v ∈ items, Ordered v) : Ordered (list items)
  | record {fields : List (String × Value)} (hs : Fields.Sorted fields)
      (h : ∀ p ∈ fields, Ordered p.2) : Ordered (record fields)

variable {n : Nat} {v : Value}

theorem Fits.field {fields : List (String × Value)} (h : Fits (n + 1) (.record fields))
    {p : String × Value} (hp : p ∈ fields) : Fits n p.2 := by
  cases h with
  | record h => exact h p hp

end Value

/-! ### Sorting -/

theorem sortedItems_eq_map (items : List Value) : sortedItems items = items.map Value.sorted := by
  induction items with
  | nil => rfl
  | cons item more ih => rw [sortedItems, ih, List.map_cons]

theorem sortedFields_eq_map (fields : List (String × Value)) :
    sortedFields fields = fields.map fun p => (p.1, p.2.sorted) := by
  induction fields with
  | nil => rfl
  | cons p more ih => rw [sortedFields, ih, List.map_cons]

namespace Value

variable {n : Nat} {v : Value}

@[simp] theorem sorted_bool (b : Bool) : (bool b).sorted = bool b := rfl

@[simp] theorem sorted_int (i : Int) : (int i).sorted = int i := rfl

@[simp] theorem sorted_text (s : String) : (text s).sorted = text s := rfl

theorem sorted_list (items : List Value) : (list items).sorted = list (items.map sorted) := by
  rw [sorted, sortedItems_eq_map]

theorem sorted_record (fields : List (String × Value)) :
    (record fields).sorted = record (Fields.ofList (fields.map fun p => (p.1, p.2.sorted))) := by
  rw [sorted, sortedFields_eq_map]

/-- Sorting changes nothing in a value in order. -/
theorem Ordered.sorted_eq (h : Ordered v) : v.sorted = v := by
  induction h with
  | null | bool | int | real | text => rfl
  | list _ ih =>
    rw [sorted_list, List.map_congr_left ih, List.map_id']
  | record hs _ ih =>
    rw [sorted_record, List.map_congr_left fun p hp => by rw [ih p hp], List.map_id', hs.ofList_eq]

end Value

mutual

/-- A sorted value is in order. -/
theorem Value.ordered_sorted : (v : Value) → v.sorted.Ordered
  | .null => .null
  | .bool b => .bool b
  | .int i => .int i
  | .real x => .real x
  | .text s => .text s
  | .list items => .list (ordered_sortedItems items)
  | .record fields => .record (Fields.sorted_ofList _) fun p hp =>
      ordered_sortedFields fields p (Fields.mem_of_mem_ofList hp)

theorem ordered_sortedItems : (items : List Value) → ∀ v ∈ sortedItems items, v.Ordered
  | [] => fun _ h => absurd h List.not_mem_nil
  | item :: more => List.forall_mem_cons.2 ⟨item.ordered_sorted, ordered_sortedItems more⟩

theorem ordered_sortedFields : (fields : List (String × Value)) →
    ∀ p ∈ sortedFields fields, p.2.Ordered
  | [] => fun _ h => absurd h List.not_mem_nil
  | (_, value) :: more => List.forall_mem_cons.2 ⟨value.ordered_sorted, ordered_sortedFields more⟩

end

/-! ### Documents -/

namespace Document

variable {n : Nat} {d : Document} {v : Value}

/-- A document as it is read from JSON, with lists and records that nest at most so deep and whole
numbers of 64 bits. -/
inductive Fits : Nat → Document → Prop
  | null (n : Nat) : Fits n null
  | bool (n : Nat) (b : Bool) : Fits n (bool b)
  | int (n : Nat) {i : Int} (hl : -(twoTo 63 : Int) ≤ i) (hg : i ≤ Json.greatestNatural) :
      Fits n (int i)
  | real (n : Nat) (x : Binary64) : Fits n (real x)
  | text (n : Nat) (s : String) : Fits n (text s)
  | broken (n : Nat) (fault : TextFault) : Fits n (broken fault)
  | list {n : Nat} {items : List Document} {fault : Option TextFault} (h : ∀ d ∈ items, Fits n d) :
      Fits (n + 1) (list items fault)
  | record {n : Nat} {fields : List (String × Document)} {fault : Option TextFault}
      (h : ∀ p ∈ fields, Fits n p.2.reading) : Fits (n + 1) (record fields fault)

theorem Fits.of_list {items : List Document} {fault : Option TextFault}
    (h : Fits n (.list items fault)) : ∃ m, n = m + 1 ∧ ∀ d ∈ items, d.Fits m := by
  cases h with
  | list h => exact ⟨_, rfl, h⟩

theorem Fits.of_record {fields : List (String × Document)} {fault : Option TextFault}
    (h : Fits n (.record fields fault)) : ∃ m, n = m + 1 ∧ ∀ p ∈ fields, p.2.reading.Fits m := by
  cases h with
  | record h => exact ⟨_, rfl, h⟩

theorem ofItems_eq_map (items : List Value) : ofItems items = items.map ofValue := by
  induction items with
  | nil => rfl
  | cons item more ih => rw [ofItems, ih, List.map_cons]

theorem ofFields_eq_map (fields : List (String × Value)) :
    ofFields fields = fields.map fun p => (p.1, ofValue p.2) := by
  induction fields with
  | nil => rfl
  | cons p more ih => rw [ofFields, ih, List.map_cons]

theorem ofValue_list (items : List Value) : ofValue (.list items) = list (items.map ofValue) none := by
  rw [ofValue, ofItems_eq_map]

theorem ofValue_record (fields : List (String × Value)) :
    ofValue (.record fields) = record (fields.map fun p => (p.1, ofValue p.2)) none := by
  rw [ofValue, ofFields_eq_map]

theorem toValue_reading (d : Document) : d.reading.toValue = d.toValue := by
  cases d <;> rfl

theorem Fits.reading_eq (h : Fits n d) : d.reading = d := by
  cases h <;> rfl

/-- The document of a value keeps the bounds. -/
theorem fits_ofValue (h : v.Fits n) : (ofValue v).Fits n := by
  induction h with
  | null n => exact .null n
  | bool n b => exact .bool n b
  | int n hl hg => exact .int n hl hg
  | real n x => exact .real n x
  | text n s => exact .text n s
  | list _ ih =>
    rw [ofValue_list]
    refine .list fun d hd => ?_
    obtain ⟨v, hv, rfl⟩ := List.mem_map.1 hd
    exact ih v hv
  | record _ ih =>
    rw [ofValue_record]
    refine .record fun q hq => ?_
    obtain ⟨p, hp, rfl⟩ := List.mem_map.1 hq
    dsimp only
    rw [reading_ofValue]
    exact ih p hp

theorem exists_of_mem_itemValues {items : List Document} {values : List Value}
    (h : itemValues items = .ok values) {v : Value} (hv : v ∈ values) :
    ∃ d ∈ items, d.toValue = .ok v := by
  induction items generalizing values with
  | nil =>
    cases h
    cases hv
  | cons item more ih =>
    rw [itemValues] at h
    obtain ⟨w, hw, h⟩ := of_bind_ok h
    obtain ⟨ws, hws, h⟩ := of_bind_ok h
    cases h
    rcases List.mem_cons.1 hv with rfl | hv
    · exact ⟨item, List.mem_cons_self, hw⟩
    · obtain ⟨d, hd, hdv⟩ := ih hws hv
      exact ⟨d, List.mem_cons_of_mem item hd, hdv⟩

theorem exists_of_mem_fieldValues {fields : List (String × Document)} {pairs : List (String × Value)}
    (h : fieldValues fields = .ok pairs) {p : String × Value} (hp : p ∈ pairs) :
    ∃ q ∈ fields, q.2.toValue = .ok p.2 := by
  induction fields generalizing pairs with
  | nil =>
    cases h
    cases hp
  | cons field more ih =>
    obtain ⟨name, item⟩ := field
    rw [fieldValues] at h
    obtain ⟨w, hw, h⟩ := of_bind_ok h
    obtain ⟨ws, hws, h⟩ := of_bind_ok h
    cases h
    rcases List.mem_cons.1 hp with rfl | hp
    · exact ⟨_, List.mem_cons_self, hw⟩
    · obtain ⟨q, hq, hqv⟩ := ih hws hp
      exact ⟨q, List.mem_cons_of_mem _ hq, hqv⟩

/-- The value of a document within bounds is within them, and in order. -/
theorem Fits.of_toValue (h : d.Fits n) {v : Value} (hv : d.toValue = .ok v) :
    v.Fits n ∧ v.Ordered := by
  induction h generalizing v with
  | null n =>
    cases hv
    exact ⟨.null n, .null⟩
  | bool n b =>
    cases hv
    exact ⟨.bool n b, .bool b⟩
  | int n hl hg =>
    cases hv
    exact ⟨.int n hl hg, .int _⟩
  | real n x =>
    cases hv
    exact ⟨.real n x, .real x⟩
  | text n s =>
    cases hv
    exact ⟨.text n s, .text s⟩
  | broken n fault => cases hv
  | @list n items fault _ ih =>
    rw [toValue] at hv
    obtain ⟨values, hvs, hv⟩ := of_bind_ok hv
    cases fault with
    | some fault => cases hv
    | none =>
      cases hv
      have hall : ∀ v ∈ values, v.Fits n ∧ v.Ordered := by
        intro v hm
        obtain ⟨d, hd, hdv⟩ := exists_of_mem_itemValues hvs hm
        exact ih d hd hdv
      exact ⟨.list fun v hm => (hall v hm).1, .list fun v hm => (hall v hm).2⟩
  | @record n fields fault _ ih =>
    rw [toValue] at hv
    obtain ⟨pairs, hps, hv⟩ := of_bind_ok hv
    cases fault with
    | some fault => cases hv
    | none =>
      cases hv
      have hall : ∀ p ∈ Fields.ofList pairs, p.2.Fits n ∧ p.2.Ordered := by
        intro p hm
        obtain ⟨q, hq, hqv⟩ := exists_of_mem_fieldValues hps (Fields.mem_of_mem_ofList hm)
        exact ih q hq ((toValue_reading q.2).trans hqv)
      exact ⟨.record fun p hm => (hall p hm).1,
        .record (Fields.sorted_ofList pairs) fun p hm => (hall p hm).2⟩

/-- Only null is read as null. -/
theorem Fits.eq_null_of_toValue (h : d.Fits n) (hv : d.toValue = .ok .null) : d = .null := by
  cases h with
  | null => rfl
  | bool | int | real | text | broken => cases hv
  | @list n items fault _ =>
    rw [toValue] at hv
    obtain ⟨values, -, hv⟩ := of_bind_ok hv
    cases fault <;> cases hv
  | @record n fields fault _ =>
    rw [toValue] at hv
    obtain ⟨pairs, -, hv⟩ := of_bind_ok hv
    cases fault <;> cases hv

theorem itemValues_map {items : List Value} (h : ∀ v ∈ items, (ofValue v).toValue = .ok v) :
    itemValues (items.map ofValue) = .ok items := by
  induction items with
  | nil => rfl
  | cons item more ih =>
    rw [List.map_cons, itemValues, h item List.mem_cons_self,
      ih fun v hv => h v (List.mem_cons_of_mem item hv)]
    rfl

theorem fieldValues_map {fields : List (String × Value)}
    (h : ∀ p ∈ fields, (ofValue p.2).toValue = .ok p.2) :
    fieldValues (fields.map fun p => (p.1, ofValue p.2)) = .ok fields := by
  induction fields with
  | nil => rfl
  | cons field more ih =>
    rw [List.map_cons, fieldValues, h field List.mem_cons_self,
      ih fun p hp => h p (List.mem_cons_of_mem field hp)]
    rfl

/-- A value in order is the value of its own document. -/
theorem toValue_ofValue {v : Value} (h : v.Ordered) : (ofValue v).toValue = .ok v := by
  induction h with
  | null | bool | int | real | text => rfl
  | list _ ih =>
    rw [ofValue_list, toValue, itemValues_map ih]
    rfl
  | record hs _ ih =>
    rw [ofValue_record, toValue, fieldValues_map ih]
    show Except.ok (Value.record (Fields.ofList _)) = _
    rw [hs.ofList_eq]

end Document

/-! ### What the reader takes in -/

namespace Json

open Document (Fits)

variable {positive : Bool} {n : Nat} {cs rest : List Char} {d : Document}

theorem fits_real {e : Except TextFault (Binary64 × List Char)}
    (h : e.map (fun (x, rest) => (Document.real x, rest)) = .ok (d, rest)) (depth : Nat) :
    d.Fits depth := by
  obtain ⟨⟨x, more⟩, -, heq⟩ := of_map_ok h
  cases heq
  exact .real depth x

theorem fits_readRest (hn : n ≤ greatestNatural) (h : readRest positive n cs = .ok (d, rest))
    (depth : Nat) : d.Fits depth := by
  unfold readRest at h
  split at h
  · exact fits_real h depth
  · exact fits_real h depth
  · exact fits_real h depth
  · split at h
    · cases h
      exact .int depth (by omega) (by omega)
    · split at h
      · rename_i hb
        have hbound : twoTo 63 ≤ greatestNatural := by decide
        cases h
        exact .int depth (by omega) (by omega)
      · cases h
        exact .real depth _

theorem takeDigits_le (hn : n ≤ greatestNatural) (count : Nat) (cs : List Char) :
    (takeDigits n count cs).1 ≤ greatestNatural := by
  induction cs generalizing n count with
  | nil => exact hn
  | cons c cs ih =>
    rw [takeDigits]
    dsimp only
    split
    · split
      · exact hn
      · rename_i hnext
        exact ih (Nat.not_lt.1 hnext) _
    · exact hn

theorem fits_readOn {fault : Option TextFault} (hn : n ≤ greatestNatural)
    (h : readOn positive n fault cs = .ok (d, rest)) (depth : Nat) : d.Fits depth := by
  unfold readOn at h
  split at h
  · cases fault with
    | some fault => cases h
    | none =>
      dsimp only at h
      unfold readLong at h
      split at h <;> exact fits_real h depth
  · exact fits_readRest hn h depth

theorem fits_readNumber (h : readNumber positive cs = .ok (d, rest)) (depth : Nat) :
    d.Fits depth := by
  rcases readNumber_cases h with ⟨_, -, hon⟩ | ⟨_, _, -, -, -, hon⟩
  · exact fits_readOn (Nat.zero_le _) hon depth
  · exact fits_readOn (takeDigits_le (Nat.zero_le _) 0 _) hon depth

theorem fits_ofStep {step : Except TextFault (Document × List Char)} {depth : Nat}
    (h : ∀ d rest, step = .ok (d, rest) → d.Fits depth) : (ofStep step).1.Fits depth := by
  cases step with
  | error fault => exact .broken depth fault
  | ok found => exact h found.1 found.2 rfl

theorem fits_readKeyword {depth : Nat} (h : d.Fits depth) (word cs : List Char) :
    (readKeyword word d cs).1.Fits depth := by
  unfold readKeyword
  cases readWord word cs with
  | error fault => exact .broken depth fault
  | ok rest => exact h

/-- An item and the items after it. -/
def readItem (fuel depth : Nat) (cs : List Char) :
    List Document × Option TextFault × Option (List Char) :=
  let (item, next) := readValue fuel depth cs
  match next with
  | none => ([item], none, none)
  | some rest =>
    let (items, fault, rest) := readItems fuel depth false rest
    (item :: items, fault, rest)

theorem readItems_succ (fuel depth : Nat) (first : Bool) (cs : List Char) :
    readItems (fuel + 1) depth first cs =
      match skipSpace cs with
      | [] => ([], some .endInList, none)
      | ']' :: rest => ([], none, some rest)
      | c :: rest =>
        if first then readItem fuel depth (c :: rest)
        else if c = ',' then
          match skipSpace rest with
          | ']' :: _ => ([], some .commaAtEnd, none)
          | [] => ([], some .endInValue, none)
          | rest => readItem fuel depth rest
        else ([], some .commaOrBracketExpected, none) := by
  rw [readItems]
  unfold readItem
  rfl

/-- The content of a field and the fields after it. -/
def readContent (fuel depth : Nat) (name : String) (cs : List Char) :
    List (String × Document) × Option TextFault × Option (List Char) :=
  let (value, next) := readValue fuel depth cs
  match next with
  | none =>
    match passValue cs with
    | .error fault => ([(name, .stopped value (some fault))], none, none)
    | .ok rest =>
      let (fields, fault, rest) := readFields fuel depth false rest
      ((name, .stopped value none) :: fields, fault, rest)
  | some rest =>
    let (fields, fault, rest) := readFields fuel depth false rest
    ((name, value) :: fields, fault, rest)

theorem readField_succ (fuel depth : Nat) (cs : List Char) :
    readField (fuel + 1) depth cs =
      match readText cs with
      | .error fault => ([], some fault, none)
      | .ok (name, rest) =>
        match skipSpace rest with
        | [] => ([(name, .broken .endInRecord)], none, none)
        | ':' :: rest => readContent fuel depth name rest
        | _ => ([(name, .broken .colonExpected)], none, none) := by
  rw [readField]
  unfold readContent
  rfl

/-- With so much fuel, what is read within a number of levels fits one level less: the last one is
refused. -/
structure FitsAt (fuel : Nat) : Prop where
  value : ∀ n cs, (readValue fuel (n + 1) cs).1.Fits n
  items : ∀ n first cs, ∀ d ∈ (readItems fuel (n + 1) first cs).1, d.Fits n
  fields : ∀ n first cs, ∀ p ∈ (readFields fuel (n + 1) first cs).1, p.2.reading.Fits n
  field : ∀ n cs, ∀ p ∈ (readField fuel (n + 1) cs).1, p.2.reading.Fits n

namespace FitsAt

variable {fuel : Nat} {first : Bool} {p : String × Document}

theorem zero : FitsAt 0 where
  value := fun n _ => by rw [readValue]; exact .broken n _
  items := fun _ _ _ _ h => by rw [readItems] at h; cases h
  fields := fun _ _ _ _ h => by rw [readFields] at h; cases h
  field := fun _ _ _ h => by rw [readField] at h; cases h

/-- An item and the items after it. -/
theorem item (hf : FitsAt fuel) (h : d ∈ (readItem fuel (n + 1) cs).1) : d.Fits n := by
  have hv := hf.value n cs
  unfold readItem at h
  generalize readValue fuel (n + 1) cs = found at hv h
  obtain ⟨item, next⟩ := found
  cases next with
  | none =>
    rw [List.mem_singleton.1 h]
    exact hv
  | some rest =>
    rcases List.mem_cons.1 h with rfl | h
    · exact hv
    · exact hf.items n false rest d h

/-- The content of a field and the fields after it. -/
theorem content (hf : FitsAt fuel) {name : String}
    (h : p ∈ (readContent fuel (n + 1) name cs).1) : p.2.reading.Fits n := by
  have hv := hf.value n cs
  unfold readContent at h
  generalize readValue fuel (n + 1) cs = found at hv h
  obtain ⟨value, next⟩ := found
  cases next with
  | none =>
    dsimp only at h
    split at h
    · rw [List.mem_singleton.1 h]
      exact hv
    · rcases List.mem_cons.1 h with rfl | h
      · exact hv
      · exact hf.fields n false _ p h
  | some rest =>
    rcases List.mem_cons.1 h with rfl | h
    · rw [hv.reading_eq]
      exact hv
    · exact hf.fields n false rest p h

/-- A value, by its first character. -/
theorem value_succ (hf : FitsAt fuel) (n : Nat) (cs : List Char) :
    (readValue (fuel + 1) (n + 1) cs).1.Fits n := by
  rw [readValue]
  split
  · exact .broken n _
  · exact fits_readKeyword (.null n) _ _
  · exact fits_readKeyword (.bool n true) _ _
  · exact fits_readKeyword (.bool n false) _ _
  · exact fits_ofStep fun d rest h => fits_readNumber h n
  · refine fits_ofStep fun d rest h => ?_
    obtain ⟨⟨s, more⟩, -, heq⟩ := of_map_ok h
    cases heq
    exact .text n s
  · -- a list, whose items have one level less
    cases n with
    | zero => exact .broken 0 _
    | succ n => exact .list (hf.items n true _)
  · -- a record, likewise
    cases n with
    | zero => exact .broken 0 _
    | succ n => exact .record (hf.fields n true _)
  · split
    · exact fits_ofStep fun d rest h => fits_readNumber h n
    · exact .broken n _

theorem items_succ (hf : FitsAt fuel) (h : d ∈ (readItems (fuel + 1) (n + 1) first cs).1) :
    d.Fits n := by
  rw [readItems_succ] at h
  split at h
  · cases h
  · cases h
  split at h
  · exact hf.item h
  split at h
  · split at h
    · cases h
    · cases h
    · exact hf.item h
  · cases h

theorem fields_succ (hf : FitsAt fuel) (h : p ∈ (readFields (fuel + 1) (n + 1) first cs).1) :
    p.2.reading.Fits n := by
  rw [readFields] at h
  split at h
  · cases h
  · cases h
  split at h
  · split at h
    · exact hf.field n _ p h
    · cases h
  split at h
  · split at h
    · exact hf.field n _ p h
    · cases h
    · cases h
    · cases h
  · cases h

theorem field_succ (hf : FitsAt fuel) (h : p ∈ (readField (fuel + 1) (n + 1) cs).1) :
    p.2.reading.Fits n := by
  rw [readField_succ] at h
  split at h
  · cases h
  split at h
  · rw [List.mem_singleton.1 h]
    exact .broken n _
  · exact hf.content h
  · rw [List.mem_singleton.1 h]
    exact .broken n _

end FitsAt

theorem fitsAt (fuel : Nat) : FitsAt fuel := by
  induction fuel with
  | zero => exact .zero
  | succ fuel ih =>
    exact ⟨ih.value_succ, fun _ _ _ _ => ih.items_succ, fun _ _ _ _ => ih.fields_succ,
      fun _ _ _ => ih.field_succ⟩

/-- The document of a text nests at most 127 levels deep. -/
theorem fits_read (text : String) : (read text).1.Fits 127 := by
  have h := (fitsAt (2 * text.toList.length + 2)).value 127 text.toList
  unfold read readPart depthLimit
  dsimp only
  split <;> exact h

end Json

end Dialogue
