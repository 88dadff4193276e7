import Mathlib.Data.List.Forall2
import Mathlib.Data.List.Nodup
import Dialogue.Document.Tagged
import Dialogue.Proofs.Value.Fits

/-!
# Data that is written and read again

A decoder restores what it reads when the value written for it is read as the same again, whatever the
origin of the document. The parts of a record are restored one by one, in the order of their
description; the fields may be written in any order, and those left out are filled in again.

* `Decoder.Restores`: what a decoder reads is written within bounds and read again.
* `RecordDecoder.Keeps`: the same of a description, for the entries written for its fields.
* `RecordDecoder.restores_decode`: a record is restored when its description keeps its fields.
* `Decoder.restores_tagged`: data with a tag is restored when each of its forms is.
-/

namespace Dialogue

open Document (ofValue)

namespace Decoder

variable {α β : Type} {n : Nat}

/-- A value within bounds that is read as something. -/
def ReadAs (n : Nat) (f : Decoder α) (v : Value) (a : α) : Prop :=
  v.Fits n ∧ ∀ origin, f origin (Document.ofValue v) = .ok a

/-- What is read from a document within bounds is written within them and read again, as what it is
after that. -/
def Restores (n : Nat) (f : Decoder α) (write : α → Value) (after : α → α) : Prop :=
  ∀ origin d a, d.Fits n → f origin d = .ok a → ReadAs n f (write a) (after a)

/-! ### Scalars -/

theorem expected_ne_ok {what : String} {d : Document} {a : α} : expected what d ≠ .ok a := by
  cases d <;> exact fun h => by cases h

theorem restores_text (n : Nat) : Restores n text .text id :=
  fun _ _ s _ _ => ⟨.text n s, fun _ => rfl⟩

theorem restores_bool (n : Nat) : Restores n bool .bool id :=
  fun _ _ b _ _ => ⟨.bool n b, fun _ => rfl⟩

theorem integer_eq_ok {least most : Int} {name : String} {origin : Origin} {d : Document} {i : Int}
    (h : integer least most name origin d = .ok i) : least ≤ i ∧ i ≤ most := by
  unfold integer at h
  split at h
  · split at h
    · rename_i hi
      cases h
      exact hi
    · cases h
  · exact absurd h expected_ne_ok

theorem integer_ofValue {least most i : Int} (hl : least ≤ i) (hm : i ≤ most) (name : String)
    (origin : Origin) : integer least most name origin (.int i) = .ok i :=
  if_pos ⟨hl, hm⟩

theorem restores_integer (n : Nat) {least most : Int} (hl : -(twoTo 63 : Int) ≤ least)
    (hm : most ≤ Json.greatestNatural) (name : String) :
    Restores n (integer least most name) .int id := by
  intro origin d i _ h
  obtain ⟨hleast, hmost⟩ := integer_eq_ok h
  exact ⟨.int n (by omega) (by omega), integer_ofValue hleast hmost name⟩

theorem restores_natural (n : Nat) {bits : Nat} (hb : bits ≤ 64) (name : String) :
    Restores n (natural bits name) (fun k => .int k) id := by
  intro origin d k _ h
  obtain ⟨i, hi, rfl⟩ := of_map_ok h
  obtain ⟨hleast, hmost⟩ := integer_eq_ok hi
  have hk : (i.toNat : Int) = i := Int.toNat_of_nonneg hleast
  have hbound := twoTo_mono hb
  have hgreatest : (Json.greatestNatural : Int) = twoTo 64 - 1 := by decide
  dsimp only
  rw [hk]
  refine ⟨.int n (by omega) (by omega), fun origin => ?_⟩
  rw [natural, Document.ofValue, integer_ofValue hleast hmost]
  rfl

/-- One of several names is restored when its own name stands for it. -/
theorem restores_oneOf (n : Nat) {names : List (String × α)} {name : α → String}
    (h : ∀ a, named names (name a) = .ok a) :
    Restores n (oneOf names) (fun a => .text (name a)) id :=
  fun _ _ a _ _ => ⟨.text n _, fun _ => h a⟩

/-! ### Any value -/

theorem any_eq_ok_iff {origin : Origin} {d : Document} {v : Value} :
    any origin d = .ok v ↔ d.toValue = .ok v := by
  unfold any
  cases d.toValue <;> simp

theorem any_eq_ok {origin : Origin} {d : Document} {v : Value} (hd : d.Fits n)
    (h : any origin d = .ok v) : v.Fits n ∧ v.Ordered :=
  hd.of_toValue (any_eq_ok_iff.1 h)

theorem any_ofValue {v : Value} (hv : v.Ordered) (origin : Origin) :
    any origin (Document.ofValue v) = .ok v :=
  any_eq_ok_iff.2 (Document.toValue_ofValue hv)

theorem restores_any (n : Nat) : Restores n any id id := by
  intro origin d v hd h
  obtain ⟨hfits, hordered⟩ := any_eq_ok hd h
  exact ⟨hfits, any_ofValue hordered⟩

theorem restores_any_sorted (n : Nat) : Restores n any Value.sorted id := by
  intro origin d v hd h
  obtain ⟨hfits, hordered⟩ := any_eq_ok hd h
  rw [hordered.sorted_eq]
  exact ⟨hfits, any_ofValue hordered⟩

/-! ### Lists -/

variable {f : Decoder α} {write : α → Value} {after : α → α}

theorem restores_items (hf : Restores n f write after) {origin : Origin} {ds : List Document}
    (hd : ∀ d ∈ ds, d.Fits n) {as : List α} (h : items f origin ds = .ok as) :
    (∀ v ∈ as.map write, v.Fits n) ∧
      ∀ origin, items f origin ((as.map write).map Document.ofValue) = .ok (as.map after) := by
  induction ds generalizing as with
  | nil =>
    cases h
    exact ⟨fun v hv => absurd hv List.not_mem_nil, fun _ => rfl⟩
  | cons d ds ih =>
    rw [items] at h
    split at h
    · cases h
    · rename_i a ha
      split at h
      · cases h
      · rename_i as' has
        cases h
        obtain ⟨hfits, hread⟩ := hf origin d a (hd d List.mem_cons_self) ha
        obtain ⟨hmore, hrest⟩ := ih (fun d hm => hd d (List.mem_cons_of_mem _ hm)) has
        refine ⟨List.forall_mem_cons.2 ⟨hfits, hmore⟩, fun origin => ?_⟩
        rw [List.map_cons, List.map_cons, items, hread, hrest]
        rfl

theorem list_eq_ok {origin : Origin} {d : Document} {as : List α} (h : list f origin d = .ok as) :
    ∃ ds, d = .list ds none ∧ items f origin ds = .ok as := by
  unfold list at h
  split at h
  · rename_i ds fault
    cases hi : items f origin ds with
    | error misfit =>
      rw [hi] at h
      cases h
    | ok bs =>
      rw [hi] at h
      cases fault with
      | some fault => cases h
      | none =>
        cases h
        exact ⟨ds, rfl, hi⟩
  · exact absurd h expected_ne_ok

theorem restores_list (hf : ∀ m, n = m + 1 → Restores m f write after) :
    Restores n (list f) (fun as => .list (as.map write)) (List.map after) := by
  intro origin d as hd h
  obtain ⟨ds, rfl, hi⟩ := list_eq_ok h
  obtain ⟨m, rfl, hds⟩ := hd.of_list
  obtain ⟨hfits, hread⟩ := restores_items (hf m rfl) hds hi
  refine ⟨.list hfits, fun origin => ?_⟩
  rw [Document.ofValue_list]
  unfold list
  dsimp only
  rw [hread]

/-! ### Collections of named values -/

theorem restores_pairs (hf : Restores n f write after) {origin : Origin}
    {ds : List (String × Document)} (hd : ∀ p ∈ ds, p.2.reading.Fits n) {as : List (String × α)}
    (h : pairs f origin ds = .ok as) : ∀ p ∈ as, ReadAs n f (write p.2) (after p.2) := by
  induction ds generalizing as with
  | nil =>
    cases h
    exact fun p hp => absurd hp List.not_mem_nil
  | cons d ds ih =>
    obtain ⟨name, d⟩ := d
    rw [pairs] at h
    split at h
    · cases h
    · rename_i a ha
      split at h
      · cases h
      · rename_i as' has
        cases h
        exact List.forall_mem_cons.2 ⟨hf origin _ a (hd _ List.mem_cons_self) ha,
          ih (fun p hp => hd p (List.mem_cons_of_mem _ hp)) has⟩

theorem pairs_map (origin : Origin) {as : List (String × α)}
    (h : ∀ p ∈ as, ReadAs n f (write p.2) (after p.2)) :
    pairs f origin ((as.map fun p => (p.1, write p.2)).map fun p => (p.1, Document.ofValue p.2)) =
      .ok (as.map fun p => (p.1, after p.2)) := by
  induction as with
  | nil => rfl
  | cons a as ih =>
    obtain ⟨name, a⟩ := a
    rw [List.map_cons, List.map_cons, pairs, Document.reading_ofValue,
      (h _ List.mem_cons_self).2, ih fun p hp => h p (List.mem_cons_of_mem _ hp)]
    rfl

theorem sorted_map (g : α → β) {as : Fields α} (h : Fields.Sorted as) :
    Fields.Sorted (as.map fun p => (p.1, g p.2)) :=
  List.pairwise_map.2 h

theorem fields_eq_ok {origin : Origin} {d : Document} {as : Fields α}
    (h : fields f origin d = .ok as) :
    ∃ ds bs, d = .record ds none ∧ pairs f origin ds = .ok bs ∧ as = Fields.ofList bs := by
  unfold fields at h
  split at h
  · rename_i ds fault
    cases hp : pairs f origin ds with
    | error misfit =>
      rw [hp] at h
      cases h
    | ok bs =>
      rw [hp] at h
      cases fault with
      | some fault => cases h
      | none =>
        cases h
        exact ⟨ds, bs, rfl, hp, rfl⟩
  · exact absurd h expected_ne_ok

theorem restores_fields (hf : ∀ m, n = m + 1 → Restores m f write after) :
    Restores n (fields f) (fun as => .record (as.map fun p => (p.1, write p.2)))
      (List.map fun p => (p.1, after p.2)) := by
  intro origin d as hd h
  obtain ⟨ds, bs, rfl, hp, rfl⟩ := fields_eq_ok h
  obtain ⟨m, rfl, hds⟩ := hd.of_record
  have hall : ∀ p ∈ Fields.ofList bs, ReadAs m f (write p.2) (after p.2) := fun p hp' =>
    restores_pairs (hf m rfl) hds hp p (Fields.mem_of_mem_ofList hp')
  refine ⟨.record ?_, fun origin => ?_⟩
  · intro q hq
    obtain ⟨p, hp', rfl⟩ := List.mem_map.1 hq
    exact (hall p hp').1
  · rw [Document.ofValue_record]
    unfold fields
    dsimp only
    rw [pairs_map origin hall]
    dsimp only
    rw [(sorted_map after (Fields.sorted_ofList bs)).ofList_eq]

end Decoder

/-! ### Records -/

namespace RecordDecoder

open Decoder (ReadAs Restores)

variable {α β : Type} {n : Nat}

/-- What is written for a field: its name, and its value unless it is left out. -/
abbrev Entry := String × Option Value

/-- The fields that are written. -/
def laid (entries : List Entry) : List (String × Value) :=
  entries.filterMap fun p => p.2.map fun v => (p.1, v)

/-- A value passes the check of a rule, whatever its origin. -/
def Passes (rule : FieldRule) (v : Value) : Prop :=
  ∀ origin, rule.check origin (ofValue v) = .ok ()

/-- Entries, one for each field of a description, from which it makes something. -/
structure Recovers (n : Nat) (r : RecordDecoder α) (entries : List Entry) (a : α) : Prop where
  fits : ∀ p ∈ entries, ∀ v ∈ p.2, v.Fits n
  checks : List.Forall₂ (fun rule p => rule.name = p.1 ∧ ∀ v ∈ p.2, Passes rule v) r.rules entries
  make : ∀ origin find, (∀ p ∈ entries, find p.1 = p.2.map ofValue) → r.make origin find = .ok a

/-- What a description makes of documents within bounds is written as entries from which it makes the
same again; `Q` tells what was made, the entries, and what is made of them. -/
def Keeps (n : Nat) (r : RecordDecoder α) (Q : α → List Entry → α → Prop) : Prop :=
  ∀ origin find a, (∀ name, ∀ d ∈ find name, d.Fits n) → r.make origin find = .ok a →
    ∃ entries a', Recovers n r entries a' ∧ Q a entries a'

theorem recovers_pure (a : α) : Recovers n (pure a) [] a where
  fits := fun _ hp => absurd hp List.not_mem_nil
  checks := .nil
  make := fun _ _ _ => rfl

/-- Two descriptions make something one after the other. -/
theorem make_ap (f : RecordDecoder (α → β)) (x : RecordDecoder α) (origin : Origin)
    (find : String → Option Document) :
    (f <*> x).make origin find = (f.make origin find).bind fun g => (x.make origin find).map g := by
  show (ap f x).make origin find = _
  unfold ap
  dsimp only
  cases f.make origin find with
  | error misfit => rfl
  | ok g => cases x.make origin find <;> rfl

theorem Recovers.ap {f : RecordDecoder (α → β)} {x : RecordDecoder α} {es es' : List Entry}
    {g : α → β} {a : α} (hf : Recovers n f es g) (hx : Recovers n x es' a) :
    Recovers n (f <*> x) (es ++ es') (g a) where
  fits := List.forall_mem_append.2 ⟨hf.fits, hx.fits⟩
  checks := List.rel_append hf.checks hx.checks
  make := by
    intro origin find h
    obtain ⟨hes, hes'⟩ := List.forall_mem_append.1 h
    rw [make_ap, hf.make origin find hes, hx.make origin find hes']
    rfl

theorem Keeps.ap {f : RecordDecoder (α → β)} {x : RecordDecoder α} {Q : β → List Entry → β → Prop}
    (h : Keeps n f fun g es g' => Keeps n x fun a es' a' => Q (g a) (es ++ es') (g' a')) :
    Keeps n (f <*> x) Q := by
  intro origin find b hfind hb
  rw [make_ap] at hb
  obtain ⟨g, hg, hb⟩ := of_bind_ok hb
  obtain ⟨a, ha, rfl⟩ := of_map_ok hb
  obtain ⟨es, g', hes, hx⟩ := h origin find g hfind hg
  obtain ⟨es', a', hes', hQ⟩ := hx origin find a hfind ha
  exact ⟨es ++ es', g' a', hes.ap hes', hQ⟩

theorem Keeps.map {g : α → β} {x : RecordDecoder α} {Q : β → List Entry → β → Prop}
    (h : Keeps n x fun a es a' => Q (g a) es (g a')) : Keeps n (g <$> x) Q := by
  refine Keeps.ap ?_
  intro origin find g' _ hg
  cases hg
  exact ⟨[], g, recovers_pure g, h⟩

/-! ### Fields -/

variable {f : Decoder α} {write : α → Value} {after : α → α} {name : String}
  {Q : α → List Entry → α → Prop} {default : α}

/-- What a field is read as from an entry. -/
def Entered (n : Nat) (f : Decoder α) (default? : Option α) (entry : Option Value) (a : α) : Prop :=
  match entry with
  | some v => ReadAs n f v a
  | none => default? = some a

section Making

variable {origin : Origin} {find : String → Option Document} {d : Document}

theorem make_field_some (h : find name = some d) : (field name f).make origin find = f origin d := by
  unfold field
  dsimp only
  rw [h]

theorem make_field_none (h : find name = none) :
    (field name f).make origin find = .error (.missing name) := by
  unfold field
  dsimp only
  rw [h]

theorem make_fieldOr_some (h : find name = some d) :
    (fieldOr name f default).make origin find = f origin d := by
  unfold fieldOr
  dsimp only
  rw [h]

theorem make_fieldOr_none (h : find name = none) :
    (fieldOr name f default).make origin find = .ok default := by
  unfold fieldOr
  dsimp only
  rw [h]

end Making

/-- The entry of one field. -/
theorem recovers_single {r : RecordDecoder α} {mayMiss : Bool} {entry : Option Value} {a : α}
    (hr : r.rules = [⟨name, mayMiss, fun origin d => (f origin d).map fun _ => ()⟩])
    (hv : ∀ v ∈ entry, ReadAs n f v a)
    (hmake : ∀ origin find, find name = entry.map ofValue → r.make origin find = .ok a) :
    Recovers n r [(name, entry)] a where
  fits := by
    intro p hp v hm
    rw [List.mem_singleton.1 hp] at hm
    exact (hv v hm).1
  checks := by
    rw [hr]
    refine .cons ⟨rfl, fun v hm origin => ?_⟩ .nil
    dsimp only
    rw [(hv v hm).2]
    rfl
  make := fun origin find hfind => hmake origin find (hfind _ List.mem_cons_self)

theorem recovers_field {v : Value} {a : α} (h : ReadAs n f v a) :
    Recovers n (field name f) [(name, some v)] a := by
  refine recovers_single rfl (fun u hu => ?_) fun origin find hfind => ?_
  · cases hu
    exact h
  · rw [make_field_some hfind, h.2]

theorem recovers_fieldOr {entry : Option Value} {a : α} (h : Entered n f (some default) entry a) :
    Recovers n (fieldOr name f default) [(name, entry)] a := by
  refine recovers_single rfl (fun v hv => ?_) fun origin find hfind => ?_
  · cases hv
    exact h
  · cases entry with
    | none =>
      rw [make_fieldOr_none hfind]
      exact congrArg Except.ok (Option.some.inj h)
    | some v => rw [make_fieldOr_some hfind, h.2]

/-- A field that has to be there. -/
theorem Keeps.field (hf : Restores n f write after)
    (hQ : ∀ a, Q a [(name, some (write a))] (after a)) : Keeps n (field name f) Q := by
  intro origin find a hfind ha
  cases hname : find name with
  | none =>
    rw [make_field_none hname] at ha
    cases ha
  | some d =>
    rw [make_field_some hname] at ha
    exact ⟨_, _, recovers_field (hf origin d a (hfind name d hname) ha), hQ a⟩

/-- A field that may be missing, whose entry depends on what was read. -/
theorem Keeps.fieldOr_entry (entry : α → Option Value) (after : α → α)
    (hd : Entered n f (some default) (entry default) (after default))
    (hf : ∀ origin d a, d.Fits n → f origin d = .ok a →
      Entered n f (some default) (entry a) (after a))
    (hQ : ∀ a, Q a [(name, entry a)] (after a)) : Keeps n (fieldOr name f default) Q := by
  intro origin find a hfind ha
  cases hname : find name with
  | none =>
    rw [make_fieldOr_none hname] at ha
    cases ha
    exact ⟨_, _, recovers_fieldOr hd, hQ default⟩
  | some d =>
    rw [make_fieldOr_some hname] at ha
    exact ⟨_, _, recovers_fieldOr (hf origin d a (hfind name d hname) ha), hQ a⟩

/-- A field that may be missing and is always written. -/
theorem Keeps.fieldOr (hd : ReadAs n f (write default) (after default))
    (hf : Restores n f write after) (hQ : ∀ a, Q a [(name, some (write a))] (after a)) :
    Keeps n (fieldOr name f default) Q :=
  .fieldOr_entry (fun a => some (write a)) after hd hf hQ

/-- A field that may be missing and is left out when it is empty. -/
theorem Keeps.unlessEmpty {f : Decoder (List β)} {write : List β → Value} {after : List β → List β}
    {Q : List β → List Entry → List β → Prop} (hnil : after [] = []) (hf : Restores n f write after)
    (hQ : ∀ as, Q as [(name, if as.isEmpty then none else some (write as))] (after as)) :
    Keeps n (RecordDecoder.fieldOr name f []) Q := by
  refine .fieldOr_entry (fun as => if as.isEmpty then none else some (write as)) after ?_ ?_ hQ
  · exact congrArg some hnil.symm
  · intro origin d as hd has
    cases as with
    | nil => exact congrArg some hnil.symm
    | cons a as => exact hf origin d _ hd has

theorem optional_ofValue {v : Value} {a : α} (hv : v ≠ .null) (h : ReadAs n f v a) :
    ReadAs n (Decoder.optional f) v (some a) := by
  refine ⟨h.1, fun origin => ?_⟩
  have hsome : Decoder.optional f origin (ofValue v) = (f origin (ofValue v)).map some := by
    cases v with
    | null => exact absurd rfl hv
    | _ => rfl
  rw [hsome, h.2]
  rfl

theorem optional_eq_ok {origin : Origin} {d : Document} {a : α}
    (h : Decoder.optional f origin d = .ok (some a)) : d ≠ .null ∧ f origin d = .ok a := by
  unfold Decoder.optional at h
  split at h
  · cases h
  · cases h
  · rename_i hnull _
    obtain ⟨y, hy, heq⟩ := of_map_ok h
    cases heq
    exact ⟨hnull, hy⟩

/-- A field that may be missing or null and is left out when it is unset. -/
theorem Keeps.option {Q : Option α → List Entry → Option α → Prop}
    (hw : ∀ origin d a, d.Fits n → d ≠ .null → f origin d = .ok a → write a ≠ .null)
    (hf : Restores n f write after) (hQ : ∀ a, Q a [(name, a.map write)] (a.map after)) :
    Keeps n (option name f) Q := by
  refine .fieldOr_entry (fun a => a.map write) (fun a => a.map after) rfl ?_ hQ
  intro origin d a hd ha
  cases a with
  | none => rfl
  | some x =>
    obtain ⟨hnull, hx⟩ := optional_eq_ok ha
    exact optional_ofValue (hw origin d x hd hnull hx) (hf origin d x hd hx)

/-! ### Written records -/

theorem mem_laid {entries : List Entry} {p : String × Value} :
    p ∈ laid entries ↔ (p.1, some p.2) ∈ entries := by
  unfold laid
  rw [List.mem_filterMap]
  constructor
  · rintro ⟨⟨name, entry⟩, hm, he⟩
    obtain ⟨v, hv, rfl⟩ := Option.map_eq_some_iff.1 he
    cases hv
    exact hm
  · exact fun hm => ⟨_, hm, rfl⟩

theorem laid_sublist (entries : List Entry) :
    ((laid entries).map (·.1)).Sublist (entries.map (·.1)) := by
  induction entries with
  | nil => exact List.nil_sublist _
  | cons p entries ih =>
    obtain ⟨name, entry⟩ := p
    cases entry with
    | none => exact ih.cons _
    | some v => exact ih.cons_cons _

/-- What is found among written fields is what was entered. -/
theorem get?_laid {entries : List Entry} (hn : (entries.map (·.1)).Nodup) {p : Entry}
    (hp : p ∈ entries) : Fields.get? (laid entries) p.1 = p.2 := by
  have hlaid : ((laid entries).map (·.1)).Nodup := (laid_sublist entries).nodup hn
  obtain ⟨name, entry⟩ := p
  cases entry with
  | some v => exact Fields.get?_of_mem hlaid (mem_laid.2 hp)
  | none =>
    cases hg : Fields.get? (laid entries) name with
    | none => rfl
    | some v =>
      have hv := mem_laid.1 (Fields.mem_of_get? hg)
      exact (congrArg Prod.snd (List.inj_on_of_nodup_map hn hp hv rfl)).symm

/-- A record that holds the written fields, in the order of the entries or of their names. -/
def Lays (v : Value) (entries : List Entry) : Prop :=
  v = .record (laid entries) ∨ v = .record (Fields.ofList (laid entries))

/-- The fields of a record that holds written fields. -/
theorem Lays.exists_fields {v : Value} {entries : List Entry} (h : Lays v entries)
    (hn : (entries.map (·.1)).Nodup) :
    ∃ fields, v = .record fields ∧ (fields.map (·.1)).Nodup ∧
      (∀ p ∈ fields, (p.1, some p.2) ∈ entries) ∧
      ∀ p ∈ entries, Fields.get? fields p.1 = p.2 := by
  have hlaid : ((laid entries).map (·.1)).Nodup := (laid_sublist entries).nodup hn
  rcases h with rfl | rfl
  · exact ⟨_, rfl, hlaid, fun p hp => mem_laid.1 hp, fun p hp => get?_laid hn hp⟩
  · refine ⟨_, rfl, (Fields.sorted_ofList _).nodup_names,
      fun p hp => mem_laid.1 (Fields.mem_of_mem_ofList hp), fun p hp => ?_⟩
    rw [Fields.get?_ofList hlaid, get?_laid hn hp]

theorem Recovers.names {r : RecordDecoder α} {entries : List Entry} {a : α}
    (h : Recovers n r entries a) : r.rules.map (·.name) = entries.map (·.1) := by
  have hall := h.checks
  generalize r.rules = rules at hall ⊢
  clear h
  induction hall with
  | nil => rfl
  | cons hp _ ih => rw [List.map_cons, List.map_cons, hp.1, ih]

/-- The rule of an entry is found under its name. -/
theorem find?_rule {rules : List FieldRule} {entries : List Entry}
    (h : List.Forall₂ (fun rule p => rule.name = p.1 ∧ ∀ v ∈ p.2, Passes rule v) rules entries)
    (hn : (entries.map (·.1)).Nodup) {p : Entry} (hp : p ∈ entries) :
    ∃ rule, rules.find? (·.name == p.1) = some rule ∧ ∀ v ∈ p.2, Passes rule v := by
  induction h with
  | nil => exact absurd hp List.not_mem_nil
  | @cons rule q rules entries hq _ ih =>
    obtain ⟨hq1, hn⟩ := List.nodup_cons.1 hn
    rcases List.mem_cons.1 hp with rfl | hp
    · exact ⟨rule, List.find?_cons_of_pos (by simpa using hq.1), hq.2⟩
    · have hne : rule.name ≠ p.1 := by
        rw [hq.1]
        exact fun he => hq1 (List.mem_map.2 ⟨p, hp, he.symm⟩)
      rw [List.find?_cons_of_neg (by simpa using hne)]
      exact ih hn hp

/-- Fields of different names that pass the checks are examined without a misfit. -/
theorem examine_ofValue {rules : List FieldRule} {origin : Origin} {fields : List (String × Value)}
    {seen : List String} (hn : (fields.map (·.1)).Nodup) (hseen : ∀ p ∈ fields, p.1 ∉ seen)
    (hrule : ∀ p ∈ fields, ∃ rule, rules.find? (·.name == p.1) = some rule ∧ Passes rule p.2) :
    examine rules origin seen (fields.map fun p => (p.1, ofValue p.2)) = .ok () := by
  induction fields generalizing seen with
  | nil => rfl
  | cons p fields ih =>
    obtain ⟨hp, hn⟩ := List.nodup_cons.1 hn
    obtain ⟨rule, hfind, hpass⟩ := hrule p List.mem_cons_self
    have hnew : ¬seen.contains p.1 = true := by
      simpa using hseen p List.mem_cons_self
    rw [List.map_cons, examine, hfind]
    dsimp only
    rw [if_neg hnew, Document.reading_ofValue, hpass]
    refine ih hn (fun q hq => ?_) fun q hq => hrule q (List.mem_cons_of_mem p hq)
    refine List.not_mem_cons_of_ne_of_not_mem (fun he => ?_) (hseen q (List.mem_cons_of_mem p hq))
    exact hp (List.mem_map.2 ⟨q, hq, he⟩)

/-- Written fields are read as what their entries recover. -/
theorem Recovers.readAs {r : RecordDecoder α} {entries : List Entry} {a : α}
    (h : Recovers n r entries a) (hn : (r.rules.map (·.name)).Nodup) {v : Value}
    (hv : Lays v entries) (type : String) : ReadAs (n + 1) (r.decode type) v a := by
  rw [h.names] at hn
  obtain ⟨fields, rfl, hnames, hmem, hget⟩ := hv.exists_fields hn
  refine ⟨.record fun p hp => h.fits _ (hmem p hp) _ rfl, fun origin => ?_⟩
  have hexamine : examine r.rules origin [] (fields.map fun p => (p.1, ofValue p.2)) = .ok () := by
    refine examine_ofValue hnames (fun _ _ => List.not_mem_nil) fun p hp => ?_
    obtain ⟨rule, hrule, hpass⟩ := find?_rule h.checks hn (hmem p hp)
    exact ⟨rule, hrule, hpass _ rfl⟩
  have hfind : ∀ name, ((fields.map fun p => (p.1, ofValue p.2)).find? (·.1 == name)).map
      (·.2.reading) = (Fields.get? fields name).map ofValue := by
    intro name
    unfold Fields.get?
    rw [List.find?_map, Option.map_map, Option.map_map]
    congr 1
    funext p
    exact Document.reading_ofValue p.2
  rw [Document.ofValue_record]
  unfold decode
  dsimp only
  rw [hexamine]
  dsimp only
  refine h.make origin _ fun p hp => ?_
  rw [hfind, hget p hp]

/-- What is decoded is made of documents one level below. -/
theorem decode_eq_ok {r : RecordDecoder α} {type : String} {origin : Origin} {d : Document} {a : α}
    (hd : d.Fits n) (h : r.decode type origin d = .ok a) :
    ∃ m find, n = m + 1 ∧ (∀ name, ∀ d ∈ find name, d.Fits m) ∧ r.make origin find = .ok a := by
  unfold decode at h
  split at h
  · obtain ⟨m, rfl, hfs⟩ := hd.of_record
    split at h
    · cases h
    · cases h
    · refine ⟨m, _, rfl, fun name d hm => ?_, h⟩
      obtain ⟨p, hp, rfl⟩ := Option.map_eq_some_iff.1 hm
      exact hfs p (List.mem_of_find?_eq_some hp)
  · obtain ⟨m, rfl, hds⟩ := hd.of_list
    dsimp only at h
    split at h
    · (repeat' split at h) <;> cases h
    · cases h
    · split at h <;> cases h
    · split at h
      · split at h <;> cases h
      · refine ⟨m, _, rfl, fun name d hm => ?_, h⟩
        obtain ⟨p, hp, rfl⟩ := Option.map_eq_some_iff.1 hm
        exact hds _ (List.of_mem_zip (List.mem_of_find?_eq_some hp)).2
  · exact absurd h Decoder.expected_ne_ok

/-- What is decoded is read again from any record that holds the written fields. -/
theorem Keeps.decode {r : RecordDecoder α} (h : ∀ m, n = m + 1 → Keeps m r Q)
    (hn : (r.rules.map (·.name)).Nodup) {type : String} {origin : Origin} {d : Document} {a : α}
    (hd : d.Fits n) (ha : r.decode type origin d = .ok a) :
    ∃ entries a', Q a entries a' ∧ ∀ v, Lays v entries → ReadAs n (r.decode type) v a' := by
  obtain ⟨m, find, rfl, hfind, hmake⟩ := decode_eq_ok hd ha
  obtain ⟨entries, a', hrecovers, hQ⟩ := h m rfl origin find a hfind hmake
  exact ⟨entries, a', hQ, fun v hv => hrecovers.readAs hn hv type⟩

/-- A record is restored when its description keeps its fields. -/
theorem restores_decode {r : RecordDecoder α} {type : String}
    (hn : (r.rules.map (·.name)).Nodup)
    (h : ∀ m, n = m + 1 → Keeps m r fun a entries a' => Lays (write a) entries ∧ a' = after a) :
    Restores n (r.decode type) write after := by
  intro origin d a hd ha
  obtain ⟨entries, a', ⟨hlays, rfl⟩, hread⟩ := Keeps.decode h hn hd ha
  exact hread _ hlays

end RecordDecoder

/-! ### Records with a tag -/

namespace Decoder

variable {α : Type} {n : Nat} {tag : String} {forms : List (String × Decoder α)}

theorem formOf_eq_ok {d : Document} {f : Decoder α} (h : formOf forms d = .ok f) :
    ∃ name, (name, f) ∈ forms := by
  unfold formOf at h
  split at h
  · split at h
    · rename_i name g hg
      cases h
      exact ⟨_, List.mem_of_find?_eq_some hg⟩
    · cases h
  · exact absurd h expected_ne_ok

theorem formOf_text (hn : (forms.map (·.1)).Nodup) {name : String} {f : Decoder α}
    (h : (name, f) ∈ forms) : formOf forms (.text name) = .ok f := by
  have hget := Fields.get?_of_mem hn h
  obtain ⟨⟨key, g⟩, hfind, rfl⟩ := Option.map_eq_some_iff.1 hget
  unfold formOf
  dsimp only [scalarText?]
  rw [hfind]

theorem fits_settled {d : Document} (h : d.reading.Fits n) : d.settled.reading.Fits n := by
  cases d with
  | plain written meaning => cases h
  | _ => exact h

/-- The fields beside the tag stay within bounds, and the form is one of those that are known. -/
theorem findTag_eq_ok {found found' : Option (Decoder α)} {fs others : List (String × Document)}
    (hfs : ∀ p ∈ fs, p.2.reading.Fits n) (h : findTag tag forms found fs = .ok (found', others)) :
    (∀ p ∈ others, p.2.reading.Fits n) ∧
      ∀ f ∈ found', f ∈ found ∨ ∃ name, (name, f) ∈ forms := by
  induction fs generalizing found others with
  | nil =>
    cases h
    exact ⟨fun _ hp => absurd hp List.not_mem_nil, fun f hf => .inl hf⟩
  | cons p fs ih =>
    obtain ⟨name, d⟩ := p
    have hmore : ∀ p ∈ fs, p.2.reading.Fits n := fun p hp => hfs p (List.mem_cons_of_mem _ hp)
    rw [findTag] at h
    split at h
    · split at h
      · cases h
      · split at h
        · cases h
        · rename_i f hf
          obtain ⟨hothers, hform⟩ := ih hmore h
          refine ⟨hothers, fun g hg => .inr ?_⟩
          rcases hform g hg with hg | hg
          · cases hg
            exact formOf_eq_ok hf
          · exact hg
    · split at h
      · cases h
      · split at h
        · cases h
        · rename_i found'' others' hrest
          cases h
          obtain ⟨hothers, hform⟩ := ih hmore hrest
          exact ⟨List.forall_mem_cons.2 ⟨fits_settled (hfs _ List.mem_cons_self), hothers⟩, hform⟩

/-- What is read with a tag is read by one of the forms, from a document within the same bounds. -/
theorem tagged_eq_ok {type : String} {origin : Origin} {d : Document} {a : α} (hd : d.Fits n)
    (h : tagged tag type forms origin d = .ok a) :
    ∃ p ∈ forms, ∃ others : Document, others.Fits n ∧ p.2 .aside others = .ok a := by
  unfold tagged at h
  split at h
  · rename_i fs fault
    split at h
    · cases h
    · cases h
    · cases h
    · rename_i f others htag
      cases hd with
      | record hfs =>
        obtain ⟨hothers, hform⟩ := findTag_eq_ok hfs htag
        obtain ⟨name, hf⟩ := (hform f rfl).resolve_left (by simp)
        exact ⟨_, hf, _, .record hothers, h⟩
  · rename_i first others fault
    split at h
    · cases h
    · rename_i f hf
      obtain ⟨name, hmem⟩ := formOf_eq_ok hf
      cases hd with
      | list hds =>
        exact ⟨_, hmem, _, .list fun d hm => hds d (List.mem_cons_of_mem _ hm), h⟩
  · cases h
  · cases h
  · exact absurd h expected_ne_ok

theorem findTag_fields {found : Option (Decoder α)} {fields : List (String × Value)}
    (h : ∀ p ∈ fields, p.1 ≠ tag ∧ p.2.Ordered) :
    findTag tag forms found (fields.map fun p => (p.1, Document.ofValue p.2)) =
      .ok (found, fields.map fun p => (p.1, Document.ofValue p.2)) := by
  induction fields with
  | nil => rfl
  | cons p fields ih =>
    obtain ⟨hname, hordered⟩ := h p List.mem_cons_self
    have hsettled : (Document.ofValue p.2).settled = Document.ofValue p.2 := by
      cases p.2 <;> rfl
    rw [List.map_cons, findTag, if_neg hname, Document.toValue_ofValue hordered,
      ih fun q hq => h q (List.mem_cons_of_mem p hq), hsettled]

/-- A tag and the fields of its form are read by the form. -/
theorem tagged_ofValue (hn : (forms.map (·.1)).Nodup) {name : String} {f : Decoder α}
    (hf : (name, f) ∈ forms) {fields : List (String × Value)}
    (h : ∀ p ∈ fields, p.1 ≠ tag ∧ p.2.Ordered) (type : String) (origin : Origin) :
    tagged tag type forms origin (Document.ofValue (.record ((tag, .text name) :: fields))) =
      f .aside (Document.ofValue (.record fields)) := by
  have htag : findTag tag forms none
      (((tag, .text name) :: fields).map fun p => (p.1, Document.ofValue p.2)) =
        .ok (some f, fields.map fun p => (p.1, Document.ofValue p.2)) := by
    rw [List.map_cons, findTag, if_pos rfl, if_neg (by simp), Document.reading_ofValue,
      Document.ofValue, formOf_text hn hf]
    exact findTag_fields h
  rw [Document.ofValue_record, Document.ofValue_record]
  unfold tagged
  dsimp only
  rw [htag]

/-- Data with a tag is restored when each of its forms is, by the fields after the tag. -/
theorem restores_tagged {type : String} {write : α → Value} {after : α → α}
    (hn : (forms.map (·.1)).Nodup)
    (h : ∀ p ∈ forms, ∀ origin d a, d.Fits n → p.2 origin d = .ok a → ∃ fields,
      write a = .record ((tag, .text p.1) :: fields) ∧ (∀ q ∈ fields, q.1 ≠ tag ∧ q.2.Ordered) ∧
        ReadAs n p.2 (.record fields) (after a)) :
    Restores n (tagged tag type forms) write after := by
  intro origin d a hd ha
  obtain ⟨p, hp, others, hothers, hform⟩ := tagged_eq_ok hd ha
  obtain ⟨fields, hwrite, hfields, hfits, hread⟩ := h p hp _ _ a hothers hform
  rw [hwrite]
  refine ⟨?_, fun origin => ?_⟩
  · cases hfits with
    | record hfits => exact .record (List.forall_mem_cons.2 ⟨.text _ _, hfits⟩)
  · rw [tagged_ofValue hn hp hfields, hread]

end Decoder

end Dialogue
