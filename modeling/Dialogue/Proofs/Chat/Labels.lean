import Dialogue.Proofs.Chat.Located
import Dialogue.Proofs.Text.Words

/-!
# Labels in replies

A reply means one of some labels in one of three ways. It holds a record that states the label, it
is nothing but the label, or it is prose in which this label and no other occurs. Where a record can
be read, nothing else in the reply counts.

* `Reply.known?_eq_some_iff`, `Reply.named?_eq_some_iff`: which of the labels is taken.
* `Reply.label?_eq_some_iff`: what a reply is taken for is what it means.
-/

namespace Dialogue

open Text (normalize wordsOf containsWords containsRun_iff)

namespace Reply

variable {labels : List String} {candidate reply label : String}

/-! ### Labels of a list -/

/-- The first of some labels that has the normal form of a candidate. -/
def IsFirst (labels : List String) (candidate label : String) : Prop :=
  ∃ before after, labels = before ++ label :: after ∧ normalize label = normalize candidate ∧
    ∀ l ∈ before, normalize l ≠ normalize candidate

/-- The words of a label, at least one, stand somewhere in a reply one after the other. -/
def Occurs (reply label : String) : Prop :=
  wordsOf (normalize label).toList ≠ [] ∧
    wordsOf (normalize label).toList <:+: wordsOf (normalize reply).toList

/-- The only one of some labels that occurs in a reply. -/
def IsOnly (labels : List String) (reply label : String) : Prop :=
  ∃ before after, labels = before ++ label :: after ∧ Occurs reply label ∧
    (∀ l ∈ before, ¬Occurs reply l) ∧ ∀ l ∈ after, ¬Occurs reply l

theorem known?_eq_some_iff : known? labels candidate = some label ↔ IsFirst labels candidate label := by
  simp only [known?, List.find?_eq_some_iff_append, beq_iff_eq, Bool.not_eq_true', beq_eq_false_iff_ne]
  constructor
  · rintro ⟨hl, before, after, rfl, hb⟩
    exact ⟨before, after, rfl, hl, hb⟩
  · rintro ⟨before, after, rfl, hl, hb⟩
    exact ⟨hl, before, after, rfl, hb⟩

theorem known?_eq_none_iff :
    known? labels candidate = none ↔ ∀ l ∈ labels, normalize l ≠ normalize candidate := by
  simp [known?]

theorem containsWords_iff :
    containsWords (normalize reply) (normalize label) = true ↔ Occurs reply label := by
  simp [containsWords, Occurs, containsRun_iff]

theorem named?_eq_some_iff : named? labels reply = some label ↔ IsOnly labels reply label := by
  have honly : named? labels reply = some label ↔
      labels.filter (fun l => containsWords (normalize reply) (normalize l)) = [label] := by
    unfold named?
    split
    · rename_i hl
      simp [hl]
    · rename_i hl
      simpa using hl label
  rw [honly, List.filter_eq_cons_iff]
  simp only [List.filter_eq_nil_iff, containsWords_iff]
  constructor
  · rintro ⟨before, after, rfl, hb, hl, ha⟩
    exact ⟨before, after, rfl, hl, hb, ha⟩
  · rintro ⟨before, after, rfl, hl, hb, ha⟩
    exact ⟨before, after, rfl, hb, hl, ha⟩

theorem IsFirst.mem (h : IsFirst labels candidate label) : label ∈ labels := by
  obtain ⟨before, after, rfl, -⟩ := h
  simp

theorem IsOnly.mem (h : IsOnly labels reply label) : label ∈ labels := by
  obtain ⟨before, after, rfl, -⟩ := h
  simp

/-! ### What a reply means -/

/-- What a reply without a record means among some labels: the first one that has its normal form,
or else the only one that occurs in it. -/
inductive Names (labels : List String) (reply : String) : String → Prop
  | whole {label : String} (hl : IsFirst labels reply label) : Names labels reply label
  | part {label : String} (hn : ∀ l ∈ labels, normalize l ≠ normalize reply)
    (hl : IsOnly labels reply label) : Names labels reply label

/-- What a reply means among some labels: the first one that has the normal form of the label in its
record, with the confidence that stands there, or what it names if no record can be read in it. -/
inductive Means (labels : List String) (reply : String) : String → Option Binary64 → Prop
  | stated {found : Fields Value} {written label : String} (hf : record reply = .ok found)
    (hw : Fields.get? found "label" = some (.text written)) (hl : IsFirst labels written label) :
    Means labels reply label (confidence? found)
  | named {label : String} (hr : Recordless reply.toList) (hl : Names labels reply label) :
    Means labels reply label none

theorem Names.mem (h : Names labels reply label) : label ∈ labels := by
  cases h with
  | whole hl => exact hl.mem
  | part _ hl => exact hl.mem

/-- What is meant is one of the labels. -/
theorem Means.mem {c : Option Binary64} (h : Means labels reply label c) : label ∈ labels := by
  cases h with
  | stated _ _ hl => exact hl.mem
  | named _ hl => exact hl.mem

theorem names_iff :
    (known? labels reply).or (named? labels reply) = some label ↔ Names labels reply label := by
  rw [Option.or_eq_some_iff, known?_eq_some_iff, known?_eq_none_iff, named?_eq_some_iff]
  constructor
  · rintro (hl | ⟨hn, hl⟩)
    · exact .whole hl
    · exact .part hn hl
  · intro h
    cases h with
    | whole hl => exact .inl hl
    | part hn hl => exact .inr ⟨hn, hl⟩

/-- **A reply is taken for what it means**, whatever it is. -/
theorem label?_eq_some_iff {c : Option Binary64} :
    label? labels reply = some (label, c) ↔ Means labels reply label c := by
  unfold label?
  cases hr : record reply with
  | ok found =>
    have hread : ¬Recordless reply.toList := fun h => by
      obtain ⟨first, hfirst⟩ := exists_recordFrom_error h none
      cases (record_eq_ok.1 hr).symm.trans hfirst
    dsimp only
    constructor
    · intro h
      simp only [Option.bind_eq_bind, Option.bind_eq_some_iff, Option.some.injEq, Prod.mk.injEq] at h
      obtain ⟨written, ⟨v, hv, ht⟩, l, hl, rfl, rfl⟩ := h
      cases v with
      | text s =>
        obtain rfl : s = written := Option.some.inj ht
        exact .stated hr hv (known?_eq_some_iff.1 hl)
      | _ => cases ht
    · intro h
      cases h with
      | stated hf hw hl =>
        obtain rfl := Except.ok.inj (hr.symm.trans hf)
        simp [hw, Value.text?, known?_eq_some_iff.2 hl]
      | named hn _ => exact absurd hn hread
  | error fault =>
    have hless : Recordless reply.toList := by
      obtain ⟨first, hfirst⟩ := exists_error_of_record hr
      exact recordless_of_error hfirst
    simp only [Option.map_eq_some_iff, Prod.mk.injEq, names_iff]
    constructor
    · rintro ⟨l, hl, rfl, rfl⟩
      exact .named hless hl
    · intro h
      cases h with
      | stated hf _ _ => cases hr.symm.trans hf
      | named _ hl => exact ⟨label, hl, rfl, rfl⟩

/-- A label in prose counts as long as it is the only one there. -/
example :
    label? ["comprar", "soporte"] "Quiere COMPRAR, creo." = some ("comprar", none) ∧
      label? ["comprar", "soporte"] "¿comprar o soporte?" = none := by
  decide +kernel

end Reply

end Dialogue
