import Mathlib.Algebra.Order.BigOperators.Group.List
import Mathlib.Algebra.Order.Group.Nat
import Dialogue.Answer.Accept
import Dialogue.Proofs.Text.Normal
import Dialogue.Proofs.Value.Fields

/-!
# Menus

A reply chooses the option of which it is the key as it stands. Otherwise its normal form is compared
with those of the values and keys, one option after the other, so that the value of an option comes
before the key of a later one. Two replies of one normal form choose different options where these two
orders disagree.

* `Fields.option?_eq`: the key as it stands, then the first option with the normal form.
* `Fields.exists_unlisted`: every normal form is that of a reply which is no key.
* `Fields.steady_iff`: the normal form of a reply decides exactly if no key is called otherwise.
* `Fields.careful_iff`: replies of marks alone are not understood exactly if no normal form in the menu
  is empty.
-/

namespace Dialogue

open Text

namespace Fields

variable {options : Fields String} {reply : String}

/-- The first option whose value or key has a normal form. -/
def called? (options : Fields String) (folded : String) : Option String :=
  (options.find? fun (key, value) => normalize value == folded || normalize key == folded).map (·.2)

/-- The key as it stands comes before the options with the normal form of a reply. -/
theorem option?_eq (options : Fields String) (reply : String) :
    option? options reply = (get? options reply).or (called? options (normalize reply)) := by
  unfold option?
  cases get? options reply with
  | none => rfl
  | some value => rfl

theorem option?_of_unlisted (h : has options reply = false) :
    option? options reply = called? options (normalize reply) := by
  rw [has, Option.isSome_eq_false_iff, Option.isNone_iff_eq_none] at h
  rw [option?_eq, h, Option.none_or]

theorem called?_isSome {folded : String} :
    (called? options folded).isSome = true ↔
      ∃ entry ∈ options, normalize entry.2 = folded ∨ normalize entry.1 = folded := by
  simp [called?, Option.isSome_map, List.find?_isSome]

/-- Every normal form is that of a reply which is not the key of an option. -/
theorem exists_unlisted (options : Fields String) (text : String) :
    ∃ reply, normalize reply = normalize text ∧ has options reply = false := by
  -- marks are put behind the text until it is longer than every key
  let n := (options.map (·.1.length)).sum + 1
  refine ⟨String.ofList (trim text.toList ++ List.replicate n '!'), normalize_append text n, ?_⟩
  rw [has, get?_eq_none]
  · rfl
  · intro hm
    obtain ⟨entry, he, hkey⟩ := List.mem_map.1 hm
    have hle : entry.1.length ≤ (options.map (·.1.length)).sum :=
      List.le_sum_of_mem (List.mem_map.2 ⟨entry, he, rfl⟩)
    have hlen := congrArg String.length hkey
    rw [String.length_ofList, List.length_append, List.length_replicate] at hlen
    omega

/-- Whether replies of one normal form choose the same option, or both none. -/
def Steady (options : Fields String) : Prop :=
  ∀ a b, normalize a = normalize b → normalize a ≠ "" → option? options a = option? options b

/-- Whether replies of marks alone choose nothing but the option of which they are the key. -/
def Careful (options : Fields String) : Prop :=
  ∀ reply, normalize reply = "" → (option? options reply).isSome = true → has options reply = true

/-- The normal form of a reply decides exactly if every key calls its own option. -/
theorem steady_iff (options : Fields String) :
    Steady options ↔ ∀ key value, get? options key = some value → normalize key ≠ "" →
      called? options (normalize key) = some value := by
  constructor
  · intro h key value hv hne
    obtain ⟨reply, hn, hu⟩ := exists_unlisted options key
    rw [← hn, ← option?_of_unlisted hu, h reply key hn (by rwa [hn]), option?_eq, hv]
    rfl
  · intro h
    have hcalled : ∀ reply, normalize reply ≠ "" →
        option? options reply = called? options (normalize reply) := by
      intro reply hne
      rw [option?_eq]
      cases hg : get? options reply with
      | none => rfl
      | some value => exact (h reply value hg hne).symm
    intro a b he hne
    rw [hcalled a hne, hcalled b (by rwa [← he]), he]

/-- Replies of marks alone are left aside exactly if every value and key has a normal form. -/
theorem careful_iff (options : Fields String) :
    Careful options ↔ ∀ entry ∈ options, normalize entry.1 ≠ "" ∧ normalize entry.2 ≠ "" := by
  have hnone : (∀ entry ∈ options, normalize entry.1 ≠ "" ∧ normalize entry.2 ≠ "") ↔
      (called? options "").isSome = false := by
    rw [← Bool.not_eq_true, called?_isSome]
    push Not
    exact forall₂_congr fun _ _ => and_comm
  rw [hnone]
  constructor
  · intro h
    obtain ⟨reply, hn, hu⟩ := exists_unlisted options ""
    have he : normalize reply = "" := hn
    rw [← he, ← option?_of_unlisted hu, ← Bool.not_eq_true]
    intro hs
    exact Bool.false_ne_true (hu.symm.trans (h reply he hs))
  · intro h reply he hs
    rw [Option.isSome_eq_false_iff, Option.isNone_iff_eq_none] at h
    rwa [option?_eq, he, h, Option.or_none] at hs

end Fields

namespace Question

open Fields

variable {q : Question} {a b reply : String}

theorem trim_ne_nil (h : normalize reply ≠ "") : trim reply.toList ≠ [] := by
  intro ht
  rw [← normalize_trim, ht] at h
  exact h rfl

/-- With a steady menu, replies of one normal form get the same answer. -/
theorem accept_congr (hs : Steady q.options) (ho : q.options ≠ []) (he : normalize a = normalize b)
    (hne : normalize a ≠ "") : q.accept a = q.accept b := by
  have hskip : q.isSkippedBy (trim a.toList) = q.isSkippedBy (trim b.toList) := by
    rw [isSkippedBy, isSkippedBy, normalize_trim, normalize_trim, he]
  have hoption : option? q.options (String.ofList (trim a.toList)) =
      option? q.options (String.ofList (trim b.toList)) := by
    refine hs _ _ ?_ ?_
    · rw [normalize_trim, normalize_trim, he]
    · rwa [normalize_trim]
  have ha := trim_ne_nil hne
  have hb := trim_ne_nil (he ▸ hne)
  simp only [accept, ha, hb, hskip, hoption, false_or, if_pos ho]

/-- With a careful menu, a reply of marks alone is an answer only as the key of an option. -/
theorem has_of_accept (hc : Careful q.options) (ho : q.options ≠ []) (he : normalize reply = "")
    {value : String} (h : q.accept reply = .ok (.text value)) :
    has q.options (String.ofList (trim reply.toList)) = true := by
  simp only [accept, if_pos ho] at h
  split at h
  · split at h <;> cases h
  · split at h
    · rename_i found hf
      exact hc _ (by rw [normalize_trim, he]) (by rw [hf]; rfl)
    · cases h

end Question

namespace Fields

/-- **The normal form of a reply decides what it chooses exactly if every key calls its own option,
and replies of marks alone are left aside exactly if no normal form in the menu is empty.** What holds
of the menu holds of the answers to a question with it. -/
theorem menu_iff (options : Fields String) :
    (Steady options ↔ ∀ key value, get? options key = some value → normalize key ≠ "" →
      called? options (normalize key) = some value) ∧
    (Careful options ↔ ∀ entry ∈ options, normalize entry.1 ≠ "" ∧ normalize entry.2 ≠ "") ∧
    ∀ q : Question, q.options = options → options ≠ [] →
      (Steady options → ∀ a b, normalize a = normalize b → normalize a ≠ "" →
        q.accept a = q.accept b) ∧
      (Careful options → ∀ reply value, normalize reply = "" →
        q.accept reply = .ok (.text value) →
          has options (String.ofList (trim reply.toList)) = true) := by
  refine ⟨steady_iff options, careful_iff options, ?_⟩
  rintro q rfl ho
  exact ⟨fun hs a b he hne => Question.accept_congr hs ho he hne,
    fun hc reply value he h => Question.has_of_accept hc ho he h⟩

/-- A menu in which the value of the first option is the key of the second one. -/
def numbers : Fields String := [("1", "2"), ("2", "4")]

/-- A menu with a key of marks alone. -/
def starred : Fields String := [("*", "todas"), ("1", "una")]

/-- With a full stop behind it, a reply chooses another option; and any mark chooses the option that
has another mark for its key. -/
theorem not_steady_numbers :
    (normalize "2" = "2" ∧ normalize "2." = "2" ∧ option? numbers "2" = some "4" ∧
      option? numbers "2." = some "2" ∧ ¬Steady numbers) ∧
    normalize "?" = "" ∧ option? starred "?" = some "todas" ∧ has starred "?" = false ∧
      ¬Careful starred := by
  have hruns : (option? numbers "2" = some "4" ∧ option? numbers "2." = some "2") ∧
      (option? starred "?" = some "todas" ∧ has starred "?" = false) ∧
      normalize "2" = "2" ∧ normalize "2." = "2" ∧ normalize "?" = "" := by decide +kernel
  obtain ⟨⟨hkey, hvalue⟩, ⟨hchosen, hno⟩, hn, hn', he⟩ := hruns
  refine ⟨⟨hn, hn', hkey, hvalue, fun hs => ?_⟩, he, hchosen, hno, fun hc => ?_⟩
  · have hsame := hs "2" "2." (hn.trans hn'.symm) (by rw [hn]; decide)
    rw [hkey, hvalue] at hsame
    exact absurd hsame (by decide)
  · exact Bool.false_ne_true (hno.symm.trans (hc "?" he (by rw [hchosen]; rfl)))

end Fields

end Dialogue
