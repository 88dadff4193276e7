import Dialogue.Proofs.Flow.Selection
import Dialogue.Proofs.Text.Words

/-!
# Keywords wherever they are said

A keyword sets off a flow when its words stand next to each other in a text. Text and keyword are
brought into normal form apart from each other, but the words of a normal form depend on nothing that
stands around them behind white space, so that no context hides a keyword.

* `Triggers.Says`: the words of a keyword, at least one, next to each other among those of a text.
* `Triggers.matchText_iff`: which texts set off a flow with keywords.
* `Triggers.says_append`: a keyword with a letter or number is said in every context.
* `Registry.exists_select`: a flow that competes is selected, or another one of at least its priority.
* `Flow.set_off_wherever`: a keyword sets off its flow wherever it is said, and what sets off a flow
  says one of its keywords.
-/

namespace Dialogue

open Text

namespace Triggers

/-- Whether the words of a keyword, at least one, stand next to each other among those of a text, both
in their normal form. -/
def Says (text keyword : String) : Prop :=
  wordsOf (normalize keyword).toList ≠ [] ∧
    wordsOf (normalize keyword).toList <:+: wordsOf (normalize text).toList

variable {t : Triggers} {text keyword : String}

theorem hears_iff (said keyword : String) :
    hears said keyword = true ↔ keyword ≠ "" ∧
      (said = keyword ∨ wordsOf keyword.toList ≠ [] ∧
        wordsOf keyword.toList <:+: wordsOf said.toList) := by
  simp [hears, containsWords, containsRun_iff]

theorem Says.normalize_ne_empty (h : Says text keyword) : normalize keyword ≠ "" := by
  intro he
  rw [Says, he] at h
  exact h.1 rfl

/-- A flow with keywords is set off by the texts that have the normal form of a keyword, or say one. -/
theorem matchText_iff (hm : t.mode = .keyword) (text : String) :
    t.matchText (normalize text) = true ↔ ∃ k ∈ t.keywords,
      normalize k ≠ "" ∧ normalize text = normalize k ∨ Says text k := by
  rw [matchText, hm]
  simp only [List.any_eq_true, hears_iff]
  refine exists_congr fun k => and_congr_right fun _ => ?_
  constructor
  · rintro ⟨hne, he | hs⟩
    · exact .inl ⟨hne, he⟩
    · exact .inr hs
  · rintro (⟨hne, he⟩ | hs)
    · exact ⟨hne, .inl he⟩
    · exact ⟨hs.normalize_ne_empty, .inr hs⟩

/-- The words of three texts with blanks between them are those of each, all in normal form. -/
theorem wordsOf_normalize_append (a keyword b : String) :
    wordsOf (normalize (a ++ " " ++ keyword ++ " " ++ b)).toList =
      wordsOf (normalize a).toList ++
        (wordsOf (normalize keyword).toList ++ wordsOf (normalize b).toList) := by
  have htext : (a ++ " " ++ keyword ++ " " ++ b).toList =
      a.toList ++ ' ' :: (keyword.toList ++ ' ' :: b.toList) := by simp
  simp only [Text.normalize, String.toList_ofList]
  rw [htext, wordsOf_normalizeChars_append_cons (by decide),
    wordsOf_normalizeChars_append_cons (by decide)]

/-- A keyword with a letter or number is said in every context. -/
theorem says_append (h : ∃ c ∈ keyword.toList, isAlphanumeric c = true) (a b : String) :
    Says (a ++ " " ++ keyword ++ " " ++ b) keyword := by
  refine ⟨?_, ?_⟩
  · rw [Text.normalize, String.toList_ofList]
    exact wordsOf_normalizeChars_ne_nil h
  · rw [wordsOf_normalize_append]
    exact ⟨_, _, List.append_assoc _ _ _⟩

end Triggers

/-- A flow that competes is selected, or another one whose priority is at least as high. -/
theorem Registry.exists_select {r : Registry} {tenant text : String} {f : Flow}
    (h : r.Competes tenant text f) :
    ∃ g, r.select tenant text = some g ∧ f.triggers.priority ≤ g.triggers.priority := by
  obtain ⟨g, hg⟩ : ∃ g, r.select tenant text = some g :=
    Option.ne_none_iff_exists'.1 fun hn => select_eq_none.1 hn f h
  refine ⟨g, hg, ?_⟩
  obtain ⟨before, after, hc, hbefore, hafter⟩ := split_of_best? hg
  have hf : f ∈ before ++ g :: after := hc ▸ mem_candidates.2 h
  rcases List.mem_append.1 hf with hf | hf
  · exact Int.le_of_lt (hbefore f hf)
  · rcases List.mem_cons.1 hf with rfl | hf
    · exact Int.le_refl _
    · exact hafter f hf

/-- **A keyword with a letter or number sets off its flow wherever it is said**, so that a registry
which holds the flow selects it, or another one of at least its priority, when it is active. What sets
off a flow with keywords has the normal form of one of them or says one of them. -/
theorem Flow.set_off_wherever (f : Flow) (hm : f.triggers.mode = .keyword) :
    (∀ k ∈ f.triggers.keywords, (∃ c ∈ k.toList, isAlphanumeric c = true) → ∀ a b : String,
      f.triggers.matchText (normalize (a ++ " " ++ k ++ " " ++ b)) = true ∧
        (f.active = true → ∀ r : Registry, r.Holds f →
          ∃ g, r.select f.tenant (a ++ " " ++ k ++ " " ++ b) = some g ∧
            f.triggers.priority ≤ g.triggers.priority)) ∧
    ∀ text, f.triggers.matchText (normalize text) = true →
      (∀ k ∈ f.triggers.keywords, normalize k ≠ normalize text) →
        ∃ k ∈ f.triggers.keywords, Triggers.Says text k := by
  constructor
  · intro k hk hletter a b
    have hmatch : f.triggers.matchText (normalize (a ++ " " ++ k ++ " " ++ b)) = true :=
      (Triggers.matchText_iff hm _).2 ⟨k, hk, .inr (Triggers.says_append hletter a b)⟩
    exact ⟨hmatch, fun ha r hr => Registry.exists_select ⟨hr, rfl, ha, hmatch⟩⟩
  · intro text hmatch hne
    obtain ⟨k, hk, ⟨-, he⟩ | hs⟩ := (Triggers.matchText_iff hm text).1 hmatch
    · exact absurd he.symm (hne k hk)
    · exact ⟨k, hk, hs⟩

/-- A flow on books is set off by a question about one between marks, and the text says its keyword. -/
theorem Flow.set_off_wherever_book :
    let f := Registry.bookFlow "acme" "libros" 1
    let text := "¿Tienen?," ++ " " ++ "libro" ++ " " ++ "-- ¡GRACIAS!"
    f.triggers.mode = .keyword ∧ f.triggers.matchText (normalize text) = true ∧
      ∃ k ∈ f.triggers.keywords, Triggers.Says text k := by
  intro f text
  obtain ⟨hforth, hback⟩ := Flow.set_off_wherever f rfl
  have hmatch := (hforth "libro" (by decide) ⟨'l', by decide, by decide⟩ "¿Tienen?,"
    "-- ¡GRACIAS!").1
  exact ⟨rfl, hmatch, hback text hmatch (by decide +kernel)⟩

end Dialogue
