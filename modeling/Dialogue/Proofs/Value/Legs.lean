import Dialogue.Proofs.Document.Numeral
import Dialogue.Proofs.Value.Steps

/-!
# Paths leg by leg

A path can be written so that it leads along any indices and names: an index between brackets, a name
between brackets and quotation marks, and a name that is none of the marks of a path behind a dot.
Quotation marks keep everything in a name as it is, so that digits between them are no index and dots
no marks; only the closing bracket ends the leg wherever it stands.

* `Value.Leads`: where steps lead in a value.
* `Path.steps_legs`: the steps that are read of a written path are those it was written for.
* `Value.lookup_legs`: a written path leads where its steps lead.
-/

namespace Dialogue

open Text

/-- The digits of an index are read as the index. -/
theorem naturalOf?_digitsOf {i : Nat} (h : i < twoTo 64) : naturalOf? (digitsOf i) = some i := by
  have hdigit : ∀ c ∈ digitsOf i, isDigit c = true := fun c hc => Json.isDigit_of_mem_digitsOf hc
  have hplus : ∀ rest, digitsOf i ≠ '+' :: rest := by
    intro rest he
    cases hdigit '+' (he ▸ List.mem_cons_self)
  rw [naturalOf?, naturalBelow?]
  · dsimp only
    rw [if_pos ⟨Json.digitsOf_ne_nil i, List.all_eq_true.2 hdigit⟩, Json.natOfDigits_digitsOf,
      if_pos h]
  · exact hplus

/-! ### Steps in a value -/

namespace Value

/-- Where steps lead from a value: a name to the field of a record, or to the item of a list when the
name is a number; an index to the item of a list. -/
inductive Leads : List PathStep → Value → Value → Prop
  | here {v : Value} : Leads [] v v
  | field {name : String} {fields : Fields Value} {more : List PathStep} {v w : Value} :
      Fields.get? fields name = some v → Leads more v w →
        Leads (.key name :: more) (.record fields) w
  | numbered {name : String} {i : Nat} {items : List Value} {more : List PathStep} {v w : Value} :
      naturalOf? name.toList = some i → items[i]? = some v → Leads more v w →
        Leads (.key name :: more) (.list items) w
  | item {i : Nat} {items : List Value} {more : List PathStep} {v w : Value} :
      items[i]? = some v → Leads more v w → Leads (.index i :: more) (.list items) w

variable {steps : List PathStep} {v w : Value}

theorem Leads.at?_eq (h : Leads steps v w) : at? steps v = some w := by
  induction h with
  | here => rfl
  | field hv _ ih => rw [at?, step?, hv, Option.bind_some, ih]
  | numbered hi hv _ ih => rw [at?, step?, hi, Option.bind_some, hv, Option.bind_some, ih]
  | item hv _ ih => rw [at?, step?, hv, Option.bind_some, ih]

theorem leads_of_at? (h : at? steps v = some w) : Leads steps v w := by
  induction steps generalizing v with
  | nil =>
    cases h
    exact .here
  | cons s steps ih =>
    obtain ⟨u, hu, hw⟩ := Option.bind_eq_some_iff.1 h
    -- what a step finds says of which kinds the step and the value are
    match s, v, hu with
    | .key name, .record fields, hu => exact .field hu (ih hw)
    | .key name, .list items, hu =>
      obtain ⟨i, hi, hu⟩ := Option.bind_eq_some_iff.1 hu
      exact .numbered hi hu (ih hw)
    | .index i, .list items, hu => exact .item hu (ih hw)

/-- What steps find in a value is where they lead. -/
theorem at?_eq_some : at? steps v = some w ↔ Leads steps v w := ⟨leads_of_at?, Leads.at?_eq⟩

end Value

/-! ### Legs -/

namespace Path

/-- One leg of a path: an index of 64 bits or a name without a closing bracket, both between
brackets, or a name by itself. -/
inductive Leg where
  | index (i : Nat) (bounded : i < twoTo 64)
  | quoted (name : String) (closed : ']' ∉ name.toList)
  | plain (name : String) (isName : IsName name.toList)

namespace Leg

/-- The step that a leg is written for. -/
def step : Leg → PathStep
  | index i _ => .index i
  | quoted name _ => .key name
  | plain name _ => .key name

/-- A leg as it is written; a name by itself has a dot before it, except in front. -/
def chars (front : Bool) : Leg → List Char
  | index i _ => '[' :: (digitsOf i ++ [']'])
  | quoted name _ => '[' :: '\'' :: (name.toList ++ ['\'', ']'])
  | plain name _ => if front then name.toList else '.' :: name.toList

variable {l : Leg} {front : Bool} {rest : List Char}

theorem chars_ne_nil (l : Leg) (front : Bool) : l.chars front ≠ [] := by
  cases l with
  | plain name h =>
    cases front with
    | true => exact h.ne_nil
    | false => exact List.cons_ne_nil _ _
  | _ => exact List.cons_ne_nil _ _

/-- No leg begins with white space. -/
theorem head_chars (l : Leg) (front : Bool) : ∀ c ∈ (l.chars front).head?, isBlank c = false := by
  cases l with
  | plain name h =>
    cases front with
    | true => exact h.head
    | false => rintro c ⟨⟩; rfl
  | _ => rintro c ⟨⟩; rfl

/-- No leg ends with white space. -/
theorem firm_chars (l : Leg) (front : Bool) : Firm (l.chars front) := by
  have hclose : Firm [']'] := firm_concat [] rfl
  cases l with
  | index i h =>
    exact firm_append hclose (List.cons_ne_nil _ _) ('[' :: digitsOf i)
  | quoted name h =>
    rw [chars, ← List.cons_append, ← List.cons_append]
    exact firm_append (firm_concat ['\''] rfl) (List.cons_ne_nil _ _) _
  | plain name h =>
    cases front with
    | true => exact h.firm
    | false => exact firm_append h.firm h.ne_nil ['.']

/-- A leg that is not in front begins with a mark. -/
theorem isMark_head_chars (l : Leg) :
    ∀ c ∈ (l.chars false ++ rest).head?, c = '.' ∨ c = '[' := by
  cases l with
  | plain name h => rintro c ⟨⟩; exact .inl rfl
  | _ => rintro c ⟨⟩; exact .inr rfl

end Leg

open Leg

/-- A path as it is written. -/
def legs : List Leg → List Char
  | [] => []
  | l :: more => l.chars true ++ more.flatMap (chars false)

/-! ### Reading -/

/-- A mark ends the name before it. -/
theorem scan_held {rest : List Char} (h : ∀ c ∈ rest.head?, c = '.' ∨ c = '[') (held : List Char) :
    scan false held rest = stepOfName held ++ scan false [] rest := by
  cases rest with
  | nil => exact (List.append_nil _).symm
  | cons c rest =>
    rcases h c rfl with rfl | rfl
    · rw [scan, if_pos rfl, scan, if_pos rfl]
      rfl
    · rw [scan, if_neg (by decide), if_pos rfl, scan, if_neg (by decide), if_pos rfl]
      rfl

/-- What stands between brackets is one step. -/
theorem scan_bracketed {inner : List Char} (h : ']' ∉ inner) (rest : List Char) :
    scan false [] ('[' :: (inner ++ ']' :: rest)) = stepOfBracket inner :: scan false [] rest := by
  rw [scan, if_neg (by decide), if_pos rfl, scan_bracket (fun c hc he => h (he ▸ hc)),
    List.append_nil, List.reverse_reverse]
  rfl

theorem stepOfBracket_digitsOf {i : Nat} (h : i < twoTo 64) :
    stepOfBracket (digitsOf i) = .index i := by
  have hsolid : Solid (digitsOf i) := fun c hc =>
    not_isBlank_of_isDigit (Json.isDigit_of_mem_digitsOf hc)
  rw [stepOfBracket, trim_of_solid hsolid, naturalOf?_digitsOf h]

/-- Between quotation marks any name stands for itself. -/
theorem stepOfBracket_quoted (name : List Char) :
    stepOfBracket ('\'' :: (name ++ ['\''])) = .key (String.ofList name) := by
  have htrim : trim ('\'' :: (name ++ ['\''])) = '\'' :: (name ++ ['\'']) :=
    trim_of_firm (by rintro c ⟨⟩; rfl) (firm_concat ('\'' :: name) rfl)
  have hnumber : naturalOf? ('\'' :: (name ++ ['\''])) = none := by
    have hdigits : ¬('\'' :: (name ++ ['\'']) ≠ [] ∧
        ('\'' :: (name ++ ['\''])).all isDigit = true) := fun h =>
      absurd (List.all_eq_true.1 h.2 '\'' List.mem_cons_self) (by decide)
    unfold naturalOf? naturalBelow?
    dsimp only
    exact if_neg hdigits
  have hunquoted : unquoteChars? ('\'' :: (name ++ ['\''])) = some name := by
    rw [unquoteChars?, htrim]
    dsimp only
    rw [if_pos ⟨.inr rfl, List.getLast?_concat⟩, List.dropLast_concat]
  rw [stepOfBracket, htrim, hnumber, hunquoted]
  rfl

/-- A leg is read as its step, whatever legs follow. -/
theorem scan_chars (l : Leg) (front : Bool) {rest : List Char}
    (h : ∀ c ∈ rest.head?, c = '.' ∨ c = '[') :
    scan false [] (l.chars front ++ rest) = l.step :: scan false [] rest := by
  cases l with
  | index i hi =>
    have hclosed : ']' ∉ digitsOf i := fun hc => by cases Json.isDigit_of_mem_digitsOf hc
    rw [chars, List.cons_append, List.append_assoc, List.singleton_append, scan_bracketed hclosed,
      stepOfBracket_digitsOf hi]
    rfl
  | quoted name hn =>
    have hclosed : ']' ∉ '\'' :: (name.toList ++ ['\'']) := by simpa using hn
    have hchars : (quoted name hn).chars front ++ rest =
        '[' :: (('\'' :: (name.toList ++ ['\''])) ++ ']' :: rest) := by simp [chars]
    rw [hchars, scan_bracketed hclosed, stepOfBracket_quoted, String.ofList_toList]
    rfl
  | plain name hn =>
    have hname : scan false [] (name.toList ++ rest) = .key name :: scan false [] rest := by
      rw [scan_name hn.marks, List.append_nil, scan_held h, stepOfName_reverse hn.ne_nil,
        String.ofList_toList]
      rfl
    cases front with
    | true => exact hname
    | false =>
      show scan false [] ('.' :: (name.toList ++ rest)) = _
      rw [scan, if_pos rfl, hname]
      rfl

theorem isMark_head_flatMap (ls : List Leg) :
    ∀ c ∈ (ls.flatMap (chars false)).head?, c = '.' ∨ c = '[' := by
  cases ls with
  | nil => exact fun c hc => absurd hc (by simp)
  | cons l ls => exact l.isMark_head_chars

theorem scan_flatMap (ls : List Leg) :
    scan false [] (ls.flatMap (chars false)) = ls.map step := by
  induction ls with
  | nil => rfl
  | cons l ls ih =>
    rw [List.flatMap_cons, scan_chars l false (isMark_head_flatMap ls), ih, List.map_cons]

theorem firm_flatMap (ls : List Leg) : Firm (ls.flatMap (chars false)) := by
  induction ls with
  | nil => exact fun c hc => absurd hc (by simp)
  | cons l ls ih =>
    rw [List.flatMap_cons]
    cases ls with
    | nil =>
      rw [List.flatMap_nil, List.append_nil]
      exact l.firm_chars false
    | cons l' ls =>
      refine firm_append ih ?_ _
      rw [List.flatMap_cons]
      exact fun he => l'.chars_ne_nil false (List.append_eq_nil_iff.1 he).1

/-- There is no white space around a written path. -/
theorem trim_legs (ls : List Leg) : trim (legs ls) = legs ls := by
  cases ls with
  | nil => rfl
  | cons l ls =>
    refine trim_of_firm (fun c hc => ?_) ?_
    · obtain ⟨d, cs, hd⟩ := List.exists_cons_of_ne_nil (l.chars_ne_nil true)
      rw [legs, hd] at hc
      exact l.head_chars true c (hd ▸ hc)
    · rw [legs]
      by_cases hne : ls.flatMap (chars false) = []
      · rw [hne, List.append_nil]
        exact l.firm_chars true
      · exact firm_append (firm_flatMap ls) hne _

/-- The steps of a written path are those of its legs. -/
theorem steps_legs (ls : List Leg) : steps (legs ls) = ls.map step := by
  rw [steps, trim_legs]
  cases ls with
  | nil => rfl
  | cons l ls => rw [legs, scan_chars l true (isMark_head_flatMap ls), scan_flatMap, List.map_cons]

end Path

namespace Value

/-- **A written path leads where its steps lead**, and nowhere else. -/
theorem lookup_legs {ls : List Path.Leg} (h : ls ≠ []) (v w : Value) :
    v.lookup (Path.legs ls) = some w ↔ v.Leads (ls.map Path.Leg.step) w := by
  have hlookup : v.lookup (Path.legs ls) = at? (ls.map Path.Leg.step) v := by
    rw [lookup, Path.steps_legs]
    cases ls with
    | nil => exact absurd rfl h
    | cons l ls => rfl
  rw [hlookup, at?_eq_some]

/-- The legs to the second price of the first order; the name of the prices has a dot, and the place
of the price is written as a name. -/
def secondPrice : List Path.Leg :=
  [.plain "pedidos" ⟨by decide, by decide, by simp⟩, .index 0 (twoTo_pos 64),
    .quoted "p.v.p" (by decide), .quoted "1" (by decide)]

/-- The path to the second price leads there. -/
theorem lookup_legs_secondPrice :
    secondPrice ≠ [] ∧ Path.legs secondPrice = "pedidos[0]['p.v.p']['1']".toList ∧
      lookup (.record [("pedidos", .list [.record [("p.v.p", .list [.int 10, .int 20])]])])
        (Path.legs secondPrice) = some (.int 20) := by
  refine ⟨by decide, by decide, (lookup_legs (by decide) _ _).2 ?_⟩
  exact .field rfl (.item rfl (.field rfl (.numbered (i := 1) (by decide) rfl .here)))

end Value

end Dialogue
