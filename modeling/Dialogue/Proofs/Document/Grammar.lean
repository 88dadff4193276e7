import Dialogue.Document.Json

/-!
# The grammar of JSON

What counts as a complete value in a text, apart from what a reader makes of it: nesting may be of
any depth, numbers of any size, and an escape need not make a character. Each part of the grammar
relates a text that begins with it to the text that follows.

A record ends where its brackets close, so that no record is the beginning of another one.

* `Json.Spans`: a text begins with a value, or goes on with what belongs into a list or a record.
* `Json.Spans.closing_eq`: after a part its brackets are closed again.
* `Json.not_heads_of_cut`: a record that is cut off is no complete record.
-/

namespace Dialogue.Json

open Text (isDigit hexValue?)

/-! ### Numbers -/

/-- One digit or more. -/
inductive Digits : List Char → List Char → Prop
  | last {c : Char} {rest : List Char} (hc : isDigit c = true) : Digits (c :: rest) rest
  | more {c : Char} {cs rest : List Char} (hc : isDigit c = true) (h : Digits cs rest) :
    Digits (c :: cs) rest

/-- The digits before the point of a number, without needless zeros. -/
inductive Whole : List Char → List Char → Prop
  | zero {rest : List Char} : Whole ('0' :: rest) rest
  | digit {c : Char} {rest : List Char} (h0 : c ≠ '0') (hc : isDigit c = true) :
    Whole (c :: rest) rest
  | digits {c : Char} {cs rest : List Char} (h0 : c ≠ '0') (hc : isDigit c = true)
    (h : Digits cs rest) : Whole (c :: cs) rest

/-- A point and digits, or nothing. -/
inductive Fraction : List Char → List Char → Prop
  | absent {rest : List Char} : Fraction rest rest
  | digits {cs rest : List Char} (h : Digits cs rest) : Fraction ('.' :: cs) rest

/-- The mark of an exponent and digits, with or without a sign, or nothing. -/
inductive Exponent : List Char → List Char → Prop
  | absent {rest : List Char} : Exponent rest rest
  | bare {mark : Char} {cs rest : List Char} (hm : mark = 'e' ∨ mark = 'E') (h : Digits cs rest) :
    Exponent (mark :: cs) rest
  | signed {mark sign : Char} {cs rest : List Char} (hm : mark = 'e' ∨ mark = 'E')
    (hs : sign = '+' ∨ sign = '-') (h : Digits cs rest) : Exponent (mark :: sign :: cs) rest

/-- A number without its sign. -/
def Numeral (cs rest : List Char) : Prop :=
  ∃ fraction exponent, Whole cs fraction ∧ Fraction fraction exponent ∧ Exponent exponent rest

/-! ### Texts and values -/

/-- The characters of a text after its opening quotation mark, up to the closing one. -/
inductive Quoted : List Char → List Char → Prop
  | close {rest : List Char} : Quoted ('"' :: rest) rest
  | char {c : Char} {cs rest : List Char} (hq : c ≠ '"') (hs : c ≠ '\\') (hc : 32 ≤ c.toNat)
    (h : Quoted cs rest) : Quoted (c :: cs) rest
  | escape {c : Char} {cs rest : List Char} (hc : c ∈ ['"', '\\', '/', 'b', 'f', 'n', 'r', 't'])
    (h : Quoted cs rest) : Quoted ('\\' :: c :: cs) rest
  | code {c₁ c₂ c₃ c₄ : Char} {cs rest : List Char}
    (hc : ∀ c ∈ [c₁, c₂, c₃, c₄], (hexValue? c).isSome) (h : Quoted cs rest) :
    Quoted ('\\' :: 'u' :: c₁ :: c₂ :: c₃ :: c₄ :: cs) rest

/-- The values that are written as words. -/
def keywords : List String := ["null", "true", "false"]

/-- The parts of a text: a value, what follows the opening bracket of a list or record or else an
entry of it, and what follows the quotation mark that opens the name of a field. -/
inductive Part where
  | value
  | items (first : Bool)
  | fields (first : Bool)
  | name
  deriving DecidableEq, Repr

/-- A text begins with a part, after which the rest follows. The parts of lists and records reach to
the closing bracket. -/
inductive Spans : Part → List Char → List Char → Prop
  | word (word : String) {cs rest : List Char} (hw : word ∈ keywords)
    (h : skipSpace cs = word.toList ++ rest) : Spans .value cs rest
  | number {cs rest : List Char} (h : Numeral (skipSpace cs) rest) : Spans .value cs rest
  | negative {cs digits rest : List Char} (h : skipSpace cs = '-' :: digits)
    (hn : Numeral digits rest) : Spans .value cs rest
  | text {cs more rest : List Char} (h : skipSpace cs = '"' :: more) (hq : Quoted more rest) :
    Spans .value cs rest
  | list {cs more rest : List Char} (h : skipSpace cs = '[' :: more)
    (hi : Spans (.items true) more rest) : Spans .value cs rest
  | record {cs more rest : List Char} (h : skipSpace cs = '\x7b' :: more)
    (hf : Spans (.fields true) more rest) : Spans .value cs rest
  | listEnd {first : Bool} {cs rest : List Char} (h : skipSpace cs = ']' :: rest) :
    Spans (.items first) cs rest
  | firstItem {cs next rest : List Char} (hv : Spans .value cs next)
    (hm : Spans (.items false) next rest) : Spans (.items true) cs rest
  | nextItem {cs more next rest : List Char} (h : skipSpace cs = ',' :: more)
    (hv : Spans .value more next) (hm : Spans (.items false) next rest) :
    Spans (.items false) cs rest
  | recordEnd {first : Bool} {cs rest : List Char} (h : skipSpace cs = '\x7d' :: rest) :
    Spans (.fields first) cs rest
  | firstField {cs more rest : List Char} (h : skipSpace cs = '"' :: more)
    (hn : Spans .name more rest) : Spans (.fields true) cs rest
  | nextField {cs field more rest : List Char} (h : skipSpace cs = ',' :: field)
    (hq : skipSpace field = '"' :: more) (hn : Spans .name more rest) : Spans (.fields false) cs rest
  | field {cs colon content next rest : List Char} (hq : Quoted cs colon)
    (h : skipSpace colon = ':' :: content) (hv : Spans .value content next)
    (hm : Spans (.fields false) next rest) : Spans .name cs rest

/-- A text begins with a complete record. -/
def Heads (cs : List Char) : Prop :=
  ∃ content rest, cs = '\x7b' :: content ∧ Spans (.fields true) content rest

/-! ### Plain characters -/

/-- The characters that open and close texts, lists and records. -/
def marks : List Char := ['"', '[', ']', '\x7b', '\x7d']

/-- A text goes on with characters none of which is a mark, before the rest. -/
def Plain (cs rest : List Char) : Prop := ∃ plain, cs = plain ++ rest ∧ ∀ c ∈ plain, c ∉ marks

variable {cs rest next : List Char} {c : Char}

theorem Plain.refl (cs : List Char) : Plain cs cs := ⟨[], rfl, fun _ h => by cases h⟩

theorem Plain.cons (hc : c ∉ marks) (h : Plain cs rest) : Plain (c :: cs) rest := by
  obtain ⟨plain, rfl, hall⟩ := h
  exact ⟨c :: plain, rfl, List.forall_mem_cons.2 ⟨hc, hall⟩⟩

theorem Plain.trans (h : Plain cs next) (hn : Plain next rest) : Plain cs rest := by
  obtain ⟨plain, rfl, hall⟩ := h
  obtain ⟨more, rfl, hmore⟩ := hn
  exact ⟨plain ++ more, (List.append_assoc ..).symm, List.forall_mem_append.2 ⟨hall, hmore⟩⟩

theorem notMem_marks_of_isDigit (h : isDigit c = true) : c ∉ marks := by
  have hmarks : marks.any isDigit = false := rfl
  intro hc
  exact List.any_eq_false.1 hmarks c hc h

theorem Digits.plain (h : Digits cs rest) : Plain cs rest := by
  induction h with
  | last hc => exact .cons (notMem_marks_of_isDigit hc) (.refl _)
  | more hc _ ih => exact .cons (notMem_marks_of_isDigit hc) ih

theorem Exponent.plain (h : Exponent cs rest) : Plain cs rest := by
  cases h with
  | absent => exact .refl _
  | bare hm h => exact .cons (by rcases hm with rfl | rfl <;> decide) h.plain
  | signed hm hs h =>
    exact .cons (by rcases hm with rfl | rfl <;> decide)
      (.cons (by rcases hs with rfl | rfl <;> decide) h.plain)

theorem Numeral.plain (h : Numeral cs rest) : Plain cs rest := by
  obtain ⟨fraction, exponent, hw, hf, he⟩ := h
  have hwhole : Plain cs fraction := by
    cases hw with
    | zero => exact .cons (by decide) (.refl _)
    | digit _ hc => exact .cons (notMem_marks_of_isDigit hc) (.refl _)
    | digits _ hc h => exact .cons (notMem_marks_of_isDigit hc) h.plain
  have hfraction : Plain fraction exponent := by
    cases hf with
    | absent => exact .refl _
    | digits h => exact .cons (by decide) h.plain
  exact hwhole.trans (hfraction.trans he.plain)

/-! ### White space -/

/-- A character of white space. -/
def isSpace (c : Char) : Bool := c == ' ' || c == '\n' || c == '\t' || c == '\r'

theorem skipSpace_eq (cs : List Char) : skipSpace cs = cs.dropWhile isSpace := rfl

theorem skipSpace_cons_of_pos (hc : isSpace c = true) (cs : List Char) :
    skipSpace (c :: cs) = skipSpace cs :=
  List.dropWhile_cons_of_pos hc

theorem skipSpace_cons_of_neg (hc : isSpace c = false) (cs : List Char) :
    skipSpace (c :: cs) = c :: cs := by
  rw [skipSpace_eq, List.dropWhile_cons_of_neg (by simp [hc])]

theorem skipSpace_skipSpace (cs : List Char) : skipSpace (skipSpace cs) = skipSpace cs := by
  induction cs with
  | nil => rfl
  | cons c cs ih =>
    cases hc : isSpace c with
    | true => rw [skipSpace_cons_of_pos hc, ih]
    | false => rw [skipSpace_cons_of_neg hc, skipSpace_cons_of_neg hc]

theorem plain_skipSpace (cs : List Char) : Plain cs (skipSpace cs) := by
  refine ⟨cs.takeWhile isSpace, List.takeWhile_append_dropWhile.symm, fun c hc => ?_⟩
  have hspace := List.all_eq_true.1 List.all_takeWhile c hc
  simp only [isSpace, Bool.or_eq_true, beq_iff_eq] at hspace
  rcases hspace with ((rfl | rfl) | rfl) | rfl <;> decide

/-- White space before a value does not matter. -/
theorem Spans.congr {ds : List Char} (heq : skipSpace cs = skipSpace ds)
    (h : Spans .value cs rest) : Spans .value ds rest := by
  cases h with
  | word word hw h => exact .word word hw (heq ▸ h)
  | number h => exact .number (heq ▸ h)
  | negative h hn => exact .negative (heq ▸ h) hn
  | text h hq => exact .text (heq ▸ h) hq
  | list h hi => exact .list (heq ▸ h) hi
  | record h hf => exact .record (heq ▸ h) hf

/-! ### Brackets -/

/-- Where a scan of brackets stands: outside of texts, within one, or after a backslash there. -/
inductive Mode where
  | outside
  | inside
  | escaped
  deriving DecidableEq, Repr

/-- Where the scan stands after a character. -/
def Mode.after : Mode → Char → Mode
  | outside, c => if c = '"' then inside else outside
  | inside, c => if c = '"' then outside else if c = '\\' then escaped else inside
  | escaped, _ => inside

/-- How many brackets are open after a character. Those within texts do not count. -/
def Mode.level (m : Mode) (level : Nat) (c : Char) : Nat :=
  match m with
  | outside =>
    if c = '[' ∨ c = '\x7b' then level + 1
    else if c = ']' ∨ c = '\x7d' then level - 1
    else level
  | _ => level

/-- What follows the bracket that closes the last of so many open ones. -/
def closing : Mode → (level : Nat) → List Char → Option (List Char)
  | _, 0, cs => some cs
  | _, _ + 1, [] => none
  | m, level + 1, c :: cs => closing (m.after c) (m.level (level + 1) c) cs

@[simp] theorem closing_zero (m : Mode) (cs : List Char) : closing m 0 cs = some cs := by
  cases cs <;> rfl

theorem closing_cons (m : Mode) (n : Nat) (c : Char) (cs : List Char) :
    closing m (n + 1) (c :: cs) = closing (m.after c) (m.level (n + 1) c) cs := rfl

/-- What comes later does not change where the brackets close. -/
theorem closing_append {m : Mode} {n : Nat} (h : closing m n cs = some rest) (more : List Char) :
    closing m n (cs ++ more) = some (rest ++ more) := by
  induction cs generalizing m n with
  | nil =>
    cases n with
    | zero =>
      cases h
      exact closing_zero m more
    | succ n => cases h
  | cons c cs ih =>
    cases n with
    | zero =>
      cases h
      exact closing_zero m (c :: cs ++ more)
    | succ n => exact ih h

/-- Outside of texts plain characters leave the brackets open. -/
theorem Plain.closing_eq (h : Plain cs rest) (n : Nat) :
    closing .outside (n + 1) cs = closing .outside (n + 1) rest := by
  obtain ⟨plain, rfl, hall⟩ := h
  induction plain with
  | nil => rfl
  | cons c plain ih =>
    have hc : c ∉ marks := hall c List.mem_cons_self
    simp only [marks, List.mem_cons, List.not_mem_nil, or_false, not_or] at hc
    obtain ⟨hq, hl, hr, hbl, hbr⟩ := hc
    have hlevel : Mode.outside.level (n + 1) c = n + 1 := by
      simp [Mode.level, hl, hr, hbl, hbr]
    rw [List.cons_append, closing_cons, hlevel, Mode.after, if_neg hq]
    exact ih fun d hd => hall d (List.mem_cons_of_mem c hd)

/-- A text within the brackets leaves them open. -/
theorem Quoted.closing_eq (h : Quoted cs rest) (n : Nat) :
    closing .inside (n + 1) cs = closing .outside (n + 1) rest := by
  induction h with
  | close => rfl
  | char hq hs _ _ ih =>
    rw [closing_cons, Mode.after, if_neg hq, if_neg hs]
    exact ih
  | escape _ _ ih => exact ih
  | @code c₁ c₂ c₃ c₄ cs rest hc _ ih =>
    -- hexadecimal digits neither end the text nor begin another escape
    have hhex : ∀ c, (hexValue? c).isSome → ∀ cs,
        closing .inside (n + 1) (c :: cs) = closing .inside (n + 1) cs := by
      intro c hsome cs
      have hquote : c ≠ '"' := by
        rintro rfl
        exact absurd hsome (by decide)
      have hslash : c ≠ '\\' := by
        rintro rfl
        exact absurd hsome (by decide)
      rw [closing_cons, Mode.after, if_neg hquote, if_neg hslash]
      rfl
    simp only [List.forall_mem_cons] at hc
    obtain ⟨h₁, h₂, h₃, h₄, -⟩ := hc
    show closing .inside (n + 1) (c₁ :: c₂ :: c₃ :: c₄ :: cs) = _
    rw [hhex c₁ h₁, hhex c₂ h₂, hhex c₃ h₃, hhex c₄ h₄]
    exact ih

/-- Where a scan stands at the beginning of a part. -/
def Part.mode : Part → Mode
  | name => .inside
  | _ => .outside

/-- How many of the open brackets are open after a part. -/
def Part.left (n : Nat) : Part → Nat
  | value => n + 1
  | _ => n

theorem closing_of_skipSpace {n : Nat} (h : skipSpace cs = next) :
    closing .outside (n + 1) cs = closing .outside (n + 1) next :=
  h ▸ (plain_skipSpace cs).closing_eq n

/-- After a part its brackets are closed again. -/
theorem Spans.closing_eq {p : Part} (h : Spans p cs rest) (n : Nat) :
    closing p.mode (n + 1) cs = closing .outside (p.left n) rest := by
  induction h generalizing n with
  | word word hw h =>
    have hmarks : ∀ word ∈ keywords, word.toList.any marks.contains = false := by decide
    have hplain : ∀ c ∈ word.toList, c ∉ marks := fun c hc hm =>
      List.any_eq_false.1 (hmarks word hw) c hc (List.contains_iff_mem.2 hm)
    exact (closing_of_skipSpace h).trans (Plain.closing_eq ⟨word.toList, rfl, hplain⟩ n)
  | number h => exact (closing_of_skipSpace rfl).trans (h.plain.closing_eq n)
  | negative h hn =>
    exact (closing_of_skipSpace h).trans ((Plain.cons (by decide) hn.plain).closing_eq n)
  | text h hq => exact (closing_of_skipSpace h).trans (hq.closing_eq n)
  | list h _ ih => exact (closing_of_skipSpace h).trans (ih (n + 1))
  | record h _ ih => exact (closing_of_skipSpace h).trans (ih (n + 1))
  | listEnd h => exact closing_of_skipSpace h
  | firstItem _ _ ihv ihm => exact (ihv n).trans (ihm n)
  | nextItem h _ _ ihv ihm =>
    exact (closing_of_skipSpace h).trans ((ihv n).trans (ihm n))
  | recordEnd h => exact closing_of_skipSpace h
  | firstField h _ ih => exact (closing_of_skipSpace h).trans (ih n)
  | nextField h hq _ ih =>
    exact (closing_of_skipSpace h).trans ((closing_of_skipSpace hq).trans (ih n))
  | field hq h _ _ ihv ihm =>
    exact (hq.closing_eq n).trans ((closing_of_skipSpace h).trans ((ihv n).trans (ihm n)))

/-- Behind a complete record the brackets are closed. -/
theorem closing_of_fields {first : Bool} (h : Spans (.fields first) cs rest) :
    closing .outside 1 cs = some rest :=
  (h.closing_eq 0).trans (closing_zero _ rest)

/-- A complete record that has lost some of its end is no complete record. -/
theorem not_heads_of_cut {content cut more : List Char} (h : Spans (.fields true) content [])
    (hcut : '\x7b' :: content = cut ++ more) (hm : more ≠ []) : ¬Heads cut := by
  rintro ⟨kept, rest, rfl, hkept⟩
  obtain rfl : content = kept ++ more := (List.cons.inj hcut).2
  have hclosed := closing_append (closing_of_fields hkept) more
  rw [closing_of_fields h] at hclosed
  exact hm (List.append_eq_nil_iff.1 (Option.some.inj hclosed).symm).2

end Dialogue.Json
