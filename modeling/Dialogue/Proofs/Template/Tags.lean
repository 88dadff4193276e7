import Dialogue.Proofs.Template.Names

/-!
# Reading the tags of values

Each reader of templates takes what it can from the front of a text, so what it makes of a tag is
stated for whatever follows the tag.

* `IsArgument`: a text that is read as an argument, or that cannot be read as one.
* `readValue_reached`, `readValue_call`: a tag with a path, and one with a helper and two arguments.
* `BeginsPlain.readTag_cases`, `BeginsPlain.readTag_eq`: such a tag is read as a value or not at all,
  unless it begins as the other case of a block does.
-/

namespace Dialogue.Template

open Text

variable {cs rest : List Char} {c : Char} {fuel : Nat}

/-! ### Where nothing begins -/

theorem skip_cons (h : isBlank c = false) (cs : List Char) : skip (c :: cs) = c :: cs := by
  rw [skip, Json.skipSpace, List.dropWhile_cons_of_neg]
  intro hs
  simp only [Bool.or_eq_true, beq_iff_eq] at hs
  rcases hs with ((rfl | rfl) | rfl) | rfl <;> cases h

theorem mark?_cons_of_ne {m : String} {d : Char} {ds : List Char} (hm : m.toList = d :: ds)
    (h : c ≠ d) (cs : List Char) : mark? m (c :: cs) = none := by
  rw [mark?, hm, after?, if_neg (Ne.symm h)]

/-- A text at which no argument begins. -/
def NoArgument (cs : List Char) : Prop :=
  ∃ c more, cs = c :: more ∧ isNameChar c = false ∧ isBlank c = false ∧
    c ∉ ['"', '\'', '[', '\x7b', '@', '('] ∧ (c = '.' → ∀ d ∈ more.head?, d ≠ '.' ∧ d ≠ '/')

theorem noArgument_close (rest : List Char) : NoArgument ('\x7d' :: rest) :=
  ⟨_, _, rfl, by decide, by decide, by decide, fun h => absurd h (by decide)⟩

theorem NoArgument.skip_eq (h : NoArgument cs) : skip cs = cs := by
  obtain ⟨c, more, rfl, -, hb, -⟩ := h
  exact skip_cons hb more

theorem NoArgument.readName_eq (h : NoArgument cs) : readName cs = none := by
  obtain ⟨c, more, rfl, hn, -⟩ := h
  exact readName_of_endsName (endsName_cons hn more)

theorem NoArgument.readReference_eq (h : NoArgument cs) : readReference cs = none := by
  have hname := h.readName_eq
  obtain ⟨c, more, rfl, hn, -, hc, hdot⟩ := h
  have hthis : mark? "this" (c :: more) = none :=
    mark?_cons_of_ne (d := 't') rfl (by rintro rfl; cases hn) more
  have hhere : mark? "./" (c :: more) = none := by
    rw [mark?, show "./".toList = ['.', '/'] from rfl, after?]
    split
    · rename_i he
      cases more with
      | nil => rfl
      | cons d more => rw [after?, if_neg fun hd => (hdot he.symm d rfl).2 hd.symm]
    · rfl
  have hroot : mark? "@root" (c :: more) = none :=
    mark?_cons_of_ne (d := '@') rfl (by rintro rfl; simp at hc) more
  have hown : ∀ tail, c :: more ≠ '@' :: tail := by
    rintro _ he
    cases he
    simp at hc
  have hups : readUps (c :: more).length (c :: more) = (0, c :: more) := by
    rw [List.length_cons, readUps]
    rintro tail he
    cases he
    exact (hdot rfl '.' rfl).1 rfl
  have hitem : readItem (c :: more) = none := by
    rw [readItem, hname]
    rintro _ he
    cases he
    simp at hc
  simp only [readReference, hthis, hhere, Option.getD_none, hroot, Option.bind_none, hups, hitem]

theorem skipWord_of_not_isNameChar (hn : isNameChar c = false) {word : String} {d : Char}
    {ds : List Char} (hw : word.toList = d :: ds) (hd : isNameChar d = true) (cs : List Char) :
    skipWord word (c :: cs) = none := by
  rw [skipWord, mark?_cons_of_ne hw (by rintro rfl; rw [hd] at hn; cases hn)]

theorem skipNumber_of_not_isDigit (hd : isDigit c = false) (hm : c ≠ '-') (cs : List Char) :
    skipNumber (c :: cs) = none := by
  rw [skipNumber, mark?_cons_of_ne (d := '-') rfl hm, Option.getD_none,
    List.takeWhile_cons_of_neg (by simp [hd])]
  exact if_pos rfl

theorem NoArgument.readArgument_eq (h : NoArgument cs) (fuel : Nat) :
    readArgument fuel cs = none := by
  have href := h.readReference_eq
  obtain ⟨c, more, rfl, hn, -, hc, -⟩ := h
  simp only [List.mem_cons, List.not_mem_nil, or_false, not_or] at hc
  cases fuel with
  | zero => rfl
  | succ fuel =>
    have hword : ∀ {word : String} {d ds}, word.toList = d :: ds → isNameChar d = true →
        skipWord word (c :: more) = none := fun hw hd => skipWord_of_not_isNameChar hn hw hd more
    have hdigit : isDigit c = false := by
      cases hd : isDigit c with
      | false => rfl
      | true => rw [isNameChar_of_isDigit hd] at hn; cases hn
    have hkey : atKeyword (c :: more) = false := by
      rw [atKeyword, hword (d := 'a') rfl (by decide), hword (d := 'e') rfl (by decide)]
      rfl
    have hlit : skipLiteral ((c :: more).length + 1) (c :: more) = none := by
      rw [skipLiteral]
      · rw [skipNumber_of_not_isDigit hdigit (by rintro rfl; cases hn),
          hword (d := 'n') rfl (by decide), hword (d := 't') rfl (by decide),
          hword (d := 'f') rfl (by decide)]
        rfl
      all_goals
        rintro _ he
        cases he
        simp at hc
    rw [readArgument, hkey, if_neg Bool.false_ne_true, hlit, href]
    rintro _ he
    cases he
    simp at hc

theorem NoArgument.readArguments_eq (h : NoArgument cs) (fuel : Nat) :
    readArguments fuel cs = ([], [], cs) := by
  cases fuel with
  | zero => rfl
  | succ fuel => rw [readArguments, h.skip_eq, h.readName_eq, h.readArgument_eq]

/-! ### Arguments -/

/-- A text that no argument goes on into and that does not turn a name before it into an option. -/
structure EndsArgument (rest : List Char) : Prop where
  path : EndsPath rest
  unnamed : mark? "=" (skip rest) = none

theorem endsArgument_close (rest : List Char) : EndsArgument ('\x7d' :: rest) :=
  ⟨endsPath_cons (by decide) rest, by
    rw [skip_cons (by decide), mark?_cons_of_ne (d := '=') rfl (by decide)]⟩

theorem endsArgument_blank (hb : isBlank c = false) (hc : c ≠ '=') (rest : List Char) :
    EndsArgument (' ' :: c :: rest) :=
  ⟨endsPath_cons (by decide) _, by
    rw [show skip (' ' :: c :: rest) = skip (c :: rest) from rfl, skip_cons hb,
      mark?_cons_of_ne (d := '=') rfl hc]⟩

/-- A text that is read as an argument, whatever follows it, or that cannot be read as one. -/
structure IsArgument (written : List Char) (a : Option Argument) : Prop where
  head : ∃ c cs, written = c :: cs ∧ isBlank c = false ∧ c ∉ ['=', '~', '\x7d']
  unnamed : ∀ rest, EndsArgument rest → ∀ name more,
    readName (written ++ rest) = some (name, more) → mark? "=" (skip more) = none
  reads : ∀ fuel rest, EndsArgument rest →
    readArgument (fuel + 1) (written ++ rest) = a.map fun a => (a, rest)

namespace IsArgument

variable {written : List Char} {a : Option Argument}

theorem skip_append (h : IsArgument written a) (rest : List Char) :
    skip (written ++ rest) = written ++ rest := by
  obtain ⟨c, cs, rfl, hb, -⟩ := h.head
  exact skip_cons hb _

theorem endsArgument_before (h : IsArgument written a) (rest : List Char) :
    EndsArgument (' ' :: (written ++ rest)) := by
  obtain ⟨c, cs, rfl, hb, hc⟩ := h.head
  exact endsArgument_blank hb (by rintro rfl; simp at hc) _

/-- Arguments are read one after the other. -/
theorem readArguments_eq (h : IsArgument written a) (hr : EndsArgument rest) :
    readArguments (fuel + 2) (' ' :: (written ++ rest)) =
      match a with
      | none => ([], [], ' ' :: (written ++ rest))
      | some a =>
        let (arguments, options, rest) := readArguments (fuel + 1) rest
        (a :: arguments, options, rest) := by
  have hskip : skip (' ' :: (written ++ rest)) = written ++ rest := h.skip_append rest
  have hread := h.reads fuel rest hr
  rw [readArguments]
  simp only [hskip, hread]
  cases hn : readName (written ++ rest) with
  | none => cases a <;> rfl
  | some r =>
    simp only [h.unnamed rest hr r.1 r.2 hn]
    cases a <;> rfl

end IsArgument

namespace PlainPath

variable (p : PlainPath)

theorem dotted_append (rest : List Char) : p.dotted ++ rest =
    p.head.chars ++ (p.items.flatMap PathItem.dotted ++ rest) := List.append_assoc _ _ _

theorem readName_dotted (hr : EndsName rest) : readName (p.dotted ++ rest) =
    some (p.head.text, p.items.flatMap PathItem.dotted ++ rest) := by
  rw [dotted_append]
  exact readName_append p.head.chars_ne_nil (fun c hc => p.head.isNameChar_of_mem hc)
    (PathItem.items_append_endsName p.items hr)

theorem skipWord_dotted {word : String} (hw : word ∈ keywords) (hr : EndsName rest) :
    skipWord word (p.dotted ++ rest) = none := by
  rw [dotted_append]
  exact skipWord_name (fun c hc => p.head.isNameChar_of_mem hc)
    (PathItem.items_append_endsName p.items hr)
    (fun c hc => (isNameChar_of_keyword word hw c hc).1) (p.head.chars_ne_of_keyword hw)

theorem skipLiteral_dotted (hr : EndsName rest) (fuel : Nat) :
    skipLiteral fuel (p.dotted ++ rest) = none := by
  cases fuel with
  | zero => rfl
  | succ fuel =>
    have hnull := p.skipWord_dotted (show "null" ∈ keywords by decide) hr
    have htrue := p.skipWord_dotted (show "true" ∈ keywords by decide) hr
    have hfalse := p.skipWord_dotted (show "false" ∈ keywords by decide) hr
    obtain ⟨c, cs, h, hn, -, hd, hm⟩ := p.exists_dotted_eq_cons
    rw [h, List.cons_append] at hnull htrue hfalse ⊢
    rw [skipLiteral, skipNumber_of_not_isDigit hd hm, hnull, htrue, hfalse]
    · rfl
    all_goals
      rintro _ he
      cases he
      cases hn

/-- A path is an argument: the reference to its names. -/
theorem isArgument_dotted : IsArgument p.dotted
    (some (.reference (p.parts 0) (String.ofList p.dotted))) where
  head := by
    obtain ⟨c, cs, h, hn, hb, -⟩ := p.exists_dotted_eq_cons
    refine ⟨c, cs, h, hb, fun hc => ?_⟩
    simp only [List.mem_cons, List.not_mem_nil, or_false] at hc
    rcases hc with rfl | rfl | rfl <;> cases hn
  unnamed rest hr name more hm := by
    rw [p.readName_dotted hr.path.endsName] at hm
    cases hm
    cases hi : p.items with
    | nil => exact hr.unnamed
    | cons i items =>
      rw [List.flatMap_cons, PathItem.dotted, List.cons_append, List.cons_append,
        skip_cons (by decide), mark?_cons_of_ne (d := '=') rfl (by decide)]
  reads fuel rest hr := by
    have hkey : atKeyword (p.dotted ++ rest) = false := by
      rw [atKeyword, p.skipWord_dotted (by decide) hr.path.endsName,
        p.skipWord_dotted (by decide) hr.path.endsName]
      rfl
    have href := p.readReference_reached 0 hr.path
    rw [show p.reached 0 = p.dotted from rfl] at href
    simp only [readArgument, hkey, p.skipLiteral_dotted hr.path.endsName, href]
    rfl

end PlainPath

/-! ### Texts in quotation marks -/

/-- What may stand between quotation marks as it is. -/
def isQuotable (content : List Char) : Bool :=
  content.all fun c => !(c == '"' || c == '\'' || c == '\\' || c == '\x7b' || c == '\x7d')

/-- The content of a text between quotation marks, single or double ones. -/
structure QuotedText where
  double : Bool
  content : List Char
  quotable : isQuotable content = true

namespace QuotedText

variable (q : QuotedText)

/-- A quoted text as it is written. -/
def written : List Char :=
  if q.double then '"' :: (q.content ++ ['"']) else '\'' :: (q.content ++ ['\''])

/-- A quoted text as the language of templates has it. -/
def doubled : List Char := '"' :: (q.content ++ ['"'])

theorem ne_of_mem {c : Char} (h : c ∈ q.content) :
    c ≠ '"' ∧ c ≠ '\'' ∧ c ≠ '\\' ∧ c ≠ '\x7b' ∧ c ≠ '\x7d' := by
  have hq := List.all_eq_true.1 q.quotable c h
  simp only [Bool.not_eq_true', Bool.or_eq_false_iff, beq_eq_false_iff_ne, ne_eq] at hq
  exact ⟨hq.1.1.1.1, hq.1.1.1.2, hq.1.1.2, hq.1.2, hq.2⟩

end QuotedText

theorem readQuotedFrom_plain {content : List Char} (h : ∀ c ∈ content, c ≠ '"' ∧ c ≠ '\\')
    (hf : content.length < fuel) (rest : List Char) :
    readQuotedFrom '"' fuel (content ++ '"' :: rest) = some (content, rest) := by
  induction content generalizing fuel with
  | nil =>
    obtain ⟨fuel, rfl⟩ : ∃ k, fuel = k + 1 := ⟨fuel - 1, by simp at hf; omega⟩
    rw [List.nil_append, readQuotedFrom, if_pos rfl]
    all_goals
      intros
      simp_all
  | cons c content ih =>
    obtain ⟨fuel, rfl⟩ : ∃ k, fuel = k + 1 := ⟨fuel - 1, by simp at hf; omega⟩
    obtain ⟨hq, hs⟩ := h c List.mem_cons_self
    rw [List.cons_append, readQuotedFrom, if_neg hq, if_neg hs,
      ih (fun d hd => h d (List.mem_cons_of_mem c hd)) (Nat.lt_of_succ_lt_succ hf)]
    · rfl
    all_goals
      intros
      simp_all

/-- A text is read up to its quotation mark, unless it holds a control character. -/
theorem readTextFrom_plain {content : List Char} (h : ∀ c ∈ content, c ≠ '"' ∧ c ≠ '\\')
    (hf : content.length < fuel) (done rest : List Char) :
    Json.readTextFrom fuel done (content ++ '"' :: rest) =
        .ok (String.ofList (done.reverse ++ content), rest) ∨
      ∃ fault, Json.readTextFrom fuel done (content ++ '"' :: rest) = .error fault := by
  induction content generalizing fuel done with
  | nil =>
    obtain ⟨fuel, rfl⟩ : ∃ k, fuel = k + 1 := ⟨fuel - 1, by simp at hf; omega⟩
    rw [List.append_nil]
    exact .inl rfl
  | cons c content ih =>
    obtain ⟨fuel, rfl⟩ : ∃ k, fuel = k + 1 := ⟨fuel - 1, by simp at hf; omega⟩
    obtain ⟨hq, hs⟩ := h c List.mem_cons_self
    rw [List.cons_append, Json.readTextFrom.eq_def]
    dsimp only
    rw [if_neg hq, if_neg hs]
    split
    · exact .inr ⟨_, rfl⟩
    · have := ih (fun d hd => h d (List.mem_cons_of_mem c hd)) (Nat.lt_of_succ_lt_succ hf) (c :: done)
      rwa [List.reverse_cons, List.append_assoc, List.singleton_append] at this

/-- Outside of single quotation marks a literal is read as it is written. -/
theorem literalValue?_cons (h : c ≠ '\'') (cs : List Char) :
    literalValue? (c :: cs) = (Json.parse (String.ofList (c :: cs))).toOption := by
  rw [literalValue?]
  · cases Json.parse (String.ofList (c :: cs)) <;> rfl
  · exact fun _ he => h (List.cons.inj he).1

/-- A quoted text denotes its content or nothing. -/
theorem literalValue?_quoted {content : List Char} (h : ∀ c ∈ content, c ≠ '"' ∧ c ≠ '\\') :
    literalValue? ('"' :: (content ++ ['"'])) = none ∨
      literalValue? ('"' :: (content ++ ['"'])) = some (.text (String.ofList content)) := by
  have hlen : content.length < (content ++ ['"']).length + 1 := by
    rw [List.length_append]
    omega
  have hpart : Json.readPart ('"' :: (content ++ ['"'])) =
      Json.ofStep ((Json.readText (content ++ ['"'])).map fun r => (.text r.1, r.2)) := rfl
  have hvalue := literalValue?_cons (c := '"') (by decide) (content ++ ['"'])
  rcases readTextFrom_plain h hlen [] [] with hok | ⟨fault, herr⟩
  · right
    rw [hvalue, Json.parse, Json.read, String.toList_ofList, hpart, Json.readText, hok]
    rfl
  · left
    rw [hvalue, Json.parse, Json.read, String.toList_ofList, hpart, Json.readText, herr]
    rfl

/-- What is skipped as a literal is read as what it denotes. -/
theorem readArgument_literal {written : List Char} (hk : atKeyword (written ++ rest) = false)
    (hs : skipLiteral ((written ++ rest).length + 1) (written ++ rest) = some rest) :
    readArgument (fuel + 1) (written ++ rest) =
      ((literalValue? written).map Argument.literal).map fun a => (a, rest) := by
  have ht : (written ++ rest).take ((written ++ rest).length - rest.length) = written := by
    rw [List.length_append, Nat.add_sub_cancel, List.take_left]
  simp only [readArgument, hk, hs, ht, Option.map_map]
  rfl

/-- A quoted text is an argument: its content, unless it denotes nothing. -/
theorem QuotedText.isArgument (q : QuotedText) :
    IsArgument q.doubled ((literalValue? q.doubled).map .literal) where
  head := ⟨_, _, rfl, by decide, by decide⟩
  unnamed rest hr name more hm := by
    have hnone : readName (q.doubled ++ rest) = none :=
      readName_of_endsName (endsName_cons (by decide) _)
    rw [hnone] at hm
    cases hm
  reads fuel rest hr := by
    have hword : ∀ {word : String} {d ds}, word.toList = d :: ds → isNameChar d = true →
        skipWord word (q.doubled ++ rest) = none := fun hw hd =>
      skipWord_of_not_isNameChar (by decide) hw hd _
    refine readArgument_literal ?_ ?_
    · rw [atKeyword, hword (d := 'a') rfl (by decide), hword (d := 'e') rfl (by decide)]
      rfl
    · have happ : q.doubled ++ rest = '"' :: (q.content ++ '"' :: rest) := by simp [doubled]
      have hf : q.content.length < (q.content ++ '"' :: rest).length + 1 := by
        rw [List.length_append]
        omega
      rw [happ]
      show (readQuotedFrom '"' ((q.content ++ '"' :: rest).length + 1) _).map (·.2) = some rest
      rw [readQuotedFrom_plain (fun c hc => ⟨(q.ne_of_mem hc).1, (q.ne_of_mem hc).2.2.1⟩) hf]
      rfl

/-! ### Literals without quotation marks -/

/-- The exponent at the end of a number. -/
structure Exponent where
  negative : Bool
  digits : Digits

/-- A literal that stands without quotation marks: a number, a truth value or null. -/
inductive BareLiteral where
  | number (negative : Bool) (whole : Digits) (fraction : Option Digits) (exponent : Option Exponent)
  | truth (b : Bool)
  | null

/-- A sign before digits. -/
def signChars (negative : Bool) : List Char := if negative then ['-'] else []

/-- A fraction as it is written. -/
def fractionChars (fraction : Option Digits) : List Char :=
  (fraction.map fun d => '.' :: d.chars).getD []

/-- An exponent as it is written. -/
def exponentChars (exponent : Option Exponent) : List Char :=
  (exponent.map fun e => 'E' :: (signChars e.negative ++ e.digits.chars)).getD []

/-- A literal as it is written. -/
def BareLiteral.written : BareLiteral → List Char
  | number negative whole fraction exponent =>
    signChars negative ++ (whole.chars ++ (fractionChars fraction ++ exponentChars exponent))
  | truth b => (if b then "true" else "false").toList
  | null => "null".toList

/-- A text that no digits go on into. -/
def EndsDigits (rest : List Char) : Prop := ∀ c ∈ rest.head?, isDigit c = false

theorem EndsName.endsDigits (h : EndsName rest) : EndsDigits rest := by
  intro c hc
  cases hd : isDigit c with
  | false => rfl
  | true => exact (isNameChar_of_isDigit hd).symm.trans (h c hc)

theorem takeWhile_digits (d : Digits) (hr : EndsDigits rest) :
    (d.chars ++ rest).takeWhile isDigit = d.chars ∧ (d.chars ++ rest).dropWhile isDigit = rest := by
  have hrest : rest.takeWhile isDigit = [] ∧ rest.dropWhile isDigit = rest := by
    cases rest with
    | nil => exact ⟨rfl, rfl⟩
    | cons c rest =>
      have hc : ¬isDigit c = true := by simp [hr c rfl]
      exact ⟨List.takeWhile_cons_of_neg hc, List.dropWhile_cons_of_neg hc⟩
  have hd : ∀ c ∈ d.chars, isDigit c = true := fun c hc => d.isDigit_of_mem hc
  rw [List.takeWhile_append_of_pos hd, List.dropWhile_append_of_pos hd, hrest.1, hrest.2,
    List.append_nil]
  exact ⟨rfl, rfl⟩

theorem getD_sign (negative : Bool) (d : Digits) (rest : List Char) :
    (mark? "-" (signChars negative ++ (d.chars ++ rest))).getD
      (signChars negative ++ (d.chars ++ rest)) = d.chars ++ rest := by
  cases negative with
  | true => rfl
  | false =>
    show (mark? "-" (d.chars ++ rest)).getD (d.chars ++ rest) = d.chars ++ rest
    cases h : d.chars with
    | nil => exact absurd h d.chars_ne_nil
    | cons c cs =>
      have hm : c ≠ '-' := by
        rintro rfl
        cases d.isDigit_of_mem (show '-' ∈ d.chars by simp [h])
      rw [List.cons_append, mark?_cons_of_ne (d := '-') rfl hm, Option.getD_none]

/-- What is left of a number after its fraction. -/
theorem dropWhile_fraction (fraction : Option Digits) (hd : EndsDigits rest)
    (hp : ∀ c ∈ rest.head?, c ≠ '.') :
    ((mark? "." (fractionChars fraction ++ rest)).getD
      (fractionChars fraction ++ rest)).dropWhile isDigit = rest := by
  cases fraction with
  | some d => exact (takeWhile_digits d hd).2
  | none =>
    cases rest with
    | nil => rfl
    | cons c rest =>
      show ((mark? "." (c :: rest)).getD (c :: rest)).dropWhile isDigit = c :: rest
      rw [mark?_cons_of_ne (d := '.') rfl (hp c rfl)]
      exact List.dropWhile_cons_of_neg (by simp [hd c rfl])

theorem skipNumber_number (negative : Bool) (whole : Digits) (fraction : Option Digits)
    (exponent : Option Exponent) (hr : EndsPath rest) :
    skipNumber ((BareLiteral.number negative whole fraction exponent).written ++ rest) =
      some rest := by
  have hexp : ∀ c ∈ (exponentChars exponent ++ rest).head?, isDigit c = false ∧ c ≠ '.' := by
    cases exponent with
    | none => exact fun c hc => ⟨hr.endsName.endsDigits c hc, (hr c hc).2.1⟩
    | some e =>
      rintro _ ⟨⟩
      decide
  have hfrac : EndsDigits (fractionChars fraction ++ (exponentChars exponent ++ rest)) := by
    cases fraction with
    | none => exact fun c hc => (hexp c hc).1
    | some d =>
      rintro _ ⟨⟩
      rfl
  obtain ⟨htake, hdrop⟩ := takeWhile_digits whole hfrac
  have happ : (BareLiteral.number negative whole fraction exponent).written ++ rest =
      signChars negative ++ (whole.chars ++ (fractionChars fraction ++
        (exponentChars exponent ++ rest))) := by
    rw [BareLiteral.written]
    simp only [List.append_assoc]
  rw [skipNumber, happ]
  simp only [getD_sign, htake, if_neg whole.chars_ne_nil, hdrop,
    dropWhile_fraction fraction (fun c hc => (hexp c hc).1) fun c hc => (hexp c hc).2]
  cases exponent with
  | none =>
    cases rest with
    | nil => rfl
    | cons c rest =>
      obtain ⟨hn, -⟩ := hr c rfl
      have hne : c ≠ 'E' := by
        rintro rfl
        cases hn
      rw [show exponentChars none ++ c :: rest = c :: rest from rfl]
      simp [hne, hn]
  | some e =>
    obtain ⟨htake, hdrop⟩ := takeWhile_digits e.digits hr.endsName.endsDigits
    have happ : exponentChars (some e) ++ rest =
        'E' :: (signChars e.negative ++ (e.digits.chars ++ rest)) := by
      rw [← List.append_assoc]
      rfl
    rw [happ]
    simp only [getD_sign, htake, hdrop, if_neg e.digits.chars_ne_nil]
    cases rest with
    | nil => rfl
    | cons c rest => exact if_neg (by simp [(hr c rfl).1])

theorem skipWord_self (word : String) (hr : EndsName rest) :
    skipWord word (word.toList ++ rest) = some rest := by
  have hm : mark? word (word.toList ++ rest) = some rest := after?_eq_some.2 rfl
  cases rest with
  | nil => rw [skipWord, hm]
  | cons c rest => rw [skipWord, hm]; exact if_neg (by simp [hr c rfl])

theorem skipWord_of_ne {word : String} {d : Char} {ds : List Char} (hw : word.toList = d :: ds)
    (h : c ≠ d) (cs : List Char) : skipWord word (c :: cs) = none := by
  rw [skipWord, mark?_cons_of_ne hw h]

theorem isNameChar_of_mem_sign {negative : Bool} (h : c ∈ signChars negative) :
    isNameChar c = true := by
  cases negative with
  | true => rw [List.mem_singleton.1 h]; decide
  | false => cases h

theorem isNameChar_of_mem_exponent (exponent : Option Exponent) (h : c ∈ exponentChars exponent) :
    isNameChar c = true := by
  cases exponent with
  | none => cases h
  | some e =>
    rcases List.mem_cons.1 h with rfl | h
    · decide
    rcases List.mem_append.1 h with h | h
    · exact isNameChar_of_mem_sign h
    · exact isNameChar_of_isDigit (e.digits.isDigit_of_mem h)

namespace BareLiteral

/-- The characters of a literal are those of names, the point apart, and none is blank. -/
theorem isLiteralChar_of_mem (l : BareLiteral) (h : c ∈ l.written) :
    (isNameChar c = true ∨ c = '.') ∧ isBlank c = false := by
  have hdigits : ∀ d : Digits, c ∈ d.chars → (isNameChar c = true ∨ c = '.') ∧ isBlank c = false :=
    fun d h => ⟨.inl (isNameChar_of_isDigit (d.isDigit_of_mem h)),
      not_isBlank_of_isDigit (d.isDigit_of_mem h)⟩
  have hsign : ∀ negative, c ∈ signChars negative → (isNameChar c = true ∨ c = '.') ∧
      isBlank c = false := by
    intro negative h
    cases negative with
    | true => rw [List.mem_singleton.1 h]; decide
    | false => cases h
  have hword : ∀ word ∈ keywords, c ∈ word.toList →
      (isNameChar c = true ∨ c = '.') ∧ isBlank c = false := fun word hw h =>
    (isNameChar_of_keyword word hw c h).imp_left .inl
  match l with
  | number negative whole fraction exponent =>
    simp only [written, List.mem_append] at h
    rcases h with h | h | h | h
    · exact hsign negative h
    · exact hdigits whole h
    · cases fraction with
      | none => cases h
      | some d =>
        rcases List.mem_cons.1 h with rfl | h
        · decide
        · exact hdigits d h
    · cases exponent with
      | none => cases h
      | some e =>
        rcases List.mem_cons.1 h with rfl | h
        · decide
        · exact (List.mem_append.1 h).elim (hsign e.negative) (hdigits e.digits)
  | truth true => exact hword "true" (by decide) h
  | truth false => exact hword "false" (by decide) h
  | null => exact hword "null" (by decide) h

/-- How a literal begins. -/
theorem exists_cons (l : BareLiteral) : ∃ c cs, l.written = c :: cs ∧
    (isDigit c = true ∨ c = '-' ∨ c = 't' ∨ c = 'f' ∨ c = 'n') := by
  match l with
  | number true whole fraction exponent => exact ⟨_, _, rfl, .inr (.inl rfl)⟩
  | number false whole fraction exponent =>
    cases hw : whole.chars with
    | nil => exact absurd hw whole.chars_ne_nil
    | cons c cs =>
      refine ⟨c, cs ++ (fractionChars fraction ++ exponentChars exponent), ?_,
        .inl (whole.isDigit_of_mem (by simp [hw]))⟩
      show whole.chars ++ _ = _
      rw [hw]
      rfl
  | truth true => exact ⟨_, _, rfl, .inr (.inr (.inl rfl))⟩
  | truth false => exact ⟨_, _, rfl, .inr (.inr (.inr (.inl rfl)))⟩
  | null => exact ⟨_, _, rfl, .inr (.inr (.inr (.inr rfl)))⟩

theorem skipLiteral_written (l : BareLiteral) (hr : EndsPath rest) (fuel : Nat) :
    skipLiteral (fuel + 1) (l.written ++ rest) = some rest := by
  have hskip : ((skipNumber (l.written ++ rest)).or (skipWord "null" (l.written ++ rest))).or
      ((skipWord "true" (l.written ++ rest)).or (skipWord "false" (l.written ++ rest))) =
        some rest := by
    match l with
    | number negative whole fraction exponent =>
      rw [skipNumber_number negative whole fraction exponent hr]
      rfl
    | truth true =>
      rw [show (truth true).written = "true".toList from rfl, skipWord_self "true" hr.endsName]
      rfl
    | truth false =>
      rw [show (truth false).written = "false".toList from rfl, skipWord_self "false" hr.endsName]
      rfl
    | null =>
      rw [show null.written = "null".toList from rfl, skipWord_self "null" hr.endsName]
      rfl
  obtain ⟨c, cs, h, hc⟩ := l.exists_cons
  rw [h, List.cons_append] at hskip ⊢
  rw [skipLiteral, hskip]
  all_goals
    rintro _ he
    cases he
    rcases hc with hc | hc | hc | hc | hc <;> cases hc

/-- What is read as a name at the front of a literal is no name of an option. -/
theorem unnamed (l : BareLiteral) (hr : EndsArgument rest) {name : String} {more : List Char}
    (hm : readName (l.written ++ rest) = some (name, more)) : mark? "=" (skip more) = none := by
  have hword : ∀ cs tail, cs ≠ [] → (∀ c ∈ cs, isNameChar c = true) → EndsName tail →
      mark? "=" (skip tail) = none → readName (cs ++ tail) = some (name, more) →
        mark? "=" (skip more) = none := by
    intro cs tail hne hcs ht hu hm
    rw [readName_append hne hcs ht] at hm
    cases hm
    exact hu
  have hkeyword : ∀ word ∈ keywords, readName (word.toList ++ rest) = some (name, more) →
      mark? "=" (skip more) = none := by
    intro word hw hm
    have hne : ∀ word ∈ keywords, word.toList ≠ [] := by decide
    exact hword word.toList rest (hne word hw) (fun c hc => (isNameChar_of_keyword word hw c hc).1)
      hr.path.endsName hr.unnamed hm
  match l with
  | number negative whole fraction exponent =>
    have hhead : ∀ c ∈ signChars negative ++ whole.chars, isNameChar c = true := by
      intro c hc
      rcases List.mem_append.1 hc with hc | hc
      · exact isNameChar_of_mem_sign hc
      · exact isNameChar_of_isDigit (whole.isDigit_of_mem hc)
    rw [written, ← List.append_assoc, List.append_assoc] at hm
    cases fraction with
    | none =>
      -- the exponent goes on the name
      rw [show fractionChars none = [] from rfl, List.nil_append, ← List.append_assoc] at hm
      refine hword _ rest (by simp [whole.chars_ne_nil]) ?_ hr.path.endsName hr.unnamed hm
      intro c hc
      exact (List.mem_append.1 hc).elim (hhead c) (isNameChar_of_mem_exponent exponent)
    | some d =>
      refine hword _ _ (by simp [whole.chars_ne_nil]) hhead (endsName_cons (by decide) _) ?_ hm
      show mark? "=" (skip ('.' :: _)) = none
      rw [skip_cons (by decide), mark?_cons_of_ne (d := '=') rfl (by decide)]
  | truth true => exact hkeyword "true" (by decide) hm
  | truth false => exact hkeyword "false" (by decide) hm
  | null => exact hkeyword "null" (by decide) hm

/-- A literal without quotation marks is an argument when it denotes a value. -/
theorem isArgument (l : BareLiteral) :
    IsArgument l.written ((literalValue? l.written).map .literal) where
  head := by
    obtain ⟨c, cs, h, hc⟩ := l.exists_cons
    refine ⟨c, cs, h, ?_, ?_⟩
    · rcases hc with hc | rfl | rfl | rfl | rfl
      · exact not_isBlank_of_isDigit hc
      all_goals decide
    · rcases hc with hc | rfl | rfl | rfl | rfl
      · rintro hm
        simp only [List.mem_cons, List.not_mem_nil, or_false] at hm
        rcases hm with rfl | rfl | rfl <;> cases hc
      all_goals decide
  unnamed rest hr name more hm := l.unnamed hr hm
  reads fuel rest hr := by
    refine readArgument_literal ?_ (l.skipLiteral_written hr.path _)
    obtain ⟨c, cs, h, hc⟩ := l.exists_cons
    have hne : c ≠ 'a' ∧ c ≠ 'e' := by
      constructor <;> rintro rfl <;> rcases hc with hc | hc | hc | hc | hc <;> cases hc
    rw [h, List.cons_append, atKeyword, skipWord_of_ne (d := 'a') rfl hne.1,
      skipWord_of_ne (d := 'e') rfl hne.2]
    rfl

end BareLiteral

/-! ### Tags of values -/

theorem readEnd_close (rest : List Char) :
    readEnd "\x7d\x7d" ('\x7d' :: '\x7d' :: rest) = some (false, rest) := rfl

/-- No tag ends before an argument. -/
theorem IsArgument.readEnd_eq {written : List Char} {a : Option Argument} (h : IsArgument written a)
    (rest : List Char) : readEnd "\x7d\x7d" (' ' :: (written ++ rest)) = none := by
  obtain ⟨c, cs, rfl, hb, hc⟩ := h.head
  have hskip : skip (' ' :: (c :: cs ++ rest)) = c :: (cs ++ rest) := skip_cons hb _
  have hwave : readWave (' ' :: (c :: cs ++ rest)) = (false, ' ' :: (c :: cs ++ rest)) := by
    rw [readWave, hskip]
    split
    · rename_i he
      cases he
      simp at hc
    · rfl
  rw [readEnd, hwave]
  dsimp only
  rw [hskip, mark?_cons_of_ne (d := '\x7d') rfl (by rintro rfl; simp at hc)]
  rfl

namespace PlainPath

variable (p : PlainPath)

/-- The reference to a path that is sought so many blocks outward. -/
def reference (k : Nat) : Argument :=
  .reference (p.parts k) (String.ofList (p.reached k))

/-- Behind a name, the items of a path are no arguments. -/
theorem noArgument_items (rest : List Char) :
    NoArgument (p.items.flatMap PathItem.dotted ++ '\x7d' :: rest) := by
  cases p.items with
  | nil => exact noArgument_close rest
  | cons i items =>
    refine ⟨'.', i.bare ++ (items.flatMap PathItem.dotted ++ '\x7d' :: rest), ?_, by decide,
      by decide, by decide, fun _ d hd => ?_⟩
    · rw [List.flatMap_cons, List.append_assoc]
      rfl
    have hbare : ∀ c ∈ i.bare.head?, isNameChar c = true ∨ c = '[' := by
      intro c hc
      match i with
      | .name n => exact .inl (n.isNameChar_of_mem (List.mem_of_mem_head? hc))
      | .index false d =>
        exact .inl (isNameChar_of_isDigit (d.isDigit_of_mem (List.mem_of_mem_head? hc)))
      | .index true d =>
        cases hc
        exact .inr rfl
    have hne : i.bare ≠ [] := by
      match i with
      | .name n => exact n.chars_ne_nil
      | .index false d => exact d.chars_ne_nil
      | .index true d => exact List.cons_ne_nil _ _
    cases hb : i.bare with
    | nil => exact absurd hb hne
    | cons c cs =>
      rw [hb] at hd hbare
      cases hd
      rcases hbare d rfl with hn | rfl
      · constructor <;> rintro rfl <;> cases hn
      · decide

theorem reached_ne_paren (k : Nat) (rest tail : List Char) : p.reached k ++ rest ≠ '(' :: tail := by
  cases k with
  | succ k => rw [p.reached_succ]; exact fun h => by cases h
  | zero =>
    obtain ⟨c, cs, h, hn, -⟩ := p.exists_dotted_eq_cons
    intro he
    rw [show p.reached 0 = c :: cs from h] at he
    cases he
    cases hn

/-- A path stands alone at the head of a tag. -/
theorem readHead_reached (k fuel : Nat) (rest : List Char) :
    readHead (fuel + 1) (p.reached k ++ '\x7d' :: rest) =
      some (p.reference k, [], [], '\x7d' :: rest) := by
  have href : readReference (p.reached k ++ '\x7d' :: rest) =
      some (p.reference k, '\x7d' :: rest) :=
    p.readReference_reached k (endsPath_cons (by decide) rest)
  have hparen := p.reached_ne_paren k ('\x7d' :: rest)
  have hname : readName (p.reached k ++ '\x7d' :: rest) = none ∨
      ∃ name more, readName (p.reached k ++ '\x7d' :: rest) = some (name, more) ∧
        NoArgument more := by
    cases k with
    | succ k =>
      left
      rw [p.reached_succ]
      exact readName_of_endsName (endsName_cons (by decide) _)
    | zero =>
      exact .inr ⟨_, _, p.readName_dotted (endsName_cons (by decide) rest), p.noArgument_items rest⟩
  rcases hname with hname | ⟨name, more, hname, hmore⟩
  · simp only [readHead, hname, href]
    rfl
  · simp only [readHead, hname, hmore.readArguments_eq, href]
    rfl

end PlainPath

/-- The expression of a path alone. -/
def pathExpression (p : PlainPath) (k : Nat) : Expression := ⟨p.reference k, [], [], [], false, false⟩

/-- A tag with a path is read as a value. -/
theorem readValue_reached (p : PlainPath) (k : Nat) (rest : List Char) :
    readValue false (readEnd "\x7d\x7d") (p.reached k ++ '\x7d' :: '\x7d' :: rest) =
      some (.value (pathExpression p k), rest) := by
  have hskip : skip (p.reached k ++ '\x7d' :: '\x7d' :: rest) =
      p.reached k ++ '\x7d' :: '\x7d' :: rest := by
    cases k with
    | succ k => rw [p.reached_succ]; exact skip_cons (by decide) _
    | zero =>
      obtain ⟨c, cs, h, -, hb, -⟩ := p.exists_dotted_eq_cons
      rw [show p.reached 0 = c :: cs from h]
      exact skip_cons hb _
  rw [readValue, hskip]
  simp only [p.readHead_reached, readEnd_close]
  rfl

/-- A helper with two arguments is read as a value when both are read, and else not at all. -/
theorem readValue_call {written fallback : List Char} {a : Argument} {f : Option Argument}
    (ha : IsArgument written (some a)) (hf : IsArgument fallback f) (rest : List Char) :
    readValue false (readEnd "\x7d\x7d")
        ("default".toList ++ ' ' :: (written ++ ' ' :: (fallback ++ '\x7d' :: '\x7d' :: rest))) =
      f.map fun f => (.value ⟨.name "default", [a, f], [], [], false, false⟩, rest) := by
  let tail := '\x7d' :: '\x7d' :: rest
  let cs := "default".toList ++ ' ' :: (written ++ ' ' :: (fallback ++ tail))
  have hname : readName cs = some ("default", ' ' :: (written ++ ' ' :: (fallback ++ tail))) :=
    readName_append (by decide) (List.all_eq_true.1 (by decide)) (endsName_cons (by decide) _)
  have hlast (n : Nat) : readArguments (n + 2) (' ' :: (fallback ++ tail)) =
      match f with
      | none => ([], [], ' ' :: (fallback ++ tail))
      | some f => ([f], [], tail) := by
    rw [hf.readArguments_eq (endsArgument_close _), (noArgument_close _).readArguments_eq]
  have hboth (n : Nat) : readArguments (n + 3) (' ' :: (written ++ ' ' :: (fallback ++ tail))) =
      match f with
      | none => ([a], [], ' ' :: (fallback ++ tail))
      | some f => ([a, f], [], tail) := by
    rw [ha.readArguments_eq (hf.endsArgument_before _), hlast]
    cases f <;> rfl
  obtain ⟨n, hn⟩ : ∃ n, 2 * cs.length + 2 = n + 4 :=
    ⟨2 * cs.length - 2, by simp only [cs, List.length_append, List.length_cons]; omega⟩
  show readValue false (readEnd "\x7d\x7d") cs = _
  rw [readValue, show skip cs = cs from rfl, hn]
  cases f with
  | none =>
    simp only [readHead, hname, hboth, hf.readEnd_eq]
    rfl
  | some f =>
    simp only [readHead, hname, hboth]
    rfl

/-! ### What else a tag may be -/

/-- What begins as no mark of a tag does. -/
structure BeginsPlain (c : Char) : Prop where
  visible : isBlank c = false
  plain : c ∉ ['~', '^', '\x7b', '&', '#', '!', '*', '>', '/']

theorem beginsPlain_of_isNameChar (hb : isBlank c = false) (hn : isNameChar c = true) :
    BeginsPlain c := ⟨hb, fun hm => by
  simp only [List.mem_cons, List.not_mem_nil, or_false] at hm
  rcases hm with rfl | rfl | rfl | rfl | rfl | rfl | rfl | rfl | rfl <;> cases hn⟩

theorem readWave_cons (hb : isBlank c = false) (hc : c ≠ '~') (cs : List Char) :
    readWave (c :: cs) = (false, c :: cs) := by
  rw [readWave, skip_cons hb]
  split
  · rename_i he
    exact absurd (List.cons.inj he).1 hc
  · rfl

/-- Whether a tag begins the other case of a block. -/
def Tag.turns : Tag → Bool
  | .otherwise _ _ | .otherwiseIf _ => true
  | _ => false

namespace BeginsPlain

variable (h : BeginsPlain c)

include h

theorem ne {d : Char} (hd : d ∈ ['~', '^', '\x7b', '&', '#', '!', '*', '>', '/']) : c ≠ d :=
  fun he => h.plain (he ▸ hd)

theorem readWave_eq (cs : List Char) : readWave (c :: cs) = (false, c :: cs) :=
  readWave_cons h.visible (h.ne (by decide)) cs

theorem mark?_eq {m : String} {d : Char} {ds : List Char} (hm : m.toList = d :: ds)
    (hd : d ∈ ['~', '^', '\x7b', '&', '#', '!', '*', '>', '/']) (cs : List Char) :
    mark? m (c :: cs) = none := mark?_cons_of_ne hm (h.ne hd) cs

/-- Nothing but the other case of a block and values begins so. -/
theorem readOthers_eq (cs : List Char) :
    let tag := '\x7b' :: '\x7b' :: c :: cs
    (readUnescaped tag).or ((readOpening tag).or ((readVerbatim tag).or
      ((readComment tag).or ((readForeign tag).or (readClosing tag))))) = none := by
  have hopen : mark? "\x7b\x7b" ('\x7b' :: '\x7b' :: c :: cs) = some (c :: cs) := rfl
  have hbrace := h.mark?_eq (m := "\x7b") (d := '\x7b') rfl (by decide) cs
  have htriple : mark? "\x7b\x7b\x7b" ('\x7b' :: '\x7b' :: c :: cs) = none := hbrace
  have hquadruple : mark? "\x7b\x7b\x7b\x7b" ('\x7b' :: '\x7b' :: c :: cs) = none :=
    h.mark?_eq (m := "\x7b\x7b") (d := '\x7b') rfl (by decide) cs
  have hand := h.mark?_eq (m := "&") (d := '&') rfl (by decide) cs
  have hhash := h.mark?_eq (m := "#") (d := '#') rfl (by decide) cs
  have hbang := h.mark?_eq (m := "!") (d := '!') rfl (by decide) cs
  have hslash := h.mark?_eq (m := "/") (d := '/') rfl (by decide) cs
  have hforeign : readForeign ('\x7b' :: '\x7b' :: c :: cs) = none := by
    simp only [readForeign, hopen, h.readWave_eq, skip_cons h.visible, Option.bind_eq_bind,
      Option.bind_some]
    split
    · rename_i he
      exact absurd (List.cons.inj he).1 (h.ne (by decide))
    · rename_i he
      exact absurd (List.cons.inj he).1 (h.ne (by decide))
    · rfl
  simp [readUnescaped, readOpening, readVerbatim, readComment, readClosing, hopen, htriple,
    hquadruple, hforeign, h.readWave_eq, skip_cons h.visible, hbrace, hand, hhash, hbang, hslash]

omit h in
theorem turns_of_readOtherwise {tag : List Char} {r : Tag × List Char}
    (hr : readOtherwise tag = some r) : r.1.turns = true := by
  simp only [readOtherwise, Option.bind_eq_bind, Option.bind_eq_some_iff] at hr
  obtain ⟨_, -, _, -, _, -, he⟩ := hr
  cases he
  rfl

omit h in
theorem turns_of_readOtherwiseIf {tag : List Char} {r : Tag × List Char}
    (hr : readOtherwiseIf tag = some r) : r.1.turns = true := by
  simp only [readOtherwiseIf, Option.bind_eq_bind, Option.bind_eq_some_iff] at hr
  obtain ⟨_, -, _, -, _, -, _, -, he⟩ := hr
  cases he
  rfl

/-- A tag is read as a value when it is not read as the other case of a block. -/
theorem readTag_of_not_otherwise {cs : List Char}
    (ho : readOtherwise ('\x7b' :: '\x7b' :: c :: cs) = none)
    (hi : readOtherwiseIf ('\x7b' :: '\x7b' :: c :: cs) = none) :
    readTag ('\x7b' :: '\x7b' :: c :: cs) = readValue false (readEnd "\x7d\x7d") (c :: cs) := by
  have hopen : mark? "\x7b\x7b" ('\x7b' :: '\x7b' :: c :: cs) = some (c :: cs) := rfl
  simp only [readTag, ho, hi, hopen, h.readWave_eq, Option.bind_eq_bind, Option.bind_some,
    h.readOthers_eq, Option.or_none]

/-- Behind its opening braces, a tag is read as the other case of a block, as a value or as nothing. -/
theorem readTag_cases (cs : List Char) :
    (∃ r, readTag ('\x7b' :: '\x7b' :: c :: cs) = some r ∧ r.1.turns = true) ∨
      readTag ('\x7b' :: '\x7b' :: c :: cs) =
        readValue false (readEnd "\x7d\x7d") (c :: cs) := by
  cases ho : readOtherwise ('\x7b' :: '\x7b' :: c :: cs) with
  | some r => exact .inl ⟨r, by rw [readTag, ho], turns_of_readOtherwise ho⟩
  | none =>
    cases hi : readOtherwiseIf ('\x7b' :: '\x7b' :: c :: cs) with
    | some r => exact .inl ⟨r, by simp only [readTag, ho, hi], turns_of_readOtherwiseIf hi⟩
    | none => exact .inr (h.readTag_of_not_otherwise ho hi)

/-- Without the word for the other case, a tag is read as a value or as nothing. -/
theorem readTag_eq {cs : List Char} (he : mark? "else" (c :: cs) = none) :
    readTag ('\x7b' :: '\x7b' :: c :: cs) = readValue false (readEnd "\x7d\x7d") (c :: cs) := by
  have hopen : mark? "\x7b\x7b" ('\x7b' :: '\x7b' :: c :: cs) = some (c :: cs) := rfl
  have hcaret := h.mark?_eq (m := "^") (d := '^') rfl (by decide) cs
  refine h.readTag_of_not_otherwise ?_ ?_
  · simp only [readOtherwise, hopen, h.readWave_eq, skip_cons h.visible, he, hcaret,
      Option.bind_eq_bind, Option.bind_some, Option.or_none, Option.bind_none]
  · simp only [readOtherwiseIf, hopen, h.readWave_eq, skip_cons h.visible, he, hcaret,
      Option.bind_eq_bind, Option.bind_some, Option.or_none, Option.bind_none]

end BeginsPlain

/-! ### Tags of repeated blocks -/

theorem PlainPath.beginsPlain_dotted (p : PlainPath) (rest : List Char) :
    ∃ c cs, p.dotted ++ rest = c :: cs ∧ BeginsPlain c := by
  obtain ⟨c, cs, h, hn, hb, -⟩ := p.exists_dotted_eq_cons
  exact ⟨c, cs ++ rest, by rw [h, List.cons_append], beginsPlain_of_isNameChar hb hn⟩

/-- A path of a token is read as a value, when it does not begin as the other case of a block does. -/
theorem readTag_reached {p : PlainPath} (hp : begins "else".toList p.head.chars = false) (k : Nat)
    (rest : List Char) : readTag ('\x7b' :: '\x7b' :: (p.reached k ++ '\x7d' :: '\x7d' :: rest)) =
      some (.value (pathExpression p k), rest) := by
  have hplain : ∃ c cs, p.reached k ++ '\x7d' :: '\x7d' :: rest = c :: cs ∧ BeginsPlain c := by
    cases k with
    | zero => exact p.beginsPlain_dotted _
    | succ k => exact ⟨'.', _, by rw [p.reached_succ]; rfl, ⟨by decide, by decide⟩⟩
  have helse : mark? "else" (p.reached k ++ '\x7d' :: '\x7d' :: rest) = none := by
    cases k with
    | succ k =>
      rw [p.reached_succ]
      exact mark?_cons_of_ne (d := 'e') rfl (by decide) _
    | zero =>
      cases hm : mark? "else" (p.reached 0 ++ '\x7d' :: '\x7d' :: rest) with
      | none => rfl
      | some more =>
        rw [show p.reached 0 = p.dotted from rfl, p.dotted_append] at hm
        obtain ⟨tail, htail, -⟩ := exists_of_after?_name
          (fun c hc => (isNameChar_of_keyword "else" (by decide) c hc).1)
          (PathItem.items_append_endsName p.items (endsName_cons (by decide) _)) hm
        rw [begins, after?_eq_some.2 htail] at hp
        cases hp
  have hread := readValue_reached p k rest
  obtain ⟨c, cs, hcons, hc⟩ := hplain
  rw [hcons] at helse hread ⊢
  rw [hc.readTag_eq helse, hread]

/-- What begins with a mark of blocks is no value and no other case. -/
theorem readTag_mark (hc : c = '#' ∨ c = '/') (cs : List Char) :
    let tag := '\x7b' :: '\x7b' :: c :: cs
    readTag tag = (readOpening tag).or ((readVerbatim tag).or ((readComment tag).or
      ((readForeign tag).or (readClosing tag)))) := by
  have hopen : mark? "\x7b\x7b" ('\x7b' :: '\x7b' :: c :: cs) = some (c :: cs) := rfl
  have hblank : isBlank c = false := by rcases hc with rfl | rfl <;> decide
  have hno : NoArgument (c :: cs) :=
    ⟨c, cs, rfl, by rcases hc with rfl | rfl <;> decide, hblank,
      by rcases hc with rfl | rfl <;> decide, by rcases hc with rfl | rfl <;> exact fun h => nomatch h⟩
  have hwave : readWave (c :: cs) = (false, c :: cs) :=
    readWave_cons hblank (by rcases hc with rfl | rfl <;> decide) cs
  have hmark : ∀ {m : String} {d ds}, m.toList = d :: ds → d ≠ '#' → d ≠ '/' →
      mark? m (c :: cs) = none := by
    intro m d ds hm hh hs
    refine mark?_cons_of_ne hm ?_ cs
    rcases hc with rfl | rfl
    · exact hh.symm
    · exact hs.symm
  have helse := hmark (m := "else") (d := 'e') rfl (by decide) (by decide)
  have hcaret := hmark (m := "^") (d := '^') rfl (by decide) (by decide)
  have hbrace := hmark (m := "\x7b") (d := '\x7b') rfl (by decide) (by decide)
  have htriple : mark? "\x7b\x7b\x7b" ('\x7b' :: '\x7b' :: c :: cs) = none := hbrace
  have hand := hmark (m := "&") (d := '&') rfl (by decide) (by decide)
  have hvalue : readValue false (readEnd "\x7d\x7d") (c :: cs) = none := by
    have hhead : ∀ fuel, readHead (fuel + 1) (c :: cs) = none := by
      intro fuel
      simp only [readHead, hno.readName_eq, hno.readReference_eq]
      rcases hc with rfl | rfl <;> rfl
    rw [readValue, hno.skip_eq, hhead]
  simp only [readTag, readOtherwise, readOtherwiseIf, readUnescaped, hopen, hwave, hno.skip_eq, helse,
    hcaret, hbrace, htriple, hand, hvalue, Option.bind_eq_bind, Option.bind_some, Option.bind_none,
    Option.or_none, Option.none_or]

/-- The expression of a repeated block. -/
def eachExpression (p : PlainPath) : Expression :=
  ⟨.name "each", [p.reference 0], [], [], false, false⟩

theorem readBlockHead_each (p : PlainPath) (rest : List Char) :
    readBlockHead false ("each ".toList ++ (p.dotted ++ '\x7d' :: rest)) =
      some (eachExpression p, '\x7d' :: rest) := by
  let cs := "each".toList ++ ' ' :: (p.dotted ++ '\x7d' :: rest)
  have hname : readName cs = some ("each", ' ' :: (p.dotted ++ '\x7d' :: rest)) :=
    readName_append (by decide) (List.all_eq_true.1 (by decide)) (endsName_cons (by decide) _)
  have hlist (n : Nat) : readArguments (n + 2) (' ' :: (p.dotted ++ '\x7d' :: rest)) =
      ([p.reference 0], [], '\x7d' :: rest) := by
    rw [p.isArgument_dotted.readArguments_eq (endsArgument_close rest),
      (noArgument_close rest).readArguments_eq]
    rfl
  have hitems : readItemNames (skip ('\x7d' :: rest)) = none := by
    rw [(noArgument_close rest).skip_eq, readItemNames, mark?_cons_of_ne (d := 'a') rfl (by decide)]
    rfl
  obtain ⟨n, hn⟩ : ∃ n, 2 * cs.length + 2 = n + 2 := ⟨2 * cs.length, rfl⟩
  show readBlockHead false cs = _
  rw [readBlockHead, show skip cs = cs from rfl, hname]
  simp only [hn, hlist, hitems]
  rfl

/-- The tag that opens a repeated block. -/
theorem readTag_opening (p : PlainPath) (rest : List Char) :
    readTag ('\x7b' :: '\x7b' :: ("#each ".toList ++ (p.dotted ++ '\x7d' :: '\x7d' :: rest))) =
      some (.opening (eachExpression p), rest) := by
  let cs := "each ".toList ++ (p.dotted ++ '\x7d' :: '\x7d' :: rest)
  have hopening : readOpening ('\x7b' :: '\x7b' :: '#' :: cs) =
      some (.opening (eachExpression p), rest) := by
    have hopen : mark? "\x7b\x7b" ('\x7b' :: '\x7b' :: '#' :: cs) = some ('#' :: cs) := rfl
    have hwave : readWave ('#' :: cs) = (false, '#' :: cs) := rfl
    have hhash : mark? "#" (skip ('#' :: cs)) = some cs := rfl
    have hskip : skip cs = 'e' :: cs.tail := rfl
    simp only [readOpening, hopen, hwave, hhash, hskip, Option.bind_eq_bind, Option.bind_some]
    rw [readBlockHead_each, Option.bind_some, readEnd_close]
    rfl
  rw [show "#each ".toList = '#' :: "each ".toList from rfl, List.cons_append, readTag_mark (.inl rfl),
    hopening, Option.some_or]

/-- The tag that closes a repeated block. -/
theorem readTag_closing (rest : List Char) :
    readTag ('\x7b' :: '\x7b' :: ("/each".toList ++ '\x7d' :: '\x7d' :: rest)) =
      some (.closing "each" false false, rest) :=
  (readTag_mark (.inr rfl) _).trans rfl

/-! ### What the tag of a path shows -/

namespace PlainPath

variable (p : PlainPath)

/-- A path names no helper. -/
theorem ofName?_reached (k : Nat) : Helper.ofName? (String.ofList (p.reached k)) = none := by
  have hdot : ∀ name : String, '.' ∈ name.toList → Helper.ofName? name = none := by
    intro name h
    unfold Helper.ofName?
    split
    all_goals first | rfl | (revert h; decide)
  cases k with
  | succ k => exact hdot _ (by rw [String.toList_ofList, reached_succ]; exact List.mem_cons_self)
  | zero =>
    rw [show p.reached 0 = p.dotted from rfl]
    cases hi : p.items with
    | nil =>
      rw [dotted, hi, List.flatMap_nil, List.append_nil]
      exact p.head.ofName?_text
    | cons i items =>
      refine hdot _ ?_
      rw [String.toList_ofList, dotted, hi]
      exact List.mem_append_right _ List.mem_cons_self

variable {scope : Value} {frames : List Frame} (hf : ∀ f ∈ frames, f.names = [])

include hf

/-- A path is found where its names lead from the block that it is sought from. -/
theorem expand_reference (k : Nat) : expand scope frames (p.reference k) =
    atFrame scope ((frames[k]?).getD (frames.headD .whole)) p.names := by
  rw [reference, expand, p.resolve_parts k scope hf]

/-- A path alone shows what is found there. -/
theorem showExpression_path (k : Nat) : showExpression scope frames (pathExpression p k) =
    (atFrame scope ((frames[k]?).getD (frames.headD .whole)) p.names).map fun f => shown f.get := by
  have hname : headName scope frames (p.reference k) = some (String.ofList (p.reached k)) := by
    rw [reference, headName]
  rw [showExpression, pathExpression]
  simp only [hname, p.ofName?_reached, p.expand_reference hf, List.isEmpty_nil, Bool.and_self,
    if_true, Option.bind_eq_bind, Option.bind_some]
  cases atFrame scope ((frames[k]?).getD (frames.headD .whole)) p.names <;> rfl

end PlainPath

/-- A template of one value shows that value. -/
theorem render_value (scope : Value) (frames : List Frame) (e : Expression) :
    render scope frames [.value e] = showExpression scope frames e := by
  rw [render, renderElement]
  cases showExpression scope frames e with
  | none => rfl
  | some text => simp

/-- A path with a fallback shows the one or the other, when both can be sought. -/
theorem showExpression_default (scope : Value) (frames : List Frame) (a f : Argument) :
    showExpression scope frames ⟨.name "default", [a, f], [], [], false, false⟩ =
      ((expand scope frames a).map Found.get).bind fun v =>
        ((expand scope frames f).map Found.get).map fun w => defaultText [v, w] := by
  simp only [showExpression, headName, expandAll, expandOptions, Option.bind_eq_bind,
    Option.bind_some]
  cases expand scope frames a with
  | none => rfl
  | some found => cases expand scope frames f <;> rfl

/-! ### Outside of blocks -/

/-- What stands at a place is what the names lead to from the whole scope. -/
theorem get_atPath (scope : Value) (path : List String) :
    (atPath scope path).map Found.get = (walk path scope).map (·.getD .null) := by
  rw [atPath, Option.map_map]
  refine congrArg (Option.map · (walk path scope)) (funext fun v => ?_)
  cases v <;> rfl

theorem nameless_whole : ∀ f ∈ [Frame.whole], f.names = [] := by simp [Frame.whole]

theorem PlainPath.expand_whole (p : PlainPath) (scope : Value) :
    (expand scope [Frame.whole] (p.reference 0)).map Found.get =
      (walk p.names scope).map (·.getD .null) := by
  rw [p.expand_reference nameless_whole]
  exact get_atPath scope p.names

end Dialogue.Template
