import Dialogue.Proofs.Template.Assembling
import Dialogue.Proofs.Template.Tokens
import Dialogue.Proofs.Value.Plain

/-!
# Two readings of a token

A token holds a path, and maybe a fallback behind two bars. The reading of values takes the path apart
as it is written and seeks its steps. The reading of templates prepares the token, reads it as a tag
and shows what the tag names, or fails.

* `Fallback`, `TokenBody`: what a token holds, with white space around its parts.
* `TokenBody.resolve_written`: the reading of values.
* `TokenBody.evaluate?_alone`, `TokenBody.evaluate?_fallback`: the reading of templates.
-/

namespace Dialogue.Template

open Text

variable {c : Char}

/-! ### Bodies of tokens -/

/-- What stands for a path that is not set: a quoted text, another path or a bare literal. -/
inductive Fallback where
  | quoted (q : QuotedText)
  | path (p : PlainPath)
  | bare (l : BareLiteral)

/-- A fallback with the white space around the two bars before it. -/
structure Alternative where
  before : Margin
  after : Margin
  fallback : Fallback

/-- What a token holds: a path and maybe a fallback. -/
structure TokenBody where
  front : Margin
  path : PlainPath
  alternative : Option Alternative
  back : Margin

namespace Fallback

/-- A fallback as it is written. -/
def written : Fallback → List Char
  | quoted q => q.written
  | path p => p.written
  | bare l => l.written

/-- A fallback as the language of templates has it. -/
def argument : Fallback → List Char
  | quoted q => q.doubled
  | path p => p.dotted
  | bare l => l.written

/-- What the language of templates reads a fallback as. -/
def read? : Fallback → Option Argument
  | quoted q => (literalValue? q.doubled).map .literal
  | path p => some (p.reference 0)
  | bare l => (literalValue? l.written).map .literal

theorem isArgument (f : Fallback) : IsArgument f.argument f.read? := by
  cases f with
  | quoted q => exact q.isArgument
  | path p => exact p.isArgument_dotted
  | bare l => exact l.isArgument

/-- A fallback begins with a character that is no white space and ends with another. -/
theorem firm_written (f : Fallback) :
    (∃ c cs, f.written = c :: cs ∧ isBlank c = false) ∧ Firm f.written := by
  cases f with
  | quoted q =>
    have hquote : ∀ d, isBlank d = false → (∃ c cs, d :: (q.content ++ [d]) = c :: cs ∧
        isBlank c = false) ∧ Firm (d :: (q.content ++ [d])) := fun d hd =>
      ⟨⟨d, _, rfl, hd⟩, firm_concat (d :: q.content) hd⟩
    rw [written, QuotedText.written]
    split
    · exact hquote '"' (by decide)
    · exact hquote '\'' (by decide)
  | path p =>
    obtain ⟨c, cs, h, -, hb⟩ := p.exists_written_eq_cons
    exact ⟨⟨c, cs, h, hb⟩, fun c hc => p.solid_written c (List.mem_of_mem_getLast? hc)⟩
  | bare l =>
    obtain ⟨c, cs, h, -⟩ := l.exists_cons
    exact ⟨⟨c, cs, h, (l.isLiteralChar_of_mem (by simp [h])).2⟩, fun c hc =>
      (l.isLiteralChar_of_mem (List.mem_of_mem_getLast? hc)).2⟩

theorem trim_written (f : Fallback) : trim f.written = f.written := by
  obtain ⟨⟨c, cs, h, hb⟩, hf⟩ := f.firm_written
  exact trim_of_firm (fun d hd => by rw [h] at hd; cases hd; exact hb) hf

/-- The characters of a fallback, when it is no quoted text. -/
theorem isPathChar_of_mem {f : Fallback} (hq : ∀ q, f ≠ quoted q) (h : c ∈ f.written) :
    isNameChar c = true ∨ c ∈ ['.', '[', ']'] := by
  cases f with
  | quoted q => exact absurd rfl (hq q)
  | path p => exact (p.isPathChar_of_mem h).2
  | bare l => exact (l.isLiteralChar_of_mem h).1.imp_right fun he => by simp [he]

theorem not_mem_written (f : Fallback) (hc : isBrace c = true) : c ∉ f.written := by
  intro h
  cases f with
  | quoted q =>
    have hcontent : c ∉ q.content := fun hm => by
      obtain ⟨-, -, -, ho, hcl⟩ := q.ne_of_mem hm
      simp [isBrace, ho, hcl] at hc
    have hne : c ≠ '"' ∧ c ≠ '\'' := by constructor <;> rintro rfl <;> cases hc
    rw [written, QuotedText.written] at h
    split at h
    · simp [hcontent, hne.1] at h
    · simp [hcontent, hne.2] at h
  | path p =>
    rcases (p.isPathChar_of_mem h).2 with hn | hm
    · exact absurd hn (by rcases (by simpa [isBrace] using hc) with rfl | rfl <;> decide)
    · simp only [List.mem_cons, List.not_mem_nil, or_false] at hm
      rcases hm with rfl | rfl | rfl <;> cases hc
  | bare l =>
    rcases (l.isLiteralChar_of_mem h).1 with hn | rfl
    · exact absurd hn (by rcases (by simpa [isBrace] using hc) with rfl | rfl <;> decide)
    · cases hc

/-- What a fallback means where values are resolved. -/
def meaning (scope : Value) : Fallback → Option Value
  | quoted q => some (.text (String.ofList q.content))
  | path p => Value.lookup scope p.written
  | bare l => Value.lookup scope l.written

theorem unquoteChars?_of_ne {cs : List Char} (ht : trim (c :: cs) = c :: cs)
    (hd : c ≠ '"') (hs : c ≠ '\'') : unquoteChars? (c :: cs) = none := by
  rw [unquoteChars?, ht]
  exact if_neg fun h => h.1.elim hd hs

/-- A fallback is resolved to its meaning. -/
theorem resolve_written (f : Fallback) (scope : Value) :
    ((unquoteChars? f.written).map fun literal => Value.text (String.ofList literal)).or
      (Value.lookup scope f.written) = f.meaning scope := by
  have htrim := f.trim_written
  cases f with
  | quoted q =>
    have hquote : unquoteChars? q.written = some q.content := by
      have hd : ∀ d, (d = '"' ∨ d = '\'') → trim (d :: (q.content ++ [d])) = d :: (q.content ++ [d]) →
          unquoteChars? (d :: (q.content ++ [d])) = some q.content := by
        intro d hd ht
        have hquotes : (d = '"' ∨ d = '\'') ∧ (q.content ++ [d]).getLast? = some d :=
          ⟨hd, List.getLast?_concat⟩
        rw [unquoteChars?, ht]
        exact (if_pos hquotes).trans (congrArg some List.dropLast_concat)
      rw [written, QuotedText.written] at htrim
      rw [QuotedText.written]
      split at htrim
      · rw [if_pos ‹_›]
        exact hd _ (.inl rfl) htrim
      · rw [if_neg ‹_›]
        exact hd _ (.inr rfl) htrim
    rw [written, hquote]
    rfl
  | path p =>
    obtain ⟨c, cs, h, hn, -⟩ := p.exists_written_eq_cons
    rw [written, h] at htrim ⊢
    rw [unquoteChars?_of_ne htrim (by rintro rfl; cases hn) (by rintro rfl; cases hn), meaning, h]
    rfl
  | bare l =>
    obtain ⟨c, cs, h, -⟩ := l.exists_cons
    have hc := (l.isLiteralChar_of_mem (show c ∈ l.written by simp [h])).1
    rw [written, h] at htrim ⊢
    rw [unquoteChars?_of_ne htrim (by rintro rfl; revert hc; decide) (by rintro rfl; revert hc; decide),
      meaning, h]
    rfl

theorem scopedPath_nil (scope : Value) (path : List Char) :
    scopedPath scope [] path = dotIndices (trim path) := by
  rw [scopedPath]
  exact if_pos (.inl rfl)

/-- A fallback outside of blocks is prepared as an argument. -/
theorem fallbackArgument_written (f : Fallback) (scope : Value) :
    fallbackArgument scope [] f.written = f.argument := by
  have htrim := f.trim_written
  have hpath : ∀ {c : Char} {cs : List Char}, trim (c :: cs) = c :: cs → c ≠ '"' → c ≠ '\'' →
      fallbackArgument scope [] (c :: cs) = dotIndices (c :: cs) := by
    intro c cs ht hd hs
    rw [fallbackArgument, ht]
    split
    · rename_i he
      exact absurd (List.cons.inj he).1 hs
    · rename_i he
      exact absurd (List.cons.inj he).1 hd
    · rw [scopedPath_nil, ht]
  cases f with
  | quoted q =>
    rw [written, QuotedText.written] at htrim ⊢
    split at htrim
    · rw [if_pos ‹_›, fallbackArgument, htrim]
      rfl
    · have hcontent : replaceAll ['"'] ['\\', '"'] (q.content ++ ['\'']).dropLast = q.content := by
        rw [List.dropLast_concat, replaceAll_of_not_mem fun hm => (q.ne_of_mem hm).1 rfl]
      rw [if_neg ‹_›, fallbackArgument, htrim]
      refine (if_pos List.getLast?_concat).trans ?_
      rw [hcontent]
      rfl
  | path p =>
    have hdots := p.dotIndices_path
    obtain ⟨c, cs, h, hn, -⟩ := p.exists_written_eq_cons
    rw [written, h] at htrim ⊢
    rw [hpath htrim (by rintro rfl; cases hn) (by rintro rfl; cases hn), ← h, hdots, argument]
  | bare l =>
    have hbracket : '[' ∉ l.written := by
      intro hm
      have := (l.isLiteralChar_of_mem hm).1
      revert this
      decide
    have hdots := dotIndices_append hbracket []
    rw [List.append_nil, show dotIndices [] = [] from rfl, List.append_nil] at hdots
    obtain ⟨c, cs, h, -⟩ := l.exists_cons
    have hc := (l.isLiteralChar_of_mem (show c ∈ l.written by simp [h])).1
    rw [written, h] at htrim ⊢
    rw [hpath htrim (by rintro rfl; revert hc; decide) (by rintro rfl; revert hc; decide), ← h, hdots,
      argument]

/-- What the language of templates takes a fallback for, where it takes it for anything. -/
def expanded (scope : Value) : Fallback → Option Value
  | .quoted q => literalValue? q.doubled
  | .path p => (walk p.names scope).map (·.getD .null)
  | .bare l => literalValue? l.written

theorem expand_read? (f : Fallback) (scope : Value) :
    (f.read?.bind fun a => (expand scope [Frame.whole] a).map Found.get) = f.expanded scope := by
  have hliteral : ∀ v : Option Value, ((v.map Argument.literal).bind fun a =>
      (expand scope [Frame.whole] a).map Found.get) = v := by
    intro v
    cases v with
    | none => rfl
    | some v => simp [expand, Found.get]
  cases f with
  | quoted q => exact hliteral _
  | path p => exact p.expand_whole scope
  | bare l => exact hliteral _

end Fallback

/-! ### Both readings of a token -/

namespace Alternative

/-- A fallback behind its two bars. -/
def written (a : Alternative) : List Char :=
  a.before.chars ++ ('|' :: '|' :: (a.after.chars ++ a.fallback.written))

end Alternative

namespace TokenBody

variable (b : TokenBody) (scope : Value)

/-- What a token holds, without the white space around it. -/
def core : List Char := b.path.written ++ (b.alternative.map Alternative.written).getD []

/-- What a token holds. -/
def written : List Char := b.front.chars ++ (b.core ++ b.back.chars)

/-- What the prepared token holds. -/
def prepared : List Char :=
  match b.alternative with
  | none => b.path.dotted
  | some a => "default ".toList ++ b.path.dotted ++ ' ' :: a.fallback.argument

theorem core_none (h : b.alternative = none) : b.core = b.path.written := by
  rw [core, h]
  exact List.append_nil _

theorem core_some {a : Alternative} (h : b.alternative = some a) :
    b.core = (b.path.written ++ a.before.chars) ++
      ('|' :: '|' :: (a.after.chars ++ a.fallback.written)) := by
  rw [core, h, List.append_assoc]
  rfl

theorem bar_not_mem_path : '|' ∉ b.path.written := by
  intro h
  rcases (b.path.isPathChar_of_mem h).2 with hn | hm
  · cases hn
  · simp at hm

theorem exists_core_eq_cons : ∃ c cs, b.core = c :: cs ∧ isNameChar c = true ∧
    isBlank c = false := by
  obtain ⟨c, cs, h, hc⟩ := b.path.exists_written_eq_cons
  exact ⟨c, _, by rw [core, h, List.cons_append], hc⟩

theorem trim_core : trim b.core = b.core := by
  obtain ⟨c, cs, h, -, hb⟩ := b.exists_core_eq_cons
  refine trim_of_firm (fun d hd => by rw [h] at hd; cases hd; exact hb) ?_
  cases ha : b.alternative with
  | none =>
    rw [b.core_none ha]
    exact fun c hc => b.path.solid_written c (List.mem_of_mem_getLast? hc)
  | some a =>
    obtain ⟨⟨c, cs, hf, -⟩, hfirm⟩ := a.fallback.firm_written
    have happ : b.core = (b.path.written ++ a.before.chars ++ '|' :: '|' :: a.after.chars) ++
        a.fallback.written := by
      rw [b.core_some ha, List.append_assoc _ ('|' :: '|' :: a.after.chars)]
      rfl
    rw [happ]
    exact firm_append hfirm (by simp [hf]) _

theorem trim_written : trim b.written = b.core := by
  rw [written, trim_blank_append b.front.blank_chars, trim_append _ b.back.blank_chars, b.trim_core]

theorem splitFallback_core : Value.splitFallback b.core =
    b.alternative.map fun a => (b.path.written, a.fallback.written) := by
  cases ha : b.alternative with
  | none => rw [b.core_none ha, Value.splitFallback, cut?_of_not_mem b.bar_not_mem_path]; rfl
  | some a =>
    have hbar : '|' ∉ b.path.written ++ a.before.chars := by
      rw [List.mem_append, not_or]
      exact ⟨b.bar_not_mem_path, fun hm => by cases a.before.blank_chars _ hm⟩
    have hcut : cut? ['|', '|'] b.core =
        some (b.path.written ++ a.before.chars, a.after.chars ++ a.fallback.written) := by
      rw [b.core_some ha]
      exact cut?_append_mark hbar _ _
    rw [Value.splitFallback, hcut]
    show some (trim (b.path.written ++ a.before.chars), trim (a.after.chars ++ a.fallback.written)) = _
    rw [trim_append _ a.before.blank_chars, trim_of_solid b.path.solid_written, trim_blank_append a.after.blank_chars,
      a.fallback.trim_written]
    rfl

theorem resolve_of_split {expr l r : List Char} (h : Value.splitFallback (trim expr) = some (l, r)) :
    Value.resolve scope expr = ((Value.lookup scope l).filter Value.isPresent).or
      (((unquoteChars? r).map fun literal => Value.text (String.ofList literal)).or
        (Value.lookup scope r)) := by
  rw [Value.resolve]
  simp only [h]
  cases (Value.lookup scope l).filter Value.isPresent with
  | some v => rfl
  | none => cases unquoteChars? r <;> rfl

/-- **The reading of values**: the path when it is set, and else the meaning of the fallback. -/
theorem resolve_written : Value.resolve scope b.written =
    match b.alternative with
    | none => Value.lookup scope b.path.written
    | some a => ((Value.lookup scope b.path.written).filter Value.isPresent).or
        (a.fallback.meaning scope) := by
  have hsplit := b.splitFallback_core
  rw [← b.trim_written] at hsplit
  cases ha : b.alternative with
  | none =>
    rw [ha, Option.map_none] at hsplit
    rw [Value.resolve]
    simp only [hsplit]
    rw [b.trim_written, b.core_none ha]
  | some a =>
    rw [ha] at hsplit
    rw [resolve_of_split scope hsplit, a.fallback.resolve_written]

/-- Where the characters of a token come from. -/
theorem mem_written {c : Char} (h : c ∈ b.written) : isBlank c = true ∨ c ∈ b.path.written ∨
    ∃ a ∈ b.alternative, c = '|' ∨ c ∈ a.fallback.written := by
  rw [written, core] at h
  cases ha : b.alternative with
  | none =>
    simp only [ha, Option.map_none, Option.getD_none, List.append_nil, List.mem_append] at h
    rcases h with h | h | h
    · exact .inl (b.front.blank_chars c h)
    · exact .inr (.inl h)
    · exact .inl (b.back.blank_chars c h)
  | some a =>
    simp only [ha, Option.map_some, Option.getD_some, Alternative.written, List.mem_append,
      List.mem_cons] at h
    rcases h with h | (h | h | h | h | h | h) | h
    · exact .inl (b.front.blank_chars c h)
    · exact .inr (.inl h)
    · exact .inl (a.before.blank_chars c h)
    · exact .inr (.inr ⟨a, rfl, .inl h⟩)
    · exact .inr (.inr ⟨a, rfl, .inl h⟩)
    · exact .inl (a.after.blank_chars c h)
    · exact .inr (.inr ⟨a, rfl, .inr h⟩)
    · exact .inl (b.back.blank_chars c h)

theorem not_mem_written {c : Char} (hc : isBrace c = true) : c ∉ b.written := by
  intro h
  have hne : isBlank c = false ∧ c ≠ '|' := by
    rcases (by simpa [isBrace] using hc) with rfl | rfl <;> decide
  rcases b.mem_written h with h | h | ⟨a, -, h | h⟩
  · cases hne.1.symm.trans h
  · exact (Fallback.path b.path).not_mem_written hc h
  · exact hne.2 h
  · exact a.fallback.not_mem_written hc h

theorem isControl_core : isControl b.core = false := by
  obtain ⟨c, cs, h, hn, -⟩ := b.exists_core_eq_cons
  have hmark : ∀ d, isNameChar d = false → begins [d] b.core = false := by
    intro d hd
    rw [h, begins, after?, if_neg (by rintro rfl; rw [hd] at hn; cases hn)]
    rfl
  rw [isControl, hmark '#' (by decide), hmark '/' (by decide), hmark '!' (by decide)]
  rfl

/-- A token is not the word for the other case. -/
theorem core_ne_else : b.core ≠ "else".toList := by
  cases ha : b.alternative with
  | none =>
    rw [b.core_none ha]
    exact b.path.written_ne_keyword (by decide)
  | some a =>
    have hbar : '|' ∈ b.core := by simp [b.core_some ha]
    intro he
    simp [he] at hbar

theorem prepare_token : prepare scope (token b.written) = token b.prepared := by
  have htokens := tokenize_token (b.not_mem_written (c := '\x7d') rfl) []
  rw [List.append_nil] at htokens
  have hpath : scopedPath scope [] b.path.written = b.path.dotted := by
    rw [Fallback.scopedPath_nil, trim_of_solid b.path.solid_written, b.path.dotIndices_path]
  rw [prepare, htokens, tokenize_nil, prepareFrom, b.trim_written, b.isControl_core]
  simp only [b.splitFallback_core, decide_eq_false b.core_ne_else, Bool.or_self, Bool.false_eq_true,
    if_false]
  rw [prepared]
  cases ha : b.alternative with
  | none =>
    rw [Option.map_none]
    dsimp only
    rw [b.core_none ha, hpath]
    exact List.append_nil _
  | some a =>
    rw [Option.map_some]
    dsimp only
    rw [hpath, a.fallback.fallbackArgument_written]
    exact List.append_nil _

/-- A token is substituted by what it resolves to. -/
theorem substitute_token : substitute scope (token b.written) =
    ((Value.resolve scope b.written).map fun v => v.display.toList).getD [] := by
  have htokens := tokenize_token (b.not_mem_written (c := '\x7d') rfl) []
  rw [List.append_nil] at htokens
  have hresolve : Value.resolve scope b.core = Value.resolve scope b.written := by
    rw [Value.resolve, b.trim_core, Value.resolve, b.trim_written]
  rw [substitute, mapTokens, htokens, tokenize_nil, List.flatMap_cons, List.flatMap_nil,
    List.append_nil]
  dsimp only
  rw [b.trim_written, b.isControl_core, if_neg Bool.false_ne_true, hresolve]

/-! #### The reading of templates -/

/-- **The reading of templates, without a fallback**: where the names of the path lead, unless the
template fails. -/
theorem evaluate?_alone (h : b.alternative = none) :
    evaluate? scope (token b.written) = none ∨ evaluate? scope (token b.written) =
      (walk b.path.names scope).map fun v => shown (v.getD .null) := by
  have htoken : prepare scope (token b.written) =
      '\x7b' :: '\x7b' :: (b.path.dotted ++ closeMark) := by
    rw [b.prepare_token, prepared, h]
    rfl
  have hread : readValue false (readEnd "\x7d\x7d") (b.path.dotted ++ closeMark) =
      some (.value (pathExpression b.path 0), []) := readValue_reached b.path 0 []
  obtain ⟨c, cs, hcons, hplain⟩ := b.path.beginsPlain_dotted closeMark
  rw [hcons] at htoken hread
  rw [evaluate?, htoken]
  rcases hplain.readTag_cases cs with ⟨r, hr, hturns⟩ | hvalue
  · rw [parse_turn hr hturns]
    exact .inl rfl
  · right
    have hget := congrArg (Option.map shown) (get_atPath scope b.path.names)
    rw [Option.map_map, Option.map_map] at hget
    rw [hread] at hvalue
    rw [parse_value rfl hvalue, Option.bind_some, render_value, b.path.showExpression_path nameless_whole]
    exact hget

/-- **The reading of templates, with a fallback**: the template fails where the path or the fallback
cannot be read. -/
theorem evaluate?_fallback {a : Alternative} (h : b.alternative = some a) :
    evaluate? scope (token b.written) = (walk b.path.names scope).bind fun v =>
      (a.fallback.expanded scope).map fun w => defaultText [v.getD .null, w] := by
  have htoken : prepare scope (token b.written) = '\x7b' :: '\x7b' :: ("default".toList ++
      ' ' :: (b.path.dotted ++ ' ' :: (a.fallback.argument ++ closeMark))) := by
    rw [b.prepare_token, prepared, h]
    simp [token, openMark]
  have hread := readValue_call b.path.isArgument_dotted a.fallback.isArgument []
  have hvalue : readTag ('\x7b' :: '\x7b' :: ("default".toList ++ ' ' :: (b.path.dotted ++
      ' ' :: (a.fallback.argument ++ closeMark)))) = readValue false (readEnd "\x7d\x7d")
        ("default".toList ++ ' ' :: (b.path.dotted ++ ' ' :: (a.fallback.argument ++ closeMark))) :=
    (beginsPlain_of_isNameChar (c := 'd') (by decide) (by decide)).readTag_eq rfl
  have hpath : (expand scope [Frame.whole]
      (.reference (b.path.parts 0) (String.ofList b.path.dotted))).map Found.get =
        (walk b.path.names scope).map (·.getD .null) := b.path.expand_whole scope
  have hfallback := a.fallback.expand_read? scope
  rw [evaluate?, htoken]
  cases hr : a.fallback.read? with
  | none =>
    rw [hr] at hread hfallback
    rw [parse_none (hvalue.trans hread), ← hfallback]
    cases walk b.path.names scope <;> rfl
  | some f =>
    rw [hr] at hread hfallback
    rw [parse_value rfl (hvalue.trans hread), Option.bind_some, render_value, showExpression_default,
      hpath, ← hfallback]
    cases walk b.path.names scope <;> rfl

end TokenBody

end Dialogue.Template
