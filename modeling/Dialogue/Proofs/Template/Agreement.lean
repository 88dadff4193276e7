import Dialogue.Guard.Basic
import Dialogue.Proofs.Template.Bodies

/-!
# Messages, bodies and guards on one token

A message is a template, so its tokens are read by the language of templates. The body of a call and a
guard take the value that a token resolves to. Both readings agree, except on a fallback without
quotation marks that is a literal for the one and a name for the other.

* `TokenBody.Misread`: a literal that shows as two things.
* `TokenBody.renderText_eq`, `TokenBody.renderText_ne`: what a message shows of a token.
* `TokenBody.agrees_iff`: when messages, bodies and guards agree on a token.
-/

namespace Dialogue.Template

open Text

/-! ### Agreement -/

/-- The text of what is found, none for nothing. -/
def messageOf (v : Option Value) : List Char := (v.map fun v => v.display.toList).getD []

theorem any_messageOf {v : Option Value} (h : ∀ w ∈ v, w.isPlain = true) :
    (messageOf v).any isBrace = false := by
  cases v with
  | none => rfl
  | some w => exact Value.any_display_of_isPlain (h w rfl)

theorem shown_getD {v : Option Value} (h : ∀ w ∈ v, w.isPlain = true) :
    shown (v.getD .null) = messageOf v := by
  cases v with
  | none => rfl
  | some w => exact Value.shown_of_isPlain (h w rfl)

theorem display_getD (v : Option Value) : (v.getD .null).display.toList = messageOf v := by
  cases v <;> rfl

/-- What the fallback is shown for when the path is not set. -/
theorem defaultText_eq {v m : Option Value} {w : Value}
    (h : v.any Value.isPresent = false → w.display.toList = messageOf m) :
    defaultText [v.getD .null, w] = messageOf ((v.filter Value.isPresent).or m) := by
  cases v with
  | none => exact h rfl
  | some v =>
    cases hp : v.isPresent with
    | true => simp [defaultText, messageOf, Option.filter_some, hp]
    | false => simpa [defaultText, Option.filter_some, hp] using h hp

theorem sanitize_of_any {cs : List Char} (h : cs.any isBrace = false) : sanitize cs = cs :=
  sanitize_of_not_mem fun hm => by
    have := List.any_eq_false.1 h _ hm
    exact this rfl

theorem BareLiteral.isAtom_of_literalValue? (l : BareLiteral) {v : Value}
    (h : literalValue? l.written = some v) : v.isAtom = true := by
  obtain ⟨c, cs, hl, hc⟩ := l.exists_cons
  have hquote : c ≠ '\'' := by
    rintro rfl
    revert hc
    decide
  rw [hl, literalValue?_cons hquote] at h
  cases hparse : Json.parse (String.ofList (c :: cs)) with
  | error fault =>
    rw [hparse] at h
    cases h
  | ok w =>
    rw [hparse] at h
    cases h
    exact Json.isAtom_of_parse hc hparse

namespace Fallback

/-- What the reading of values seeks among them for a fallback: a path, and a bare literal too. -/
def sought : Fallback → List (List Char)
  | quoted _ => []
  | path p => [p.written]
  | bare l => [l.written]

/-- The paths in a fallback. -/
def paths : Fallback → List PlainPath
  | path p => [p]
  | _ => []

end Fallback

namespace TokenBody

variable (b : TokenBody) (scope : Value)

/-- What the reading of values seeks among them. -/
def sought : List (List Char) :=
  b.path.written :: (b.alternative.map fun a => a.fallback.sought).getD []

/-- The paths in a token. -/
def paths : List PlainPath := b.path :: (b.alternative.map fun a => a.fallback.paths).getD []

/-- A bare literal that shows as two things: the path is not set and the template does not fail on it,
and the value that the literal denotes shows otherwise than what is found under it as a name. -/
def Misread : Prop :=
  ∃ a ∈ b.alternative, ∃ l, a.fallback = .bare l ∧
    (Value.lookup scope b.path.written).any Value.isPresent = false ∧
    (walk b.path.names scope).isSome = true ∧
    ∃ v ∈ literalValue? l.written, v.display.toList ≠ messageOf (Value.lookup scope l.written)

variable {b scope}
  (hplain : ∀ path ∈ b.sought, ∀ v ∈ Value.lookup scope path, v.isPlain = true)
  (hregular : ∀ p ∈ b.paths, p.regular scope = true)

include hplain in
/-- What a token resolves to is plain. -/
theorem isPlain_resolve : ∀ v ∈ Value.resolve scope b.written, v.isPlain = true := by
  have hpath := hplain b.path.written List.mem_cons_self
  rw [b.resolve_written]
  cases ha : b.alternative with
  | none => exact hpath
  | some a =>
    have hsought : ∀ path ∈ a.fallback.sought, path ∈ b.sought := fun path hm =>
      List.mem_cons_of_mem _ (by rwa [ha])
    intro v hv
    rcases Option.or_eq_some_iff.1 hv with hv | ⟨-, hv⟩
    · exact hpath v (Option.filter_eq_some_iff.1 hv).1
    · cases hf : a.fallback with
      | quoted q =>
        rw [hf] at hv
        cases hv
        have hcontent : ∀ c ∈ q.content, isBrace c = false := fun c hc => by
          obtain ⟨-, -, -, ho, hcl⟩ := q.ne_of_mem hc
          simp [isBrace, ho, hcl]
        simpa [Value.isPlain, String.toList_ofList] using hcontent
      | path p =>
        rw [hf] at hv hsought
        exact hplain _ (hsought _ List.mem_cons_self) v hv
      | bare l =>
        rw [hf] at hv hsought
        exact hplain _ (hsought _ List.mem_cons_self) v hv

theorem renderText_token : renderText scope (token b.written) =
    sanitize ((evaluate? scope (token b.written)).getD (messageOf (Value.resolve scope b.written))) := by
  have hopen := hasOpenMark_token b.written []
  rw [List.append_nil] at hopen
  rw [renderText, hopen, if_pos rfl, b.substitute_token]
  rfl

include hplain hregular

/-- A template that does not fail shows what the token resolves to, unless a bare literal is misread. -/
theorem evaluate?_cases (h : ¬b.Misread scope) : evaluate? scope (token b.written) = none ∨
    evaluate? scope (token b.written) = some (messageOf (Value.resolve scope b.written)) := by
  have hpath := hplain b.path.written List.mem_cons_self
  have hwalk := b.path.walk_eq (hregular b.path List.mem_cons_self)
  have hresolve := b.resolve_written scope
  cases ha : b.alternative with
  | none =>
    rw [ha] at hresolve
    rcases b.evaluate?_alone scope ha with he | he
    · exact .inl he
    rcases hwalk with hw | hw
    · exact .inl (by rw [he, hw]; rfl)
    · right
      rw [he, hw, Option.map_some, shown_getD hpath, hresolve]
  | some a =>
    rw [ha] at hresolve
    rw [b.evaluate?_fallback scope ha, hresolve]
    rcases hwalk with hw | hw
    · exact .inl (by rw [hw]; rfl)
    rw [hw, Option.bind_some]
    cases he : a.fallback.expanded scope with
    | none => exact .inl rfl
    | some w =>
      refine .inr (congrArg some (defaultText_eq fun hnone => ?_))
      cases hf : a.fallback with
      | quoted q =>
        rw [hf] at he
        rcases literalValue?_quoted fun c hc => ⟨(q.ne_of_mem hc).1, (q.ne_of_mem hc).2.2.1⟩ with hv | hv
        · cases he.symm.trans hv
        · cases he.symm.trans hv
          rfl
      | path p =>
        rw [hf] at he
        have hp : p ∈ b.paths := List.mem_cons_of_mem _ (by rw [ha, Option.map_some, hf]; simp [Fallback.paths])
        rcases p.walk_eq (hregular p hp) with hv | hv
        · rw [Fallback.expanded, hv] at he
          cases he
        · rw [Fallback.expanded, hv] at he
          cases he
          exact display_getD _
      | bare l =>
        rw [hf] at he
        exact Classical.byContradiction fun hne =>
          h ⟨a, ha, l, hf, hnone, by rw [hw]; rfl, w, he, hne⟩

/-- Without a misread literal, a message shows what the token resolves to. -/
theorem renderText_eq (h : ¬b.Misread scope) :
    renderText scope (token b.written) = messageOf (Value.resolve scope b.written) := by
  have hclean := sanitize_of_any (any_messageOf (isPlain_resolve hplain))
  rw [renderText_token]
  rcases evaluate?_cases hplain hregular h with he | he <;> rw [he] <;> exact hclean

omit hplain in
/-- With a misread literal, a message shows something else than what the token resolves to. -/
theorem renderText_ne (h : b.Misread scope) :
    renderText scope (token b.written) ≠ messageOf (Value.resolve scope b.written) := by
  obtain ⟨a, ha, l, hf, hnone, hwalk, v, hv, hne⟩ := h
  have hfound : walk b.path.names scope = some (Value.lookup scope b.path.written) := by
    rcases b.path.walk_eq (hregular b.path List.mem_cons_self) with hw | hw
    · rw [hw] at hwalk
      cases hwalk
    · exact hw
  have hunset : (Value.lookup scope b.path.written).filter Value.isPresent = none := by
    cases hl : Value.lookup scope b.path.written with
    | none => rfl
    | some w =>
      rw [hl] at hnone
      exact Option.filter_some_neg (by simpa using hnone)
  have heval : evaluate? scope (token b.written) = some v.display.toList := by
    have hexpanded : a.fallback.expanded scope = some v := by rw [hf]; exact hv
    have hshown : defaultText [(Value.lookup scope b.path.written).getD .null, v] =
        messageOf (none.or (some v)) := by
      rw [← hunset]
      exact defaultText_eq fun _ => rfl
    rw [b.evaluate?_fallback scope ha, hfound, hexpanded]
    exact congrArg some hshown
  have hresolve : messageOf (Value.resolve scope b.written) =
      messageOf (Value.lookup scope l.written) := by
    have := b.resolve_written scope
    rw [ha] at this
    rw [this]
    dsimp only
    rw [hunset, Option.none_or, hf]
    rfl
  rw [renderText_token, heval, hresolve]
  exact fun he => hne (by rwa [Option.getD_some,
    sanitize_of_any (Value.any_display_of_isAtom (l.isAtom_of_literalValue? hv))] at he)

end TokenBody

/-! #### Bodies of calls and guards -/

namespace TokenBody

variable (b : TokenBody) (scope : Value)

theorem written_ne_nil : b.written ≠ [] := by
  obtain ⟨c, cs, h, -⟩ := b.exists_core_eq_cons
  rw [written, h]
  simp

/-- A body that is a single token, as it is rendered. -/
theorem renderValue_token :
    renderValue scope (.text (String.ofList (token b.written))) =
      if b.written.any (fun c => c == '#' || c == '/') then
        .text (String.ofList (renderText scope (token b.written)))
      else (Value.resolve scope b.written).getD .null := by
  have hsingle := singleToken?_token b.written_ne_nil (b.not_mem_written (c := '\x7b') rfl)
    (b.not_mem_written (c := '\x7d') rfl)
  rw [renderValue, String.toList_ofList, hsingle]
  split
  · rename_i he
    split at he
    · cases he
    · cases he
      rw [if_neg ‹_›]
  · rename_i he
    split at he
    · rw [if_pos ‹_›]
    · cases he

/-- Only a quoted text may hold marks of blocks. -/
theorem any_written_of_not_quoted (hq : ∀ a ∈ b.alternative, ∀ q, a.fallback ≠ .quoted q) :
    b.written.any (fun c => c == '#' || c == '/') = false := by
  refine List.any_eq_false.2 fun c hm hc => ?_
  have hne : isBlank c = false ∧ c ≠ '|' ∧ ¬(isNameChar c = true ∨ c ∈ ['.', '[', ']']) := by
    rcases (by simpa using hc) with rfl | rfl <;> decide
  rcases b.mem_written hm with h | h | ⟨a, ha, h | h⟩
  · cases hne.1.symm.trans h
  · exact hne.2.2 (b.path.isPathChar_of_mem h).2
  · exact hne.2.1 h
  · exact hne.2.2 (Fallback.isPathChar_of_mem (hq a ha) h)

theorem sameText_congr {v w : Value} (h : v.display.toList = w.display.toList)
    (expected : List Char) : sameText v expected = sameText w expected := by
  rw [sameText, sameText, h]

/-- A message that is a single token. -/
def message : String := renderTemplate scope (String.ofList (token b.written))

theorem toList_message : (b.message scope).toList = renderText scope (token b.written) := by
  rw [message, renderTemplate, String.toList_ofList, String.toList_ofList]

theorem toList_resolved (v : Option Value) : ((v.map Value.display).getD "").toList = messageOf v := by
  cases v <;> rfl

/-- A guard takes from a token what it resolves to. -/
theorem display_subject {p : Predicate} (hp : p.subject = String.ofList b.written) :
    ((Value.resolve scope p.subject.toList).getD .null).display.toList =
      messageOf (Value.resolve scope b.written) := by
  rw [hp, String.toList_ofList, display_getD]

variable {b scope}

section

variable (hplain : ∀ path ∈ b.sought, ∀ v ∈ Value.lookup scope path, v.isPlain = true)
  (hregular : ∀ p ∈ b.paths, p.regular scope = true)

include hplain hregular

/-- A message shows what the token resolves to, unless a bare literal is misread. -/
theorem message_iff : b.message scope = ((Value.resolve scope b.written).map Value.display).getD "" ↔
    ¬b.Misread scope := by
  rw [← String.toList_inj, toList_message, toList_resolved]
  exact ⟨fun he hm => renderText_ne hregular hm he, renderText_eq hplain hregular⟩

/-- So does a body that is a single token. -/
theorem renderValue_iff :
    (renderValue scope (.text (String.ofList (token b.written)))).display = b.message scope ↔
      ¬b.Misread scope := by
  cases hq : b.written.any fun c => c == '#' || c == '/' with
  | true =>
    -- such a body is rendered as a message, and its fallback is a quoted text
    have hclear : ¬b.Misread scope := by
      rintro ⟨a, ha, l, hf, -⟩
      have hnone := b.any_written_of_not_quoted fun a' ha' q hq' => by
        cases ha.symm.trans ha'
        cases hf.symm.trans hq'
      rw [hq] at hnone
      cases hnone
    have hbody : (renderValue scope (.text (String.ofList (token b.written)))).display =
        b.message scope := by
      rw [renderValue_token, if_pos hq, ← String.toList_inj, toList_message]
      exact String.toList_ofList
    exact ⟨fun _ => hclear, fun _ => hbody⟩
  | false =>
    rw [renderValue_token, hq, if_neg Bool.false_ne_true, ← message_iff hplain hregular,
      ← String.toList_inj, display_getD, ← toList_resolved, String.toList_inj, eq_comm]

variable (hclear : ¬b.Misread scope) {p : Predicate} (hp : p.subject = String.ofList b.written)

include hclear hp

/-- A guard sees what a message shows. -/
theorem display_actual : ((Value.resolve scope p.subject.toList).getD .null).display.toList =
    (b.message scope).toList := by
  rw [display_subject b scope hp, toList_message, renderText_eq hplain hregular hclear]

theorem holds_isSet (hop : p.operator = .isSet) : p.holds scope = true ↔ b.message scope ≠ "" := by
  have hset : ((Value.resolve scope p.subject.toList).getD .null).isPlain = true := by
    rw [hp, String.toList_ofList]
    cases hr : Value.resolve scope b.written with
    | none => rfl
    | some v => exact isPlain_resolve hplain v hr
  rw [Predicate.holds, hop]
  refine (Value.isPresent_iff_of_isPlain hset).trans ?_
  rw [display_actual hplain hregular hclear hp, ne_eq, String.toList_eq_nil_iff]

theorem holds_equals (hop : p.operator = .equals) :
    p.holds scope = sameText (.text (b.message scope)) p.expected := by
  rw [Predicate.holds, hop]
  exact sameText_congr (w := .text (b.message scope)) (display_actual hplain hregular hclear hp)
    p.expected

end

/-- **Messages, bodies and guards read a token alike exactly when no bare literal is misread.** The
paths of the token lead to nothing or to something plain, and none of them meets a record with a field
that is named as an index in brackets. Then a message shows what the token resolves to, a body that is
a single token shows what a message shows, a guard finds the token set when the message shows
something, and it compares what the message shows. -/
theorem agrees_iff (hplain : ∀ path ∈ b.sought, ∀ v ∈ Value.lookup scope path, v.isPlain = true)
    (hregular : ∀ p ∈ b.paths, p.regular scope = true) :
    (b.message scope = ((Value.resolve scope b.written).map Value.display).getD "" ↔
      ¬b.Misread scope) ∧
    ((renderValue scope (.text (String.ofList (token b.written)))).display = b.message scope ↔
      ¬b.Misread scope) ∧
    (¬b.Misread scope → ∀ p : Predicate, p.subject = String.ofList b.written →
      (p.operator = .isSet → (p.holds scope = true ↔ b.message scope ≠ "")) ∧
      (p.operator = .equals → p.holds scope = sameText (.text (b.message scope)) p.expected)) := by
  refine ⟨message_iff hplain hregular, renderValue_iff hplain hregular, fun hclear p hp => ?_⟩
  constructor
  · intro hop
    exact holds_isSet hplain hregular hclear hp hop
  · intro hop
    exact holds_equals hplain hregular hclear hp hop

/-- The token that greets by name, and otherwise a friend. -/
def greeting : TokenBody where
  front := ⟨[' '], by decide⟩
  path := ⟨⟨"nombre".toList, by decide⟩, []⟩
  alternative := some ⟨⟨[' '], by decide⟩, ⟨[' '], by decide⟩, .quoted ⟨true, "amigo".toList, by decide⟩⟩
  back := ⟨[' '], by decide⟩

/-- Where no name is set, the friend is greeted, in a message as in a guard. -/
theorem agrees_greeting :
    (∀ path ∈ greeting.sought, ∀ v ∈ Value.lookup (.record [("nombre", .text "")]) path,
      v.isPlain = true) ∧
    (∀ p ∈ greeting.paths, p.regular (.record [("nombre", .text "")]) = true) ∧
    greeting.message (.record [("nombre", .text "")]) = "amigo" := by
  have hplain : ∀ path ∈ greeting.sought,
      ∀ v ∈ Value.lookup (.record [("nombre", .text "")]) path, v.isPlain = true := by
    intro path hp v hv
    cases List.mem_singleton.1 hp
    cases hv
    rfl
  have hregular : ∀ p ∈ greeting.paths, p.regular (.record [("nombre", .text "")]) = true := by
    intro p hp
    cases List.mem_singleton.1 hp
    rfl
  have hclear : ¬greeting.Misread (.record [("nombre", .text "")]) := by
    rintro ⟨a, ha, l, hf, -⟩
    cases ha
    cases hf
  exact ⟨hplain, hregular, (agrees_iff hplain hregular).1.2 hclear⟩

/-- The token that shows a number where no other is set. -/
def fiveOtherwise : TokenBody where
  front := ⟨[], rfl⟩
  path := ⟨⟨['n'], by decide⟩, []⟩
  alternative := some ⟨⟨[' '], by decide⟩, ⟨[' '], by decide⟩,
    .bare (.number false ⟨['5'], by decide⟩ none none)⟩
  back := ⟨[], rfl⟩

/-- A message shows the number, which the reading of values takes for a name. -/
theorem message_fiveOtherwise :
    String.ofList (token fiveOtherwise.written) = "\x7b\x7bn || 5\x7d\x7d" ∧
    fiveOtherwise.message (.record []) ≠
      ((Value.resolve (.record []) fiveOtherwise.written).map Value.display).getD "" := by
  have hregular : ∀ p ∈ fiveOtherwise.paths, p.regular (.record []) = true := by
    intro p hp
    cases List.mem_singleton.1 hp
    rfl
  have hmisread : fiveOtherwise.Misread (.record []) :=
    ⟨_, rfl, _, rfl, rfl, rfl, .int 5, by decide +kernel, by decide +kernel⟩
  refine ⟨by decide +kernel, fun he => renderText_ne hregular hmisread ?_⟩
  rw [← toList_message, he, toList_resolved]

end TokenBody

end Dialogue.Template
