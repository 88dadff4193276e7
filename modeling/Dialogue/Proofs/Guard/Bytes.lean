import Dialogue.Proofs.Guard.Shading
import Dialogue.Proofs.Guard.Margins
import Dialogue.Proofs.Text.Bytes

/-!
# Guards by bytes

A guard is given in UTF-8, and whoever searches it by bytes has to cut it again and again: before
the next place, behind a quotation mark, before and after a junction. A cut inside a character would
fail. Here the search and the cutting are done by bytes with cuts that may fail. None does, and what
comes out is what comes out for the characters.

* `Guard.Scans`: the search for spans, one place or one span at a time.
* `Guard.byteSpans?_eq`: the search by bytes finds the bytes of the spans.
* `Guard.bytePieces?_eq`: the cutting by bytes yields the pieces.
* `Guard.concat_pieces`: no character is lost between the pieces.
* `Guard.split_bytes`: what the spans by bytes are, and what the pieces make up.
-/

namespace Dialogue.Guard

open Text

variable {text before shield rest : List Char} {spans : List Span} {s : Span}

/-! ### The search for spans -/

/-- Whether a word may begin after a text. -/
def wordAfter (before : List Char) : Bool := before.getLast?.all isBlank

/-- What a span takes of a text that stands after another: braces up to the first closing ones, or
all of it when these are missing; or a quotation, where a word may begin. -/
inductive Shield (before text : List Char) : (shield rest : List Char) → Prop
  | braces {inner rest : List Char} (opens : begins ['\x7b', '\x7b'] text = true)
      (closes : cut? ['\x7d', '\x7d'] text = some (inner, rest)) :
      Shield before text (inner ++ ['\x7d', '\x7d']) rest
  | unclosed (opens : begins ['\x7b', '\x7b'] text = true)
      (never : cut? ['\x7d', '\x7d'] text = none) : Shield before text text []
  | quoted {q : Char} {cs inner rest : List Char} (bare : begins ['\x7b', '\x7b'] text = false)
      (opens : text = q :: cs) (mark : q = '"' ∨ q = '\'') (word : wordAfter before = true)
      (closes : cut? [q] cs = some (inner, rest)) : Shield before text (q :: (inner ++ [q])) rest

/-- A place of a text where a span may begin: before braces, or before a quotation mark where a word
begins. -/
def Opens (before rest : List Char) : Prop :=
  begins ['\x7b', '\x7b'] rest = true ∨
    (rest.head? = some '"' ∨ rest.head? = some '\'') ∧ wordAfter before = true

namespace Shield

theorem text_eq (h : Shield before text shield rest) : text = shield ++ rest := by
  cases h with
  | braces _ closes => exact cut?_eq_some closes
  | unclosed => exact (List.append_nil text).symm
  | quoted _ opens _ _ closes => rw [opens, cut?_eq_some closes, List.cons_append]

theorem opens (h : Shield before text shield rest) : Opens before text := by
  cases h with
  | braces opens _ => exact .inl opens
  | unclosed opens _ => exact .inl opens
  | quoted _ opens mark word _ =>
    subst opens
    exact .inr ⟨mark.imp (congrArg some) (congrArg some), word⟩

theorem ne_nil (h : Shield before text shield rest) : shield ≠ [] := by
  cases h with
  | braces => exact List.append_ne_nil_of_right_ne_nil _ (List.cons_ne_nil _ _)
  | unclosed opens _ =>
    rintro rfl
    cases opens
  | quoted => exact List.cons_ne_nil _ _

/-- No word begins right after a span, unless the text ends there. -/
theorem wordAfter_or (h : Shield before text shield rest) :
    wordAfter (before ++ shield) = false ∨ rest = [] := by
  cases h with
  | @braces inner =>
    refine .inl ?_
    rw [wordAfter, show before ++ (inner ++ ['\x7d', '\x7d']) =
      before ++ inner ++ ['\x7d'] ++ ['\x7d'] by simp, List.getLast?_concat]
    rfl
  | unclosed => exact .inr rfl
  | @quoted q cs inner _ _ _ mark =>
    refine .inl ?_
    rw [wordAfter, show before ++ q :: (inner ++ [q]) = before ++ q :: inner ++ [q] by simp,
      List.getLast?_concat]
    rcases mark with rfl | rfl <;> rfl

end Shield

theorem exists_shield {c : Char} {cs : List Char} {n : Nat}
    (h : spanHere? (wordAfter before) c cs = some n) :
    ∃ shield rest, Shield before (c :: cs) shield rest ∧ shield.length = n := by
  rw [spanHere?] at h
  split at h
  · rename_i hopens
    cases hcut : cut? ['\x7d', '\x7d'] (c :: cs) with
    | none =>
      rw [hcut] at h
      cases h
      exact ⟨_, _, .unclosed hopens hcut, List.length_cons⟩
    | some found =>
      rw [hcut] at h
      cases h
      exact ⟨_, _, .braces hopens hcut, List.length_append⟩
  · rename_i hbare
    split at h
    · rename_i hq
      obtain ⟨⟨inner, rest⟩, hcut, rfl⟩ := Option.map_eq_some_iff.1 h
      exact ⟨_, _, .quoted (by simpa using hbare) rfl hq.1 hq.2 hcut, by simp⟩
    · cases h

/-- The search for spans has come to a place between two parts of a text, and these are the spans it
finds from there on. -/
inductive Scans : (before rest : List Char) → List Span → Prop
  | done (before : List Char) : Scans before [] []
  | pass {before cs : List Char} {c : Char} {spans : List Span}
      (bare : spanHere? (wordAfter before) c cs = none) (more : Scans (before ++ [c]) cs spans) :
      Scans before (c :: cs) spans
  | span {before text shield rest : List Char} {spans : List Span}
      (here : Shield before text shield rest) (more : Scans (before ++ shield) rest spans) :
      Scans before text (⟨before.length, (before ++ shield).length⟩ :: spans)

/-- The spans of a text are those that the search finds. -/
theorem scans_spansFrom (before rest : List Char) :
    Scans before rest (spansFrom 0 (wordAfter before) before.length rest) := by
  -- The search goes on behind a span, so the induction is on what is left.
  induction hn : rest.length using Nat.strong_induction_on generalizing before rest with
  | _ n ih =>
    subst hn
    cases rest with
    | nil => exact .done before
    | cons c cs =>
      rw [spansFrom_zero]
      cases hhere : spanHere? (wordAfter before) c cs with
      | none =>
        have hmore := ih cs.length (Nat.lt_succ_self _) (before ++ [c]) cs rfl
        rw [List.length_append, wordAfter, List.getLast?_concat] at hmore
        exact .pass hhere hmore
      | some len =>
        obtain ⟨shield, rest, hs, rfl⟩ := exists_shield hhere
        obtain ⟨d, shield, rfl⟩ := List.exists_cons_of_ne_nil hs.ne_nil
        obtain ⟨rfl, htext⟩ := List.cons.inj (hs.text_eq.trans List.cons_append)
        subst htext
        have hshorter : rest.length < (c :: (shield ++ rest)).length := by
          rw [List.length_cons, List.length_append]
          omega
        have hmore := ih rest.length hshorter (before ++ c :: shield) rest rfl
        have hword : spansFrom 0 (wordAfter (before ++ c :: shield)) (before ++ c :: shield).length
            rest = spansFrom 0 false (before ++ c :: shield).length rest := by
          rcases hs.wordAfter_or with hw | rfl
          · rw [hw]
          · rfl
        have hplace : before.length + 1 + shield.length = (before ++ c :: shield).length := by
          simp
          omega
        dsimp only
        rw [List.length_cons, Nat.add_sub_cancel, spansFrom_length, hplace, ← hword,
          show before.length + (shield.length + 1) = (before ++ c :: shield).length by simp]
        exact .span hs hmore

namespace Scans

theorem le_start (h : Scans before rest spans) (hs : s ∈ spans) : before.length ≤ s.start := by
  induction h with
  | done => cases hs
  | pass _ _ ih =>
    have hle := ih hs
    rw [List.length_append] at hle
    exact Nat.le_of_add_right_le hle
  | span _ _ ih =>
    rcases List.mem_cons.1 hs with rfl | hs
    · exact Nat.le_refl _
    · have hle := ih hs
      rw [List.length_append] at hle
      exact Nat.le_of_add_right_le hle

/-- A span ends before the next one begins. -/
theorem pairwise (h : Scans before rest spans) : spans.Pairwise (·.stop ≤ ·.start) := by
  induction h with
  | done => exact .nil
  | pass _ _ ih => exact ih
  | span _ more ih => exact .cons (fun _ hs => more.le_start hs) ih

/-- A span stands for a part of the text. -/
theorem exists_of_mem (h : Scans before rest spans) (hs : s ∈ spans) :
    ∃ a shield b, before ++ rest = a ++ (shield ++ b) ∧ Shield a (shield ++ b) shield b ∧
      s = ⟨a.length, (a ++ shield).length⟩ := by
  induction h with
  | done => cases hs
  | pass _ _ ih =>
    obtain ⟨a, shield, b, htext, hshield, heq⟩ := ih hs
    exact ⟨a, shield, b, by rw [← htext, List.append_assoc]; rfl, hshield, heq⟩
  | @span before text shield rest spans here _ ih =>
    obtain rfl := here.text_eq
    rcases List.mem_cons.1 hs with rfl | hs
    · exact ⟨before, shield, rest, rfl, here, rfl⟩
    · obtain ⟨a, shield', b, htext, hshield, heq⟩ := ih hs
      exact ⟨a, shield', b, by rw [← htext, List.append_assoc], hshield, heq⟩

end Scans

theorem scans_shieldedSpans (text : List Char) : Scans [] text (shieldedSpans text) :=
  scans_spansFrom [] text

/-! ### Spans by bytes -/

/-- The bytes of a span. -/
def Span.inBytes (text : List Char) (s : Span) : Span := ⟨byteOf text s.start, byteOf text s.stop⟩

/-- The byte at which the span ends that begins at byte `i` of a text of so many bytes, if one
begins there. The text has been cut there already; it is cut again behind a quotation mark. -/
def shieldEnd? (size i : Nat) (before : List Char) (c : Char) (cs : List Char) :
    Option (Option Nat) :=
  if begins ['\x7b', '\x7b'] (c :: cs) then
    some (some (match cut? ['\x7d', '\x7d'] (c :: cs) with
      | some (inner, _) => i + utf8Length inner + 2
      | none => size))
  else if (c = '"' ∨ c = '\'') ∧ wordAfter before then
    (cutBytes? 1 (c :: cs)).map fun (_, behind) =>
      (cut? [c] behind).map fun (inner, _) => i + 1 + utf8Length inner + 1
  else some none

theorem lt_of_shieldEnd? {size i stop : Nat} {c : Char} {cs : List Char} (hi : i < size)
    (h : shieldEnd? size i before c cs = some (some stop)) : i < stop := by
  rw [shieldEnd?] at h
  split at h
  · cases hcut : cut? ['\x7d', '\x7d'] (c :: cs) with
    | none =>
      rw [hcut] at h
      cases h
      exact hi
    | some found =>
      rw [hcut] at h
      cases h
      dsimp only
      omega
  · split at h
    · obtain ⟨⟨_, behind⟩, -, h⟩ := Option.map_eq_some_iff.1 h
      obtain ⟨⟨inner, _⟩, -, rfl⟩ := Option.map_eq_some_iff.1 h
      dsimp only
      omega
    · cases h

/-- The spans from byte `i` on, by bytes; none when the text is cut inside a character. -/
def byteSpansFrom? (text : List Char) (i : Nat) : Option (List Span) :=
  if hi : i < utf8Length text then
    match cutBytes? i text with
    | none => none
    | some (_, []) => some []
    | some (before, c :: cs) =>
      match h : shieldEnd? (utf8Length text) i before c cs with
      | none => none
      | some (some stop) =>
        have := lt_of_shieldEnd? hi h
        (byteSpansFrom? text stop).map (⟨i, stop⟩ :: ·)
      | some none =>
        have := c.utf8Size_pos
        byteSpansFrom? text (i + c.utf8Size)
  else some []
termination_by utf8Length text - i

/-- The spans of a text, by bytes. -/
def byteSpans? (text : List Char) : Option (List Span) := byteSpansFrom? text 0

theorem byteSpansFrom?_step {c : Char} {cs : List Char} :
    byteSpansFrom? (before ++ c :: cs) (utf8Length before) =
      match shieldEnd? (utf8Length (before ++ c :: cs)) (utf8Length before) before c cs with
      | none => none
      | some (some stop) =>
        (byteSpansFrom? (before ++ c :: cs) stop).map (⟨utf8Length before, stop⟩ :: ·)
      | some none => byteSpansFrom? (before ++ c :: cs) (utf8Length (before ++ [c])) := by
  have hi : utf8Length before < utf8Length (before ++ c :: cs) := by
    have hpos := utf8Length_pos (List.cons_ne_nil c cs)
    rw [utf8Length_append]
    omega
  rw [byteSpansFrom?, dif_pos hi, cutBytes?_append]
  dsimp only
  split
  · rename_i h
    rw [h]
  · rename_i h
    rw [h]
  · rename_i h
    rw [h, utf8Length_append, utf8Length_cons, utf8Length_nil, Nat.add_zero]

/-- A quotation mark is a single byte. -/
theorem cutBytes?_mark {q : Char} (hq : q = '"' ∨ q = '\'') (cs : List Char) :
    cutBytes? 1 (q :: cs) = some ([q], cs) := by
  have hcut := cutBytes?_append [q] cs
  rcases hq with rfl | rfl <;> exact hcut

theorem shieldEnd?_of_none {size i : Nat} {c : Char} {cs : List Char}
    (h : spanHere? (wordAfter before) c cs = none) : shieldEnd? size i before c cs = some none := by
  rw [spanHere?] at h
  rw [shieldEnd?]
  split at h
  · cases h
  · rename_i hbare
    rw [if_neg hbare]
    split at h
    · rename_i hq
      rw [if_pos hq, cutBytes?_mark hq.1, Option.map_some]
      dsimp only
      rw [Option.map_eq_none_iff.1 h]
      rfl
    · rename_i hq
      rw [if_neg hq]

theorem Shield.shieldEnd?_eq {c : Char} {cs : List Char}
    (h : Shield before (c :: cs) shield rest) :
    shieldEnd? (utf8Length (before ++ c :: cs)) (utf8Length before) before c cs =
      some (some (utf8Length (before ++ shield))) := by
  rw [shieldEnd?]
  cases h with
  | @braces inner _ opens closes =>
    rw [if_pos opens, closes, utf8Length_append before (inner ++ _), utf8Length_append inner,
      ← Nat.add_assoc]
    rfl
  | unclosed opens never => rw [if_pos opens, never]
  | @quoted _ _ inner _ bare opens mark word closes =>
    cases opens
    have hsize : c.utf8Size = 1 := by rcases mark with rfl | rfl <;> rfl
    rw [if_neg (by simp [bare]), if_pos ⟨mark, word⟩, cutBytes?_mark mark, Option.map_some]
    dsimp only
    rw [closes, Option.map_some, utf8Length_append, utf8Length_cons, utf8Length_append,
      utf8Length_cons, hsize, utf8Length_nil, Nat.add_assoc, Nat.add_assoc]

/-- The search by bytes goes the way of the search by characters. -/
theorem Scans.byteSpansFrom?_eq (h : Scans before rest spans) :
    byteSpansFrom? (before ++ rest) (utf8Length before) =
      some (spans.map (·.inBytes (before ++ rest))) := by
  induction h with
  | done before =>
    rw [byteSpansFrom?, dif_neg (by rw [List.append_nil]; exact Nat.lt_irrefl _)]
    rfl
  | @pass before cs c spans bare _ ih =>
    rw [List.append_assoc, List.singleton_append] at ih
    rw [byteSpansFrom?_step, shieldEnd?_of_none bare]
    exact ih
  | @span before text shield rest spans here _ ih =>
    obtain rfl := here.text_eq
    obtain ⟨c, shield, rfl⟩ := List.exists_cons_of_ne_nil here.ne_nil
    rw [List.append_assoc] at ih
    have hspan : (⟨before.length, (before ++ c :: shield).length⟩ : Span).inBytes
        (before ++ (c :: shield ++ rest)) =
          ⟨utf8Length before, utf8Length (before ++ c :: shield)⟩ := by
      rw [Span.inBytes, byteOf_append, ← List.append_assoc, byteOf_append]
    have hend : shieldEnd? (utf8Length (before ++ c :: (shield ++ rest))) (utf8Length before) before
        c (shield ++ rest) = some (some (utf8Length (before ++ c :: shield))) := here.shieldEnd?_eq
    rw [List.map_cons, hspan, List.cons_append, byteSpansFrom?_step, hend]
    dsimp only
    rw [← List.cons_append, ih, Option.map_some]

/-- **The search by bytes never cuts inside a character, and it finds the bytes of the spans.** -/
theorem byteSpans?_eq (text : List Char) :
    byteSpans? text = some ((shieldedSpans text).map (·.inBytes text)) :=
  (scans_shieldedSpans text).byteSpansFrom?_eq

example : byteSpans? "ß '“' \x7b\x7bé".toList = some [⟨3, 8⟩, ⟨9, 13⟩] := by
  rw [byteSpans?_eq]
  decide

/-! ### Pieces by bytes -/

/-- The bytes of a junction. -/
def JunctionAt.inBytes (text : List Char) (j : JunctionAt) : JunctionAt :=
  ⟨j.span.inBytes text, j.junction⟩

/-- Cuts a text, of which so many bytes have been cut off, at those junctions that begin in no span:
the piece before the first of them, and each with the text it takes and the piece after it. -/
def bytePiecesFrom? (text : List Char) (shielded : List Span) (last : Nat) :
    List JunctionAt → Option (List Char × List (Junction × List Char × List Char))
  | [] => (cutBytes? last text).map fun (_, rest) => (rest, [])
  | j :: more =>
    if shielded.any (·.covers j.span.start) then bytePiecesFrom? text shielded last more
    else do
      let piece ← slice? last j.span.start text
      let taken ← slice? j.span.start j.span.stop text
      let (next, others) ← bytePiecesFrom? text shielded j.span.stop more
      some (piece, (j.junction, taken, next) :: others)

/-- The pieces of a text and the junctions between them, with all cuts made by bytes. -/
def bytePieces? (text : List Char) :
    Option (List Char × List (Junction × List Char × List Char)) :=
  (byteSpans? text).bind fun shielded =>
    bytePiecesFrom? text shielded 0 ((junctionsFrom 0 0 text).map (·.inBytes text))

theorem covers_inBytes {i : Nat} (hs : s.start ≤ text.length ∧ s.stop ≤ text.length)
    (hi : i ≤ text.length) : (s.inBytes text).covers (byteOf text i) = s.covers i := by
  have hlt : byteOf text i < byteOf text s.stop ↔ i < s.stop := by
    rw [← Nat.not_le, ← Nat.not_le, byteOf_le_iff hs.2 hi]
  rw [Span.covers, Span.covers, Span.inBytes]
  dsimp only
  rw [decide_eq_decide.2 (byteOf_le_iff hs.1 hi), decide_eq_decide.2 hlt]

theorem any_covers_inBytes {i : Nat}
    (hs : ∀ s ∈ spans, s.start ≤ text.length ∧ s.stop ≤ text.length) (hi : i ≤ text.length) :
    (spans.map (·.inBytes text)).any (·.covers (byteOf text i)) = spans.any (·.covers i) := by
  rw [List.any_map, Bool.eq_iff_iff, List.any_eq_true, List.any_eq_true]
  refine exists_congr fun s => and_congr_right fun hm => ?_
  rw [Function.comp_apply, covers_inBytes (hs s hm) hi]

theorem cutAt_drop {last : Nat} {j : JunctionAt} (hstart : last ≤ j.span.start)
    (hstop : j.span.start ≤ j.span.stop) (more : List JunctionAt) :
    cutAt last (text.drop last) (j :: more) =
      ((text.drop last).take (j.span.start - last),
        (j.junction, (text.drop j.span.start).take (j.span.stop - j.span.start),
          (cutAt j.span.stop (text.drop j.span.stop) more).1) ::
          (cutAt j.span.stop (text.drop j.span.stop) more).2) := by
  rw [cutAt]
  dsimp only
  rw [List.drop_drop, Nat.add_sub_cancel' hstart, List.drop_drop, Nat.add_sub_cancel' hstop]

theorem bytePiecesFrom?_eq (hs : ∀ s ∈ spans, s.start ≤ text.length ∧ s.stop ≤ text.length)
    {last : Nat} {js : List JunctionAt} (hj : Within last text.length js) :
    bytePiecesFrom? text (spans.map (·.inBytes text)) (byteOf text last)
        (js.map (·.inBytes text)) =
      some (cutAt last (text.drop last)
        (js.filter fun j => !spans.any (·.covers j.span.start))) := by
  induction js generalizing last with
  | nil =>
    have hcut := cutBytes?_append (text.take last) (text.drop last)
    rw [List.take_append_drop] at hcut
    rw [List.map_nil, bytePiecesFrom?, byteOf, hcut]
    rfl
  | cons j js ih =>
    obtain ⟨hstart, hlt, hrest⟩ := hj
    have hstop : j.span.stop ≤ text.length := hrest.le
    have hle : j.span.start ≤ j.span.stop := Nat.le_of_lt hlt
    have hin : j.span.start ≤ text.length := Nat.le_trans hle hstop
    have hcovers : (spans.map (·.inBytes text)).any (·.covers (j.inBytes text).span.start) =
        spans.any (·.covers j.span.start) := any_covers_inBytes hs hin
    rw [List.map_cons, bytePiecesFrom?, hcovers]
    cases hcov : spans.any (·.covers j.span.start) with
    | true =>
      -- A junction in a span is passed over, and the piece goes on.
      rw [if_pos rfl, List.filter_cons_of_neg (by simp [hcov])]
      exact ih (hrest.mono (Nat.le_trans hstart hle))
    | false =>
      have hpiece : slice? (byteOf text last) (j.inBytes text).span.start text =
          some ((text.drop last).take (j.span.start - last)) := slice?_byteOf hstart hin
      have htaken : slice? (j.inBytes text).span.start (j.inBytes text).span.stop text =
          some ((text.drop j.span.start).take (j.span.stop - j.span.start)) :=
        slice?_byteOf hle hstop
      have hmore := ih hrest
      rw [if_neg (by simp), List.filter_cons_of_pos (by simp [hcov]), cutAt_drop hstart hle, hpiece,
        htaken]
      simp only [Option.bind_eq_bind, Option.bind_some]
      rw [show (j.inBytes text).span.stop = byteOf text j.span.stop from rfl, hmore]
      rfl

/-- Spans lie in their text. -/
theorem le_length_of_mem_shieldedSpans (hs : s ∈ shieldedSpans text) :
    s.start ≤ text.length ∧ s.stop ≤ text.length := by
  obtain ⟨a, shield, b, rfl, -, rfl⟩ := (scans_shieldedSpans text).exists_of_mem hs
  simp

/-- **The cutting by bytes never cuts inside a character, and it yields the pieces.** -/
theorem bytePieces?_eq (text : List Char) : bytePieces? text = some (pieces text) := by
  have hw := within_junctionsFrom 0 0 (Nat.zero_le text.length)
  rw [Nat.zero_add, Nat.zero_add] at hw
  rw [bytePieces?, byteSpans?_eq, Option.bind_some]
  exact bytePiecesFrom?_eq (fun s hs => le_length_of_mem_shieldedSpans hs) hw

/-! ### Nothing is lost -/

/-- A text that has been cut at junctions, put together again. -/
def concat (cut : List Char × List (Junction × List Char × List Char)) : List Char :=
  cut.1 ++ cut.2.flatMap fun (_, taken, piece) => taken ++ piece

theorem concat_cutAt (offset : Nat) (text : List Char) (js : List JunctionAt) :
    concat (cutAt offset text js) = text := by
  induction js generalizing offset text with
  | nil => exact List.append_nil text
  | cons j js ih =>
    have hmore := ih j.span.stop
      ((text.drop (j.span.start - offset)).drop (j.span.stop - j.span.start))
    rw [concat] at hmore
    rw [cutAt, concat]
    dsimp only
    rw [List.flatMap_cons, List.append_assoc, hmore, List.take_append_drop, List.take_append_drop]

theorem concat_pieces (text : List Char) : concat (pieces text) = text := concat_cutAt 0 text _

/-- What a junction takes of a text: its word between white space. -/
def Joined (j : Junction) (taken : List Char) : Prop :=
  ∃ gap tail, taken = gap ++ (j.text.toList ++ tail) ∧ gap ≠ [] ∧ tail ≠ [] ∧ Blank gap ∧ Blank tail

theorem Leads.joined {t b : List Char} {j : Junction} (h : Leads (t ++ b) j t.length) :
    Joined j t := by
  obtain ⟨gap, tail, rest, ht, hgap, htail, hg, hb, -, hlen⟩ := h
  have hsame : (gap ++ (j.text.toList ++ tail)).length = t.length := by
    rw [hlen, List.length_append, List.length_append, String.length_toList, Nat.add_assoc]
  rw [show gap ++ (j.text.toList ++ (tail ++ rest)) = gap ++ (j.text.toList ++ tail) ++ rest by
    simp only [List.append_assoc]] at ht
  exact ⟨gap, tail, (List.append_inj ht hsame.symm).1, hgap, htail, hg, hb⟩

theorem joined_of_mem_pieces {p : Junction × List Char × List Char} (h : p ∈ (pieces text).2) :
    Joined p.1 p.2.1 := by
  -- What follows the first junction is cut as a text of its own, and is shorter.
  induction hn : text.length using Nat.strong_induction_on generalizing text with
  | _ n ih =>
    subst hn
    rcases sealed_or_exists_first text with hs | ⟨a, t, b, j, rfl, hf⟩
    · rw [pieces_of_sealed hs] at h
      cases h
    · rw [pieces_of_first hf] at h
      rcases List.mem_cons.1 h with rfl | h
      · exact hf.leads.joined
      · have hpos := hf.leads.pos
        refine ih b.length ?_ h rfl
        rw [List.length_append, List.length_append]
        omega

/-! ### The whole -/

/-- A span of bytes shields a part of a text: it is not empty, lies within the text, begins and ends
between characters, and begins where a span may. -/
structure Span.Shields (s : Span) (text : String) : Prop where
  start_lt_stop : s.start < s.stop
  stop_le : s.stop ≤ text.utf8ByteSize
  isValid_start : String.Pos.Raw.IsValid text ⟨s.start⟩
  isValid_stop : String.Pos.Raw.IsValid text ⟨s.stop⟩
  opens : ∃ before rest, cutBytes? s.start text.toList = some (before, rest) ∧ Opens before rest

theorem shields_inBytes {text : String} (hs : s ∈ shieldedSpans text.toList) :
    (s.inBytes text.toList).Shields text := by
  obtain ⟨a, shield, b, htext, hshield, rfl⟩ := (scans_shieldedSpans text.toList).exists_of_mem hs
  obtain rfl : text = String.ofList (a ++ (shield ++ b)) := by
    rw [← htext, List.nil_append, String.ofList_toList]
  have hbytes : (⟨a.length, (a ++ shield).length⟩ : Span).inBytes (a ++ (shield ++ b)) =
      ⟨utf8Length a, utf8Length (a ++ shield)⟩ := by
    rw [Span.inBytes, byteOf_append, ← List.append_assoc, byteOf_append]
  rw [String.toList_ofList, hbytes]
  exact
    { start_lt_stop := by
        have hpos := utf8Length_pos hshield.ne_nil
        dsimp only
        rw [utf8Length_append]
        omega
      stop_le := by
        rw [utf8ByteSize_ofList, ← List.append_assoc, utf8Length_append (a ++ shield)]
        exact Nat.le_add_right _ _
      isValid_start := isValid_utf8Length a (shield ++ b)
      isValid_stop := by
        rw [← List.append_assoc]
        exact isValid_utf8Length (a ++ shield) b
      opens := by
        rw [String.toList_ofList]
        exact ⟨a, shield ++ b, cutBytes?_append a (shield ++ b), hshield.opens⟩ }

theorem pairwise_inBytes (text : List Char) :
    ((shieldedSpans text).map (·.inBytes text)).Pairwise (·.stop ≤ ·.start) := by
  rw [List.pairwise_map]
  refine (scans_shieldedSpans text).pairwise.imp_of_mem fun ha hb hle => ?_
  exact (byteOf_le_iff (le_length_of_mem_shieldedSpans ha).2
    (le_length_of_mem_shieldedSpans hb).1).2 hle

/-- **Each text is searched and cut by bytes without fail.** The spans follow one another, and each
shields a part of the text. The pieces and the junctions between them, one after the other, are the
text. -/
theorem split_bytes (text : String) :
    (∃ spans, byteSpans? text.toList = some spans ∧
      spans = (shieldedSpans text.toList).map (·.inBytes text.toList) ∧
      spans.Pairwise (·.stop ≤ ·.start) ∧ ∀ s ∈ spans, s.Shields text) ∧
    bytePieces? text.toList = some (pieces text.toList) ∧
    concat (pieces text.toList) = text.toList ∧
    ∀ p ∈ (pieces text.toList).2, Joined p.1 p.2.1 := by
  refine ⟨⟨_, byteSpans?_eq _, rfl, pairwise_inBytes _, fun s hs => ?_⟩, bytePieces?_eq _,
    concat_pieces _, fun p hp => joined_of_mem_pieces hp⟩
  obtain ⟨span, hspan, rfl⟩ := List.mem_map.1 hs
  exact shields_inBytes hspan

end Dialogue.Guard
