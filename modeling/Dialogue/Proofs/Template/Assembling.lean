import Dialogue.Proofs.Template.Tags
import Dialogue.Proofs.Template.Tokens

/-!
# Texts and tags in turn

The tags of a template are first read and then assembled. Nothing is lost when each tag is assembled
as soon as it is read, and what follows a tag then comes after what the tag has left.

* `build_eq`, `parse_eq_build`: reading and assembling in one go.
* `parse_value`, `parse_turn`, `parse_none`: a template that is a single tag.
* `readPlain_append`: a text in which no tag begins is read up to the tag behind it.
* `Point.text_tag`, `Point.last_text`: a text before a tag, whose margins may be dropped, and then the
  tag; the text at the end.
-/

namespace Dialogue.Template

open Text

variable {cs rest text : List Char} {a : Assembly} {fuel : Nat}

/-! ### Reading and assembling in one go -/

/-- What is assembled in the end. -/
def Assembly.finish (a : Assembly) (tail : List Char) : Option (List Element) :=
  if a.unclosed.isEmpty then some (a.addGap tail).here.reverse else none

/-- The tag or text at the front of a text. -/
def readNext (here : List Char) : Option (Tag × List Char) :=
  if begins ['\x7b', '\x7b'] here then readTag here
  else
    let (text, rest) := readPlain ['\x7b', '\x7b'] (here.length + 1) here
    some (.text text, rest)

/-- Reads tags and takes in each of them at once. -/
def build : (fuel : Nat) → (blank : Bool) → Assembly → List Char → Option (List Element)
  | 0, _, _, _ => none
  | fuel + 1, blank, a, cs =>
    let here := skip cs
    let gap := cs.take (cs.length - here.length)
    let start := lineIsBlank blank gap
    if here = [] then a.finish gap
    else
      match readNext here with
      | none => none
      | some (tag, rest) =>
        (a.step ⟨gap, tag, start, restIsBlank rest⟩).bind fun a =>
          build fuel (lineIsBlank start (here.take (here.length - rest.length))) a rest

theorem build_eq (fuel : Nat) (blank : Bool) (a : Assembly) (cs : List Char) :
    build fuel blank a cs = (readTags fuel blank cs).bind fun (tags, tail) =>
      (a.steps tags).bind (·.finish tail) := by
  induction fuel generalizing blank a cs with
  | zero => rfl
  | succ fuel ih =>
    rw [build, readTags]
    dsimp only [readNext]
    split
    · rfl
    · generalize (if begins ['\x7b', '\x7b'] (skip cs) = true then readTag (skip cs) else some _) =
        next
      cases next with
      | none => rfl
      | some r =>
        obtain ⟨tag, rest⟩ := r
        simp only [ih]
        cases readTags fuel (lineIsBlank _ ((skip cs).take ((skip cs).length - rest.length))) rest with
        | none => cases a.step _ <;> rfl
        | some r =>
          obtain ⟨more, tail⟩ := r
          simp only [Option.bind_some, Assembly.steps, Option.bind_assoc]

theorem parse_eq_build (cs : List Char) :
    parse cs = build (cs.length + 1) true ⟨false, false, [], []⟩ cs := by
  rw [build_eq, parse]
  rfl

/-! ### What assembling leaves alone -/

namespace Assembly

@[simp] theorem unclosed_changeLast (f : List Char → List Char) (a : Assembly) :
    (a.changeLast f).unclosed = a.unclosed := by
  unfold changeLast
  split <;> rfl

@[simp] theorem unclosed_addGap (gap : List Char) (a : Assembly) :
    (a.addGap gap).unclosed = a.unclosed := by
  unfold addGap
  split <;> rfl

@[simp] theorem unclosed_wave (before after : Bool) (a : Assembly) :
    (a.wave before after).unclosed = a.unclosed := by
  cases before
  · rfl
  · exact unclosed_changeLast _ a

@[simp] theorem unclosed_ownLine (first last : Bool) (a : Assembly) :
    (a.ownLine first last).unclosed = a.unclosed := by
  cases last
  · rfl
  · cases first
    · rfl
    · exact unclosed_changeLast _ a

theorem turn_of_unclosed_nil (h : a.unclosed = []) (next : Option Expression) :
    a.turn next = none := by
  rw [turn, h]

/-- Outside of all blocks there is no other case. -/
theorem step_of_turns {p : Placed} (h : a.unclosed = []) (hp : p.tag.turns = true) :
    a.step p = none := by
  obtain ⟨gap, tag, first, last⟩ := p
  cases tag with
  | otherwise before after => exact turn_of_unclosed_nil (by simpa using h) none
  | otherwiseIf e => exact turn_of_unclosed_nil (by simpa using h) (some e)
  | text | value | opening | hidden | closing | verbatim | comment | refused => cases hp

end Assembly

/-! ### A template of one tag -/

theorem skip_brace (cs : List Char) : skip ('\x7b' :: cs) = '\x7b' :: cs := skip_cons (by decide) cs

/-- The first tag of what begins with one, after white space. -/
theorem build_tag (fuel : Nat) (blank : Bool) (a : Assembly) {gap : List Char} (hg : skip gap = [])
    {tag : Tag} {more : List Char}
    (h : readTag ('\x7b' :: '\x7b' :: more) = some (tag, rest)) :
    ∃ start next, build (fuel + 1) blank a (gap ++ '\x7b' :: '\x7b' :: more) =
      (a.step ⟨gap, tag, start, restIsBlank rest⟩).bind (build fuel next · rest) := by
  have hskip : skip (gap ++ '\x7b' :: '\x7b' :: more) = '\x7b' :: '\x7b' :: more := by
    rw [skip, Json.skipSpace, List.dropWhile_append,
      show gap.dropWhile _ = [] from hg]
    exact skip_brace _
  have hgap : (gap ++ '\x7b' :: '\x7b' :: more).take ((gap ++ '\x7b' :: '\x7b' :: more).length -
      ('\x7b' :: '\x7b' :: more).length) = gap := by
    rw [List.length_append, Nat.add_sub_cancel, List.take_left]
  have hnext : readNext ('\x7b' :: '\x7b' :: more) = some (tag, rest) := h
  exact ⟨_, _, by rw [build, hskip, hgap]; simp only [hnext]; rfl⟩

variable {more : List Char}

/-- A template that begins with a tag. -/
theorem parse_tag {tag : Tag} (h : readTag ('\x7b' :: '\x7b' :: more) = some (tag, rest)) :
    ∃ start next, parse ('\x7b' :: '\x7b' :: more) =
      ((⟨false, false, [], []⟩ : Assembly).step ⟨[], tag, start, restIsBlank rest⟩).bind
        (build (more.length + 2) next · rest) := by
  rw [parse_eq_build]
  exact build_tag (more.length + 2) true ⟨false, false, [], []⟩ (show skip [] = [] from rfl) h

/-- A template that is one value. -/
theorem parse_value {e : Expression} (hb : e.trimBefore = false)
    (h : readTag ('\x7b' :: '\x7b' :: more) = some (.value e, [])) :
    parse ('\x7b' :: '\x7b' :: more) = some [.value e] := by
  obtain ⟨start, next, hparse⟩ := parse_tag h
  rw [hparse]
  simp only [Assembly.step, hb]
  rfl

/-- A template that cannot be read. -/
theorem parse_none (h : readTag ('\x7b' :: '\x7b' :: more) = none) :
    parse ('\x7b' :: '\x7b' :: more) = none := by
  rw [parse_eq_build, build, skip_brace]
  have hnext : readNext ('\x7b' :: '\x7b' :: more) = none := h
  simp only [hnext]
  rfl

/-- No template begins with the other case of a block. -/
theorem parse_turn {r : Tag × List Char} (h : readTag ('\x7b' :: '\x7b' :: more) = some r)
    (ht : r.1.turns = true) : parse ('\x7b' :: '\x7b' :: more) = none := by
  obtain ⟨start, next, hparse⟩ := parse_tag h
  rw [hparse, Assembly.step_of_turns rfl ht]
  rfl

/-! ### A text before a tag -/

/-- A text that is read up to what follows it: no tag begins in it, and no backslash at its end
touches a tag. -/
inductive Plain (rest : List Char) : List Char → Prop where
  | nil : Plain rest []
  | cons {c : Char} {text : List Char} (opens : begins openMark (c :: (text ++ rest)) = false)
    (escapes : c = '\\' → text = [] → rest = []) (more : Plain rest text) : Plain rest (c :: text)

theorem plain_outside (h : isOutside text = true) (rest : List Char) : Plain rest text := by
  induction text with
  | nil => exact .nil
  | cons c text ih =>
    refine .cons (begins_outside h (List.cons_ne_nil c text) rest) ?_ (ih (isOutside_tail h))
    rintro rfl rfl
    cases h

theorem plain_alone (h : hasOpenMark text = false) : Plain [] text := by
  induction text with
  | nil => exact .nil
  | cons c text ih =>
    refine .cons ?_ (fun _ _ => rfl) (ih (hasOpenMark_tail h))
    rw [List.append_nil]
    exact begins_of_plain h

theorem Plain.append_right {front : List Char} (h : Plain rest (front ++ text)) :
    Plain rest text := by
  induction front with
  | nil => exact h
  | cons c front ih =>
    cases h with
    | cons _ _ more => exact ih more

theorem Plain.not_begins {c : Char} (h : Plain rest (c :: text)) :
    begins openMark (c :: text ++ rest) = false := by
  cases h with
  | cons opens _ _ => exact opens

/-- Behind a backslash, no tag begins after further backslashes. -/
theorem Plain.begins_dropWhile (h : Plain rest ('\\' :: text)) :
    begins openMark ((text ++ rest).dropWhile (· = '\\')) = false := by
  induction text with
  | nil =>
    cases h with
    | cons _ escapes _ => rw [escapes rfl rfl]; rfl
  | cons c text ih =>
    cases h with
    | cons _ _ more =>
      by_cases hc : c = '\\'
      · subst hc
        exact ih more
      · rw [List.cons_append, List.dropWhile_cons_of_neg (by simpa using hc)]
        cases more with
        | cons opens _ _ => exact opens

theorem after?_of_dropWhile (h : begins openMark (cs.dropWhile (· = '\\')) = false) :
    after? openMark cs = none := by
  cases cs with
  | nil => rfl
  | cons c cs =>
    by_cases hc : c = '\\'
    · subst hc
      rfl
    · rw [List.dropWhile_cons_of_neg (by simpa using hc)] at h
      simpa [begins] using h

/-- A text is read up to what follows it. -/
theorem readPlain_append (h : Plain rest text) (hr : rest = [] ∨ begins openMark rest = true)
    (hf : text.length < fuel) : readPlain openMark fuel (text ++ rest) = (text, rest) := by
  induction text generalizing fuel with
  | nil =>
    obtain ⟨fuel, rfl⟩ : ∃ k, fuel = k + 1 := ⟨fuel - 1, by simp at hf; omega⟩
    rcases hr with rfl | hr
    · rfl
    · cases rest with
      | nil => rfl
      | cons c rest => rw [List.nil_append, readPlain, if_pos hr]
  | cons c text ih =>
    obtain ⟨fuel, rfl⟩ : ∃ k, fuel = k + 1 := ⟨fuel - 1, by simp at hf; omega⟩
    obtain ⟨opens, escapes, more⟩ : begins openMark (c :: (text ++ rest)) = false ∧
        (c = '\\' → begins openMark ((text ++ rest).dropWhile (· = '\\')) = false) ∧
          Plain rest text := by
      refine ⟨?_, fun hc => ?_, ?_⟩
      · cases h; assumption
      · subst hc; exact h.begins_dropWhile
      · cases h; assumption
    have hrest := ih more (Nat.lt_of_succ_lt_succ hf)
    rw [List.cons_append, readPlain, if_neg (by simp [opens])]
    by_cases hc : c = '\\'
    · have hmark : mark? "\x7b\x7b" (text ++ rest) = none :=
        after?_of_dropWhile (escapes hc)
      rw [if_pos hc, hmark]
      simp only [hrest]
      rw [if_neg]
      rintro ⟨-, hb⟩
      rw [show ['\x7b', '\x7b'] = openMark from rfl, escapes hc] at hb
      cases hb
    · rw [if_neg hc, hrest]

/-! ### White space beside tags -/

/-- What is left of a text of which white space at its ends is dropped. -/
def Thins (text thin : List Char) : Prop :=
  ∃ front back, Blank front ∧ Blank back ∧ text = front ++ (thin ++ back)

variable {thin : List Char}

theorem thins_self (text : List Char) : Thins text text :=
  ⟨[], [], blank_nil, blank_nil, (List.append_nil _).symm⟩

theorem thins_nil (h : Thins [] thin) : thin = [] := by
  obtain ⟨front, back, -, -, ht⟩ := h
  exact (List.append_eq_nil_iff.1 (List.append_eq_nil_iff.1 ht.symm).2).1

theorem Thins.dropFront (h : Thins text thin) {front more : List Char} (hf : Blank front)
    (ht : thin = front ++ more) : Thins text more := by
  obtain ⟨before, after, hb, ha, rfl⟩ := h
  refine ⟨before ++ front, after, fun c hc => ?_, ha, by rw [ht]; simp only [List.append_assoc]⟩
  exact (List.mem_append.1 hc).elim (hb c) (hf c)

theorem Thins.dropBack (h : Thins text thin) {more back : List Char} (hb : Blank back)
    (ht : thin = more ++ back) : Thins text more := by
  obtain ⟨before, after, hf, ha, rfl⟩ := h
  refine ⟨before, back ++ after, hf, fun c hc => ?_, by rw [ht]; simp only [List.append_assoc]⟩
  exact (List.mem_append.1 hc).elim (hb c) (ha c)

theorem isBlank_of_isInlineBlank {c : Char} (h : isInlineBlank c = true) : isBlank c = true := by
  simp only [isInlineBlank, Bool.or_eq_true, beq_iff_eq] at h
  rcases h with rfl | rfl <;> rfl

theorem blank_takeWhile (cs : List Char) : Blank (cs.takeWhile isInlineBlank) := fun c hc =>
  isBlank_of_isInlineBlank (List.all_eq_true.1 List.all_takeWhile c hc)

theorem exists_dropLineEnd (cs : List Char) : ∃ front, Blank front ∧ cs = front ++ dropLineEnd cs := by
  have hcs : cs = cs.takeWhile isInlineBlank ++ cs.dropWhile isInlineBlank :=
    List.takeWhile_append_dropWhile.symm
  have hline : ∀ mark : List Char, Blank mark → Blank (cs.takeWhile isInlineBlank ++ mark) :=
    fun mark hm c hc => (List.mem_append.1 hc).elim (blank_takeWhile cs c) (hm c)
  rw [dropLineEnd]
  split
  · rename_i rest hrest
    exact ⟨_, hline ['\r', '\n'] (List.all_eq_true.1 (by decide)), by
      rw [List.append_assoc, ← show _ = ['\r', '\n'] ++ rest from hrest]; exact hcs⟩
  · rename_i rest hrest
    exact ⟨_, hline ['\n'] (List.all_eq_true.1 (by decide)), by
      rw [List.append_assoc, ← show _ = ['\n'] ++ rest from hrest]; exact hcs⟩
  · exact ⟨_, blank_takeWhile cs, hcs⟩

theorem Thins.dropLineEnd (h : Thins text thin) : Thins text (dropLineEnd thin) := by
  obtain ⟨front, hf, ht⟩ := exists_dropLineEnd thin
  exact h.dropFront hf ht

theorem Thins.dropInline (h : Thins text thin) :
    Thins text (dropEndWhile isInlineBlank thin) := by
  have hr : thin.reverse = thin.reverse.takeWhile isInlineBlank ++
      thin.reverse.dropWhile isInlineBlank := List.takeWhile_append_dropWhile.symm
  have hback : Blank (thin.reverse.takeWhile isInlineBlank).reverse := fun c hc =>
    blank_takeWhile _ c (List.mem_reverse.1 hc)
  refine h.dropBack hback ?_
  rw [dropEndWhile, ← List.reverse_append, ← hr, List.reverse_reverse]

/-- The elements that a text leaves: what is left of it, or none where nothing is. -/
structure Leaves (text thin : List Char) (elements : List Element) : Prop where
  thins : Thins text thin
  elements : elements = [.text thin] ∨ elements = [] ∧ thin = []

/-- There is at most one element. -/
theorem Leaves.reverse_eq {elements : List Element} (h : Leaves text thin elements) :
    elements.reverse = elements := by
  rcases h.elements with rfl | ⟨rfl, -⟩ <;> rfl

namespace Assembly

/-- Nothing that comes next changes what is here already: neither a wave is open nor a text the last. -/
structure Ready (a : Assembly) : Prop where
  trimNext : a.trimNext = false
  here : ∀ cs more, a.here ≠ .text cs :: more

/-- What a text adds before a tag. -/
structure Added (text : List Char) (a b : Assembly) : Prop where
  trimNext : b.trimNext = false
  unclosed : b.unclosed = a.unclosed
  here : ∃ thin elements, Leaves text thin elements ∧ b.here = elements ++ a.here

variable {b : Assembly}

/-- White space between tags is added as a text is, if at all. -/
theorem Ready.addGap (ha : a.Ready) (gap : List Char) : Added gap a (a.addGap gap) := by
  unfold Assembly.addGap
  split
  · rename_i h
    have hgap : gap = [] := h.resolve_right (by simp [ha.trimNext])
    exact ⟨ha.trimNext, rfl, [], [], ⟨hgap ▸ thins_self [], .inr ⟨rfl, rfl⟩⟩, rfl⟩
  · refine ⟨ha.trimNext, rfl, _, _, ⟨?_, .inl rfl⟩, rfl⟩
    split
    · exact (thins_self gap).dropLineEnd
    · exact thins_self gap

theorem Ready.addText (ha : a.Ready) (text : List Char) : Added text a (a.addText text) := by
  refine ⟨ha.trimNext, rfl, _, _, ⟨?_, .inl rfl⟩, rfl⟩
  rw [ha.trimNext, if_neg Bool.false_ne_true]
  split
  · exact (thins_self text).dropLineEnd
  · exact thins_self text

/-- A line of a tag takes white space with it, and nothing of what was there before. -/
theorem Added.ownLine (ha : a.Ready) (h : Added text a b) (first last : Bool) :
    Added text a (b.ownLine first last) := by
  obtain ⟨thin, elements, hleaves, hhere⟩ := h.here
  have hsame : Added text a { b with trimLine := first } :=
    ⟨h.trimNext, h.unclosed, thin, elements, hleaves, hhere⟩
  cases last with
  | false => exact ⟨h.trimNext, h.unclosed, thin, elements, hleaves, hhere⟩
  | true =>
    cases first with
    | false => exact hsame
    | true =>
      rw [Assembly.ownLine, if_pos rfl, if_pos rfl]
      rcases hleaves with ⟨hthin, rfl | ⟨rfl, rfl⟩⟩
      · have hb : b.here = .text thin :: a.here := hhere
        rw [changeLast, hb]
        exact ⟨h.trimNext, h.unclosed, _, _, ⟨hthin.dropInline, .inl rfl⟩, rfl⟩
      · -- nothing was added, and what was there before does not end in a text
        rw [changeLast]
        split
        · rename_i cs more he
          exact absurd (hhere.symm.trans he) (ha.here cs more)
        · exact hsame

theorem Added.wave (h : Added text a b) : Added text a (b.wave false false) :=
  ⟨rfl, h.unclosed, h.here⟩

end Assembly

/-! ### A text and the tag behind it -/

/-- A text that is not white space is taken in up to what follows it. -/
theorem build_text (fuel : Nat) (blank : Bool) (a : Assembly) {c : Char} {back : List Char}
    (hs : skip text = c :: back) (ht : Plain rest text)
    (hr : rest = [] ∨ begins openMark rest = true) :
    ∃ next, build (fuel + 1) blank a (text ++ rest) = build fuel next (a.addText text) rest := by
  obtain ⟨gap, hgap⟩ : ∃ gap, text = gap ++ (c :: back) := by
    rw [← hs]
    exact ⟨_, List.takeWhile_append_dropWhile.symm⟩
  have hskip : skip (text ++ rest) = c :: back ++ rest := by
    rw [skip, Json.skipSpace, List.dropWhile_append, show text.dropWhile _ = c :: back from hs]
    rfl
  have htake : (text ++ rest).take ((text ++ rest).length - (c :: back ++ rest).length) = gap := by
    rw [hgap, List.append_assoc, List.length_append, Nat.add_sub_cancel, List.take_left]
  have hback : Plain rest (c :: back) := (hgap ▸ ht : Plain rest (gap ++ (c :: back))).append_right
  have hnext : readNext (c :: back ++ rest) = some (.text (c :: back), rest) := by
    have hread := readPlain_append hback hr
      (show (c :: back).length < (c :: back ++ rest).length + 1 by rw [List.length_append]; omega)
    rw [readNext, show ['\x7b', '\x7b'] = openMark from rfl, hback.not_begins,
      if_neg Bool.false_ne_true, hread]
  exact ⟨_, by
    rw [build, hskip, htake]
    simp only [hnext, Assembly.step, Option.bind_some, ← hgap]
    rfl⟩

/-- Where assembling stands: what is assembled so far and the characters that are left, with the fuel
for them and whether only blanks stand before them on their line. -/
structure Point where
  fuel : Nat
  blank : Bool
  assembly : Assembly
  chars : List Char

namespace Point

/-- What is assembled from here on. -/
def result (s : Point) : Option (List Element) := build s.fuel s.blank s.assembly s.chars

/-- A point from which assembling can go on. -/
structure Fit (s : Point) : Prop where
  ready : s.assembly.Ready
  ample : s.chars.length < s.fuel

/-- Assembling leads from one point to another. -/
structure Leads (s t : Point) : Prop where
  fit : t.Fit
  result : s.result = t.result

theorem Leads.trans {s t u : Point} (h : s.Leads t) (h' : t.Leads u) : s.Leads u :=
  ⟨h'.fit, h.result.trans h'.result⟩

variable {s : Point}

/-- A text and then a tag: the tag comes upon what the text has added. -/
theorem text_tag (hs : s.Fit) (ht : isOutside text = true) {tag : Tag} {more : List Char}
    (hc : s.chars = text ++ '\x7b' :: '\x7b' :: more)
    (h : readTag ('\x7b' :: '\x7b' :: more) = some (tag, rest)) (hr : rest.length ≤ more.length) :
    ∃ (b : Assembly) (gap : List Char) (start : Bool), s.assembly.Added text (b.addGap gap) ∧
      ∀ c, b.step ⟨gap, tag, start, restIsBlank rest⟩ = some c → c.Ready →
        ∃ t, s.Leads t ∧ t.chars = rest ∧ t.assembly = c := by
  obtain ⟨fuel, blank, a, cs⟩ := s
  obtain ⟨ready, ample⟩ := hs
  dsimp only at hc ready ample ⊢
  subst hc
  simp only [List.length_append, List.length_cons] at ample
  obtain ⟨k, rfl⟩ : ∃ k, fuel = k + 2 := ⟨fuel - 2, by omega⟩
  -- white space alone is no text but the gap before the tag
  cases hskip : skip text with
  | nil =>
    obtain ⟨start, next, hbuild⟩ := build_tag (k + 1) blank a hskip h
    refine ⟨a, text, start, ready.addGap text, fun c hstep hready => ?_⟩
    refine ⟨⟨k + 1, next, c, rest⟩, ⟨⟨hready, ?_⟩, ?_⟩, rfl, rfl⟩
    · show rest.length < k + 1
      omega
    · rw [result, hbuild, hstep]
      rfl
  | cons c back =>
    have hlen : 0 < text.length := by
      cases text with
      | nil => cases hskip
      | cons c text => exact Nat.succ_pos _
    obtain ⟨next, htext⟩ :=
      build_text (k + 1) blank a hskip (plain_outside ht ('\x7b' :: '\x7b' :: more)) (.inr rfl)
    obtain ⟨start, after, hbuild⟩ :=
      build_tag k next (a.addText text) (show skip [] = [] from rfl) h
    refine ⟨a.addText text, [], start, ready.addText text, fun c hstep hready => ?_⟩
    refine ⟨⟨k, after, c, rest⟩, ⟨⟨hready, ?_⟩, ?_⟩, rfl, rfl⟩
    · show rest.length < k
      omega
    · rw [result, htext, ← List.nil_append ('\x7b' :: '\x7b' :: more), hbuild, hstep]
      rfl

/-- The last text of a template. -/
theorem last_text (hs : s.Fit) (hu : s.assembly.unclosed = [])
    (ht : hasOpenMark s.chars = false) :
    ∃ thin elements, Leaves s.chars thin elements ∧
      s.result = some (s.assembly.here.reverse ++ elements) := by
  obtain ⟨fuel, blank, a, text⟩ := s
  obtain ⟨ready, ample⟩ := hs
  dsimp only at hu ht ready ample ⊢
  have hfinish : ∀ b : Assembly, a.Added text b → ∃ thin elements, Leaves text thin elements ∧
      (if b.unclosed.isEmpty then some b.here.reverse else none) =
        some (a.here.reverse ++ elements) := by
    intro b hb
    obtain ⟨thin, elements, hleaves, hhere⟩ := hb.here
    refine ⟨thin, elements, hleaves, ?_⟩
    rw [hb.unclosed, hu, hhere, List.reverse_append, hleaves.reverse_eq]
    rfl
  cases hskip : skip text with
  | nil =>
    obtain ⟨k, rfl⟩ : ∃ k, fuel = k + 1 := ⟨fuel - 1, by omega⟩
    have hbuild : build (k + 1) blank a text = a.finish text := by
      rw [build, hskip, if_pos rfl, List.length_nil, Nat.sub_zero, List.take_length]
    rw [result, hbuild, Assembly.finish, hu]
    have := hfinish _ (ready.addGap text)
    rwa [Assembly.unclosed_addGap, hu] at this
  | cons c back =>
    have hlen : 0 < text.length := by
      cases text with
      | nil => cases hskip
      | cons c text => exact Nat.succ_pos _
    obtain ⟨k, rfl⟩ : ∃ k, fuel = k + 2 := ⟨fuel - 2, by omega⟩
    obtain ⟨next, htext⟩ := build_text (k + 1) blank a hskip (plain_alone ht) (.inl rfl)
    rw [List.append_nil] at htext
    rw [result, htext]
    exact hfinish _ (ready.addText text)

end Point

end Dialogue.Template
