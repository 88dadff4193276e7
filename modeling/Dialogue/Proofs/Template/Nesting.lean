import Dialogue.Proofs.Template.Markup

/-!
# Nested blocks assembled

What is prepared of a template of repeated blocks is read tag by tag, each with the text before it. A
block is open while its body is assembled, and what stands before it waits.

* `Markup.Trims`: a template of whose texts white space beside tags is dropped.
* `Markup.Parses`: the elements that a template is assembled into.
* `Markup.parse_prepared`: what is prepared of a template is assembled into its elements.
-/

namespace Dialogue.Template

open Text

variable {scope : Value} {lists : List Value} {rest : List Char}

namespace Markup

/-- White space beside tags is dropped from the texts of a template. -/
inductive Trims : Markup → Markup → Prop where
  | nil : Trims .nil .nil
  | token {before thin : List Char} {margins : Margins} {p : PlainPath} {more left : Markup}
    (text : Thins before thin) (others : Trims more left) :
    Trims (.token before margins p more) (.token thin margins p left)
  | each {before thin last end_ : List Char} {opening closing : Margins} {p : PlainPath}
    {body inner more left : Markup} (text : Thins before thin) (within : Trims body inner)
    (ending : Thins last end_) (others : Trims more left) :
    Trims (.each before opening p body last closing more)
      (.each thin opening p inner end_ closing left)

/-- The elements of a template within blocks that are taken to repeat over these lists, beside the
template with the texts that the elements hold. -/
inductive Parses (scope : Value) :
    (lists : List Value) → Markup → Markup → List Element → Prop where
  | nil {lists : List Value} : Parses scope lists .nil .nil []
  | token {lists : List Value} {before thin : List Char} {margins : Margins} {p : PlainPath}
    {more left : Markup} {front back : List Element} (text : Leaves before thin front)
    (others : Parses scope lists more left back) :
    Parses scope lists (.token before margins p more) (.token thin margins p left)
      (front ++ .value (pathExpression p (outward scope lists p)) :: back)
  | each {lists : List Value} {before thin last end_ : List Char} {opening closing : Margins}
    {p : PlainPath} {body inner more left : Markup} {front within tail back : List Element}
    (text : Leaves before thin front)
    (items : Parses scope (soughtList scope p :: lists) body inner within)
    (ending : Leaves last end_ tail) (others : Parses scope lists more left back) :
    Parses scope lists (.each before opening p body last closing more)
      (.each thin opening p inner end_ closing left)
      (front ++ .block (eachExpression p) (within ++ tail) none :: back)

theorem Parses.trims {m left : Markup} {elements : List Element}
    (h : Parses scope lists m left elements) : Trims m left := by
  induction h with
  | nil => exact .nil
  | token text _ ih => exact .token text.thins ih
  | each text _ ending _ ihBody ihMore => exact .each text.thins ihBody ending.thins ihMore

end Markup

/-! ### One tag upon what is there -/

theorem token_append (inner rest : List Char) :
    token inner ++ rest = '\x7b' :: '\x7b' :: (inner ++ '\x7d' :: '\x7d' :: rest) := by
  simp [token, openMark, closeMark]

theorem length_le_token (inner rest : List Char) :
    rest.length ≤ (inner ++ '\x7d' :: '\x7d' :: rest).length := by
  simp only [List.length_append, List.length_cons]
  omega

/-- A block is an element of what stands before it once it is closed. -/
theorem Assembly.leave_each {a : Assembly} {outer : List Element} {e : Expression}
    {waiting : List Unclosed} (ht : a.trimNext = false)
    (hu : a.unclosed = ⟨false, "each", outer, e, [], false⟩ :: waiting) :
    ∃ b, a.leave "each" = some b ∧ b.Ready ∧ b.unclosed = waiting ∧
      b.here = .block e a.here.reverse none :: outer := by
  rw [leave, hu]
  exact ⟨_, rfl, ⟨ht, fun _ _ h => nomatch h⟩, rfl, rfl⟩

namespace Point

variable {s : Point}

/-- A text and the path of a token. -/
theorem token (hs : s.Fit) {before : List Char} (ht : isOutside before = true) {p : PlainPath}
    (hp : begins "else".toList p.head.chars = false) (k : Nat)
    (hc : s.chars = before ++ (Template.token (p.reached k) ++ rest)) :
    ∃ (thin : List Char) (front : List Element) (t : Point), Leaves before thin front ∧ s.Leads t ∧
      t.chars = rest ∧ t.assembly.unclosed = s.assembly.unclosed ∧
      t.assembly.here = .value (pathExpression p k) :: (front ++ s.assembly.here) := by
  rw [token_append] at hc
  obtain ⟨b, gap, start, hadded, hgo⟩ :=
    text_tag hs ht hc (readTag_reached hp k rest) (length_le_token _ _)
  obtain ⟨thin, front, hleaves, hhere⟩ := hadded.wave.here
  obtain ⟨t, hleads, hrest, hassembly⟩ := hgo _ rfl ⟨rfl, fun _ _ h => nomatch h⟩
  refine ⟨thin, front, t, hleaves, hleads, hrest, ?_, ?_⟩
  · rw [hassembly]
    exact hadded.wave.unclosed
  · rw [hassembly, ← hhere]
    rfl

/-- A text and the tag that opens a repeated block: what stands before it waits. -/
theorem opening (hs : s.Fit) {before : List Char} (ht : isOutside before = true) (p : PlainPath)
    (hc : s.chars = before ++ (Template.token ("#each ".toList ++ p.dotted) ++ rest)) :
    ∃ (thin : List Char) (front : List Element) (t : Point), Leaves before thin front ∧ s.Leads t ∧
      t.chars = rest ∧ t.assembly.here = [] ∧ t.assembly.unclosed =
        ⟨false, "each", front ++ s.assembly.here, eachExpression p, [], false⟩ ::
          s.assembly.unclosed := by
  rw [token_append, List.append_assoc] at hc
  obtain ⟨b, gap, start, hadded, hgo⟩ :=
    text_tag hs ht hc (readTag_opening p rest) (by
      rw [← List.append_assoc]
      exact length_le_token _ _)
  have hline := hadded.wave.ownLine hs.ready start (restIsBlank rest)
  obtain ⟨thin, front, hleaves, hhere⟩ := hline.here
  obtain ⟨t, hleads, hrest, hassembly⟩ := hgo _ rfl ⟨hline.trimNext, fun _ _ h => nomatch h⟩
  refine ⟨thin, front, t, hleaves, hleads, hrest, ?_, ?_⟩
  · rw [hassembly]
  · rw [hassembly, ← hline.unclosed, ← hhere]
    rfl

/-- A text and the tag that closes a repeated block. -/
theorem closing (hs : s.Fit) {last : List Char} (ht : isOutside last = true) {outer : List Element}
    {e : Expression} {waiting : List Unclosed}
    (hu : s.assembly.unclosed = ⟨false, "each", outer, e, [], false⟩ :: waiting)
    (hc : s.chars = last ++ (Template.token closingChars ++ rest)) :
    ∃ (thin : List Char) (tail : List Element) (t : Point), Leaves last thin tail ∧ s.Leads t ∧
      t.chars = rest ∧ t.assembly.unclosed = waiting ∧
      t.assembly.here = .block e (s.assembly.here.reverse ++ tail) none :: outer := by
  rw [token_append] at hc
  obtain ⟨b, gap, start, hadded, hgo⟩ :=
    text_tag hs ht hc (readTag_closing rest) (length_le_token _ _)
  have hline := hadded.wave.ownLine hs.ready start (restIsBlank rest)
  obtain ⟨thin, tail, hleaves, hhere⟩ := hline.here
  obtain ⟨c, hleave, hready, hunclosed, hblock⟩ :=
    Assembly.leave_each hline.trimNext (hline.unclosed.trans hu)
  obtain ⟨t, hleads, hrest, hassembly⟩ := hgo c hleave hready
  refine ⟨thin, tail, t, hleaves, hleads, hrest, hassembly ▸ hunclosed, ?_⟩
  rw [hassembly, hblock, hhere, List.reverse_append, hleaves.reverse_eq]

end Point

/-! ### Whole templates -/

namespace Markup

/-- A template is assembled into its elements, whatever follows it. -/
theorem leads_prepared (m : Markup) (hm : m.isFair = true) {s : Point} (hs : s.Fit)
    (hc : s.chars = m.prepared scope lists ++ rest) :
    ∃ (left : Markup) (elements : List Element) (t : Point), Parses scope lists m left elements ∧
      s.Leads t ∧ t.chars = rest ∧ t.assembly.unclosed = s.assembly.unclosed ∧
      t.assembly.here = elements.reverse ++ s.assembly.here := by
  -- what follows is kept general, since the body of a block is followed by its end
  induction m generalizing lists rest s with
  | nil => exact ⟨.nil, [], s, .nil, ⟨hs, rfl⟩, hc, rfl, rfl⟩
  | token before margins p more ih =>
    simp only [isFair, Bool.and_eq_true, Bool.not_eq_true'] at hm
    obtain ⟨⟨hbefore, hp⟩, hmore⟩ := hm
    rw [prepared, List.append_assoc, List.append_assoc] at hc
    obtain ⟨thin, front, t, hleaves, hleads, hrest, hunclosed, hhere⟩ :=
      Point.token hs hbefore hp (outward scope lists p) hc
    obtain ⟨left, back, u, hparses, hothers, hend, hwaiting, hdone⟩ := ih hmore hleads.fit hrest
    refine ⟨.token thin margins p left, _, u, .token hleaves hparses, hleads.trans hothers, hend,
      hwaiting.trans hunclosed, ?_⟩
    rw [hdone, hhere, List.reverse_append, List.reverse_cons, hleaves.reverse_eq]
    simp only [List.append_assoc, List.cons_append, List.nil_append]
  | each before opening p body last closing more ihBody ihMore =>
    simp only [isFair, Bool.and_eq_true] at hm
    obtain ⟨⟨⟨hbefore, hbody⟩, hlast⟩, hmore⟩ := hm
    rw [prepared, List.append_assoc, List.append_assoc, List.append_assoc, List.append_assoc,
      List.append_assoc] at hc
    obtain ⟨thin, front, t, hleaves, hopens, hinside, hempty, hopen⟩ := Point.opening hs hbefore p hc
    obtain ⟨inner, within, u, hitems, hwithin, hlastly, hstill, hdone⟩ :=
      ihBody hbody hopens.fit hinside
    obtain ⟨end_, tail, v, hends, hcloses, hbehind, hunclosed, hhere⟩ :=
      Point.closing hwithin.fit hlast (hstill.trans hopen) hlastly
    obtain ⟨left, back, w, hparses, hothers, hend, hwaiting, hfinal⟩ := ihMore hmore hcloses.fit hbehind
    rw [hempty, List.append_nil] at hdone
    refine ⟨.each thin opening p inner end_ closing left, _, w, .each hleaves hitems hends hparses,
      hopens.trans (hwithin.trans (hcloses.trans hothers)), hend, hwaiting.trans hunclosed, ?_⟩
    rw [hfinal, hhere, hdone, List.reverse_reverse, List.reverse_append, List.reverse_cons,
      hleaves.reverse_eq]
    simp only [List.append_assoc, List.cons_append, List.nil_append]

/-- What is prepared of a whole template is assembled into its elements and its last text. -/
theorem parse_prepared (scope : Value) (m : Markup) (hm : m.isFair = true) {last : List Char}
    (hl : hasOpenMark last = false) :
    ∃ (left : Markup) (elements : List Element) (thin : List Char) (tail : List Element),
      Parses scope [] m left elements ∧ Leaves last thin tail ∧
        parse (m.prepared scope [] ++ last) = some (elements ++ tail) := by
  let cs := m.prepared scope [] ++ last
  let start : Point := ⟨cs.length + 1, true, ⟨false, false, [], []⟩, cs⟩
  have hstart : start.Fit := ⟨⟨rfl, fun _ _ h => nomatch h⟩, Nat.lt_succ_self cs.length⟩
  obtain ⟨left, elements, t, hparses, hleads, hrest, hunclosed, hhere⟩ :=
    m.leads_prepared hm hstart (show start.chars = m.prepared scope [] ++ last from rfl)
  subst hrest
  obtain ⟨thin, tail, hleaves, hlast⟩ := t.last_text hleads.fit hunclosed hl
  refine ⟨left, elements, thin, tail, hparses, hleaves, ?_⟩
  rw [parse_eq_build]
  exact hleads.result.trans (by rw [hlast, hhere, List.append_nil, List.reverse_reverse])

end Markup

end Dialogue.Template
