import Dialogue.Proofs.Chat.Located
import Dialogue.Proofs.Value.Plain

/-!
# Replies that were cut off

A model that may say no more stops in the middle of the record it was asked for. The record itself is
never read then, but it is sought from every brace in turn, so that a record within it that is whole
already is taken in its place.

* `Value.nested`: the records in a value in the order of their opening braces, with where they end.
* `Reply.Yields`: what is found in a piece of a text that is cut off, and how such pieces are put
  together.
* `Reply.record_take`: which record is found in a record that is cut off.
* `Reply.record_cut`: a reply that was cut off is refused unless it holds another record that is whole.
-/

namespace Dialogue

open Json (quoteChars)

/-! ### Records within a value -/

/-- A record within a written value, and where in the text it ends. -/
structure Nested where
  stop : Nat
  fields : Fields Value
  deriving DecidableEq, Repr

namespace Value

mutual

/-- The records in a value, itself included, in the order in which they begin in its compact text;
`start` is where that text begins. -/
def nested (start : Nat) : Value → List Nested
  | list items => nestedItems (start + 1) items
  | record fields =>
    ⟨start + (compactChars (record fields)).length, fields⟩ :: nestedFields (start + 1) fields
  | _ => []

/-- The records in the items of a list. -/
def nestedItems (start : Nat) : List Value → List Nested
  | [] => []
  | item :: more => item.nested start ++ nestedItems (start + item.compactChars.length + 1) more

/-- The records in the fields of a record. -/
def nestedFields (start : Nat) : List (String × Value) → List Nested
  | [] => []
  | (name, value) :: more =>
    value.nested (start + (quoteChars name).length + 1) ++
      nestedFields
        (start + (quoteChars name).length + 1 + value.compactChars.length + 1) more

end

mutual

/-- The texts in a value, and the names of its fields. -/
def texts : Value → List String
  | text s => [s]
  | list items => textsOfItems items
  | record fields => textsOfFields fields
  | _ => []

/-- The texts and names in the items of a list. -/
def textsOfItems : List Value → List String
  | [] => []
  | item :: more => item.texts ++ textsOfItems more

/-- The texts and names in the fields of a record. -/
def textsOfFields : List (String × Value) → List String
  | [] => []
  | (name, value) :: more => name :: (value.texts ++ textsOfFields more)

end

/-- No text and no name in a value holds an opening brace. -/
def Braceless (v : Value) : Prop := ∀ s ∈ v.texts, '\x7b' ∉ s.toList

end Value

namespace Reply

open Json (Heads)

/-! ### Pieces of a text -/

/-- The first record that is whole when the text is cut off behind so many characters. -/
def firstWhole (n : Nat) (records : List Nested) : Option Nested := records.find? (·.stop ≤ n)

theorem firstWhole_of_le {n : Nat} {m : Nested} {records : List Nested} (h : m.stop ≤ n) :
    firstWhole n (m :: records) = some m :=
  List.find?_cons_of_pos (decide_eq_true h)

theorem firstWhole_of_lt {n : Nat} {m : Nested} {records : List Nested} (h : n < m.stop) :
    firstWhole n (m :: records) = firstWhole n records :=
  List.find?_cons_of_neg (by simpa using h)

/-- In a piece of a text that begins at `start` and is cut off behind `n` characters, the first whole
record is found if it can be read. If none is whole, the search goes on behind the piece. -/
def Yields (n start : Nat) (cs : List Char) (records : List Nested) : Prop :=
  ∀ first tail, (∀ m, firstWhole n records = some m → Readable m.fields) →
    ∃ first', recordFrom first ((cs ++ tail).take (n - start)) =
      match firstWhole n records with
      | some m => .ok m.fields
      | none => recordFrom first' (tail.take (n - (start + cs.length)))

variable {n start mid : Nat} {cs ds : List Char} {records more : List Nested}

/-- A piece without braces is passed over. -/
theorem yields_of_notMem (h : '\x7b' ∉ cs) : Yields n start cs [] := by
  intro first tail _
  refine ⟨first, ?_⟩
  have hcs : '\x7b' ∉ cs.take (n - start) := fun hm => h (List.mem_of_mem_take hm)
  rw [List.take_append, recordFrom_append hcs, Nat.sub_sub]
  rfl

/-- Two pieces, one after the other. -/
theorem Yields.append (h : Yields n start cs records) (hmid : mid = start + cs.length)
    (hd : Yields n mid ds more) : Yields n start (cs ++ ds) (records ++ more) := by
  subst hmid
  intro first tail hr
  have hfind : firstWhole n (records ++ more) =
      (firstWhole n records).or (firstWhole n more) := List.find?_append
  rw [hfind] at hr ⊢
  obtain ⟨first', hfirst⟩ := h first (ds ++ tail) fun m hm => hr m (by rw [hm, Option.some_or])
  rw [List.append_assoc, hfirst]
  cases hm : firstWhole n records with
  | some m => exact ⟨first', rfl⟩
  | none =>
    -- the search goes on with the failure that it met first, which may be one in the first piece
    rw [hm, Option.none_or] at hr
    obtain ⟨first'', hsecond⟩ := hd first' tail hr
    refine ⟨first'', ?_⟩
    rw [Option.none_or, List.length_append, ← Nat.add_assoc]
    exact hsecond

/-- A piece in front of a comma, a bracket or whatever else holds no brace. -/
theorem Yields.before (h : Yields n start cs records) (ds : List Char) (hd : '\x7b' ∉ ds) :
    Yields n start (cs ++ ds) records := by
  have hnext : Yields n (start + cs.length) ds [] := yields_of_notMem hd
  have happend := h.append rfl hnext
  rwa [List.append_nil] at happend

/-- A piece behind something that holds no brace. -/
theorem Yields.behind (h : Yields n mid cs records) (ds : List Char) (hd : '\x7b' ∉ ds)
    (hmid : mid = start + ds.length) : Yields n start (ds ++ cs) records :=
  (yields_of_notMem hd).append hmid h

/-! ### Values -/

/-- The beginning of the compact text of a record is no complete record. -/
theorem not_heads_cut {fields : Fields Value} (h : n < (Value.record fields).compactChars.length) :
    ¬Heads ((Value.record fields).compactChars.take n) := by
  rw [← Layout.chars_compact 0] at h ⊢
  exact Json.not_heads_take h

/-- In a record that is cut off the search goes on behind its opening brace. -/
theorem exists_recordFrom_cut {fields : Fields Value} {content : List Char}
    (hcontent : (Value.record fields).compactChars = '\x7b' :: content)
    (h : n < (Value.record fields).compactChars.length) (first : Option TextFault)
    (tail : List Char) :
    ∃ first', recordFrom first (((Value.record fields).compactChars ++ tail).take n) =
      recordFrom first' ((content ++ tail).take (n - 1)) := by
  cases n with
  | zero => exact ⟨first, rfl⟩
  | succ n =>
    have hcut : ((Value.record fields).compactChars ++ tail).take (n + 1) =
        '\x7b' :: (content ++ tail).take n := by
      rw [hcontent]
      rfl
    have hheadless : ¬Heads ('\x7b' :: (content ++ tail).take n) := by
      rw [← hcut, List.take_append_of_le_length (Nat.le_of_lt h)]
      exact not_heads_cut h
    rw [hcut]
    exact exists_recordFrom_cons (fun _ fields hf => hheadless (heads_of_recordHere hf)) first

/-- A record that is whole is found, and one that is cut off is no record, so that the search goes on
within it. -/
theorem yields_record {fields : Fields Value} {content : List Char}
    (hcontent : (Value.record fields).compactChars = '\x7b' :: content)
    (h : Yields n (start + 1) content records) :
    Yields n start (Value.record fields).compactChars
      (⟨start + (Value.record fields).compactChars.length, fields⟩ :: records) := by
  intro first tail hr
  -- either the cut is behind the closing brace, or the record is no complete one
  by_cases hstop : start + (Value.record fields).compactChars.length ≤ n
  · rw [firstWhole_of_le hstop] at hr ⊢
    refine ⟨first, ?_⟩
    rw [List.take_append, List.take_of_length_le (by omega), ← Layout.chars_compact 0,
      recordFrom_chars (hr _ rfl)]
  · rw [firstWhole_of_lt (Nat.lt_of_not_le hstop)] at hr ⊢
    have hshort : n - start < (Value.record fields).compactChars.length := by
      rw [hcontent, List.length_cons] at hstop ⊢
      omega
    obtain ⟨first', hcut⟩ := exists_recordFrom_cut hcontent hshort first tail
    obtain ⟨first'', hfirst⟩ := h first' tail hr
    refine ⟨first'', ?_⟩
    rw [hcut, Nat.sub_sub, hfirst, hcontent, List.length_cons, Nat.add_right_comm, Nat.add_assoc]

theorem notMem_flatMap_escape {cs : List Char} (h : '\x7b' ∉ cs) :
    '\x7b' ∉ cs.flatMap Json.escape := by
  have hone : ∀ c, '\x7b' ∈ Json.escape c → c = '\x7b' := by
    intro c hc
    unfold Json.escape at hc
    split at hc
    all_goals first
      | exact absurd hc (by decide)
      | skip
    split at hc
    · have hhex : ∀ k, k < 16 → Text.hexDigit k ≠ '\x7b' := by decide
      simp only [List.mem_cons, List.not_mem_nil, or_false] at hc
      rcases hc with hc | hc | hc | hc | hc | hc
      all_goals first
        | exact absurd hc (by decide)
        | exact absurd hc.symm (hhex _ (by omega))
    · exact (List.mem_singleton.1 hc).symm
  intro hm
  obtain ⟨c, hc, hmem⟩ := List.mem_flatMap.1 hm
  exact h (hone c hmem ▸ hc)

/-- A text without a brace is written without one. -/
theorem notMem_quoteChars {s : String} (h : '\x7b' ∉ s.toList) : '\x7b' ∉ quoteChars s := by
  unfold quoteChars
  simp only [List.mem_cons, List.mem_append, List.not_mem_nil, or_false, not_or]
  exact ⟨by decide, notMem_flatMap_escape h, by decide⟩

theorem notMem_atom (v : Value) : '\x7b' ∉ v.atom := by
  have h := Value.any_atom v
  rw [List.any_eq_false] at h
  exact fun hm => h _ hm rfl

/-- The value of a field stands behind its name and a colon. -/
theorem Yields.behind_name {name : String} (hname : '\x7b' ∉ name.toList)
    (h : Yields n (start + (quoteChars name).length + 1) cs records) :
    Yields n start (quoteChars name ++ ':' :: cs) records := by
  have hcolon : '\x7b' ∉ quoteChars name ++ [':'] := by
    rw [List.mem_append, not_or]
    exact ⟨notMem_quoteChars hname, by decide⟩
  have hfield := h.behind _ hcolon (by rw [List.length_append, ← Nat.add_assoc]; rfl)
  rwa [List.append_assoc] at hfield

mutual

/-- In a compact text without braces in names and texts, the records of the value are found. -/
theorem yields_compactChars (n start : Nat) : (v : Value) → v.Braceless →
    Yields n start v.compactChars (v.nested start)
  | .null, _ => yields_of_notMem (notMem_atom .null)
  | .bool b, _ => yields_of_notMem (notMem_atom (.bool b))
  | .int i, _ => yields_of_notMem (notMem_atom (.int i))
  | .real x, _ => yields_of_notMem (notMem_atom (.real x))
  | .text s, h => yields_of_notMem (notMem_quoteChars (h s List.mem_cons_self))
  | .list items, h => by
    have hitems := yields_compactItems n (start + 1) items h
    exact (hitems.before [']'] (by decide)).behind ['['] (by decide) rfl
  | .record fields, h => by
    have hfields := yields_compactFields n (start + 1) fields h
    exact yields_record rfl (hfields.before ['\x7d'] (by decide))

theorem yields_compactItems (n start : Nat) : (items : List Value) →
    (∀ s ∈ Value.textsOfItems items, '\x7b' ∉ s.toList) →
    Yields n start (Value.compactItems items) (Value.nestedItems start items)
  | [], _ => yields_of_notMem List.not_mem_nil
  | [item], h => by
    have hitem := yields_compactChars n start item fun s hs => h s (List.mem_append_left _ hs)
    rw [Value.nestedItems, Value.nestedItems, List.append_nil]
    exact hitem
  | item :: next :: more, h => by
    have hitem := yields_compactChars n start item fun s hs => h s (List.mem_append_left _ hs)
    have hmore := yields_compactItems n (start + item.compactChars.length + 1) (next :: more)
      fun s hs => h s (List.mem_append_right _ hs)
    rw [Value.nestedItems, Value.compactItems]
    · exact hitem.append rfl (hmore.behind [','] (by decide) rfl)
    · exact List.cons_ne_nil next more

theorem yields_compactFields (n start : Nat) : (fields : List (String × Value)) →
    (∀ s ∈ Value.textsOfFields fields, '\x7b' ∉ s.toList) →
    Yields n start (Value.compactFields fields) (Value.nestedFields start fields)
  | [], _ => yields_of_notMem List.not_mem_nil
  | [(name, value)], h => by
    have hvalue := yields_compactChars n (start + (quoteChars name).length + 1) value fun s hs =>
      h s (List.mem_cons_of_mem _ (List.mem_append_left _ hs))
    rw [Value.nestedFields, Value.nestedFields, List.append_nil]
    exact hvalue.behind_name (h name List.mem_cons_self)
  | (name, value) :: next :: more, h => by
    have hvalue := yields_compactChars n (start + (quoteChars name).length + 1) value fun s hs =>
      h s (List.mem_cons_of_mem _ (List.mem_append_left _ hs))
    have hmore := yields_compactFields n
      (start + (quoteChars name).length + 1 + value.compactChars.length + 1) (next :: more)
      fun s hs => h s (List.mem_cons_of_mem _ (List.mem_append_right _ hs))
    have hfield := hvalue.behind_name (h name List.mem_cons_self)
    rw [Value.nestedFields, Value.compactFields]
    · refine hfield.append rfl (hmore.behind [','] (by decide) ?_)
      simp only [List.length_append, List.length_cons, List.length_nil]
      omega
    · exact List.cons_ne_nil next more

end

/-! ### Whole replies -/

/-- A reply that does not hold what was asked for, whatever fields are expected. -/
def Refused (reply : String) : Prop :=
  ∃ reason, record reply = .error ⟨reason, reply⟩ ∧
    ∀ declared, Reply.fields declared reply = .error ⟨reason, reply⟩

/-- A reply that is taken for a record, whatever fields are expected. -/
def TakenFor (reply : String) (found : Fields Value) : Prop :=
  record reply = .ok found ∧ ∀ declared, Reply.fields declared reply = .ok (fieldsOf declared found)

theorem refused_of_error {reply : String} {fault : Option TextFault}
    (h : recordFrom none reply.toList = .error fault) : Refused reply := by
  obtain ⟨reason, hreason⟩ := record_of_error h
  refine ⟨reason, hreason, fun declared => ?_⟩
  rw [Reply.fields, hreason]
  rfl

theorem takenFor_of_ok {reply : String} {found : Fields Value}
    (h : recordFrom none reply.toList = .ok found) : TakenFor reply found := by
  have hfound := record_eq_ok.2 h
  refine ⟨hfound, fun declared => ?_⟩
  rw [Reply.fields, hfound]
  rfl

/-- The beginning of the compact text of a record. -/
def cutOff (fields : Fields Value) (n : Nat) : String :=
  String.ofList ((Value.record fields).compactChars.take n)

/-- A record without braces in names and texts that is cut off is taken for the first record in it
that is whole, and refused when none is. -/
theorem record_take {fields : Fields Value} (hb : (Value.record fields).Braceless) (n : Nat) :
    (firstWhole n ((Value.record fields).nested 0) = none → Refused (cutOff fields n)) ∧
      ∀ m, firstWhole n ((Value.record fields).nested 0) = some m → Readable m.fields →
        TakenFor (cutOff fields n) m.fields := by
  have hyields := yields_compactChars n 0 (.record fields) hb none []
  have hreply : (cutOff fields n).toList =
      ((Value.record fields).compactChars ++ []).take (n - 0) := by
    rw [cutOff, String.toList_ofList, List.append_nil, Nat.sub_zero]
  refine ⟨fun hnone => ?_, fun m hm hr => ?_⟩
  · obtain ⟨first', hfirst⟩ := hyields fun m hm => by rw [hnone] at hm; cases hm
    rw [hnone, ← hreply] at hfirst
    rw [List.take_nil] at hfirst
    exact refused_of_error hfirst
  · obtain ⟨first', hfirst⟩ := hyields fun m' hm' => by
      obtain rfl := Option.some.inj (hm.symm.trans hm')
      exact hr
    rw [hm, ← hreply] at hfirst
    exact takenFor_of_ok hfirst

/-- A record that is cut off is not found itself. What is found in its place begins at a later brace,
and when no complete record begins at one, the reply is refused. When no name and no text holds a
brace, the reply is taken for the first record within the unfinished one that is whole, and refused
exactly when there is none. -/
theorem record_cut (fields : Fields Value) {n : Nat}
    (hn : n < (Value.record fields).compactChars.length) :
    (∀ found, record (cutOff fields n) = .ok found → ∃ here, here <:+ (cutOff fields n).toList ∧
      here ≠ (cutOff fields n).toList ∧ Heads here ∧ recordHere here = .ok (some found)) ∧
    ((∀ here, here <:+ (cutOff fields n).toList → here ≠ (cutOff fields n).toList → ¬Heads here) →
      Refused (cutOff fields n)) ∧
    ((Value.record fields).Braceless →
      (firstWhole n (Value.nestedFields 1 fields) = none → Refused (cutOff fields n)) ∧
      ∀ m, firstWhole n (Value.nestedFields 1 fields) = some m → Readable m.fields →
        TakenFor (cutOff fields n) m.fields) := by
  have hcut : ¬Heads (cutOff fields n).toList := by
    rw [cutOff, String.toList_ofList]
    exact not_heads_cut hn
  refine ⟨fun found hfound => ?_, fun hnone => ?_, fun hb => ?_⟩
  · obtain ⟨here, hsuffix, hheads, hread⟩ := exists_of_recordFrom (record_eq_ok.1 hfound)
    exact ⟨here, hsuffix, fun heq => hcut (heq ▸ hheads), hheads, hread⟩
  · have hless : Recordless (cutOff fields n).toList := by
      intro here hsuffix hheads
      by_cases heq : here = (cutOff fields n).toList
      · exact absurd (heq ▸ hheads) hcut
      · exact absurd hheads (hnone here hsuffix heq)
    obtain ⟨fault, hfault⟩ := exists_recordFrom_error hless none
    exact refused_of_error hfault
  · -- the record itself is not whole
    have hinner : firstWhole n ((Value.record fields).nested 0) =
        firstWhole n (Value.nestedFields 1 fields) := by
      rw [Value.nested, firstWhole_of_lt (by rwa [Nat.zero_add])]
    have h := record_take hb n
    rwa [hinner] at h

/-! ### A book that was cut off -/

/-- A book beside a note. -/
def shelf : Fields Value :=
  [("libro", .record [("titulo", .text "X")]), ("nota", .text "fin")]

/-- A reply that stops within the name of the note is taken for what belongs to the book; one that
stops within the book is refused. -/
theorem record_cut_shelf :
    26 < (Value.record shelf).compactChars.length ∧
      TakenFor (cutOff shelf 26) [("titulo", .text "X")] ∧ Refused (cutOff shelf 20) := by
  have hb : (Value.record shelf).Braceless := by
    unfold Value.Braceless
    decide
  have hreadable : Readable [("titulo", .text "X")] :=
    ⟨.record fun p hp => List.mem_singleton.1 hp ▸ .text 126 "X",
      .record (List.pairwise_singleton _ _) fun p hp => List.mem_singleton.1 hp ▸ .text "X",
      by decide⟩
  have hwhole : firstWhole 26 (Value.nestedFields 1 shelf) = some ⟨23, [("titulo", .text "X")]⟩ := by
    decide +kernel
  have hnone : firstWhole 20 (Value.nestedFields 1 shelf) = none := by decide +kernel
  exact ⟨by decide, ((record_cut shelf (by decide)).2.2 hb).2 _ hwhole hreadable,
    ((record_cut shelf (by decide)).2.2 hb).1 hnone⟩

/-- A reply that was cut off is not always refused: what belongs to the book is taken for the book and
its note. -/
theorem not_refused_cutOff_shelf :
    cutOff shelf 26 = "\x7b\"libro\":\x7b\"titulo\":\"X\"\x7d,\"n" ∧
      26 < (Value.record shelf).compactChars.length ∧ ¬Refused (cutOff shelf 26) := by
  have hfound : (record (cutOff shelf 26)).toOption = some [("titulo", .text "X")] := by
    decide +kernel
  refine ⟨by decide +kernel, by decide, ?_⟩
  rintro ⟨reason, hreason, -⟩
  rw [hreason] at hfound
  cases hfound

end Reply

end Dialogue
