import Dialogue.Chat.Reply
import Dialogue.Proofs.Document.Accepted
import Dialogue.Proofs.Document.Spelled

/-!
# Finding a record in prose

A model may wrap the record it was asked for in prose. The record is found behind anything that holds
no opening brace, whatever follows it. Where no complete record begins at any brace, the reply is
refused as a whole.

* `Reply.recordHere_chars`, `Reply.heads_of_recordHere`: what is read as a record at a brace.
* `Reply.recordFrom_append`, `Reply.exists_recordFrom_error`: what is sought beyond it.
* `Reply.record_located`: a written record is found, and without a complete one there is none.
-/

namespace Dialogue

/-- A record that the reader takes in as it is written: within its bounds, in order, and with
floating-point numbers whose texts are read as these numbers. -/
structure Readable (fields : Fields Value) : Prop where
  fits : (Value.record fields).Fits 127
  ordered : (Value.record fields).Ordered
  survive : ∀ x ∈ (Value.record fields).reals, Json.Survives x

namespace Reply

open Json (Heads Spans)

variable {cs tail : List Char} {fields : Fields Value} {first : Option TextFault}

/-! ### At a brace -/

/-- A written record is read from where it begins, whatever follows it. -/
theorem recordHere_chars (h : Readable fields) (l : Layout) (level : Nat) (tail : List Char) :
    recordHere (l.chars level (.record fields) ++ tail) = .ok (some fields) := by
  unfold recordHere
  rw [Json.readPart_record h.fits h.survive, Document.toValue_ofValue h.ordered]

/-- What begins with a brace is no value but a record. -/
theorem heads_of_spans {content rest : List Char} (h : Spans .value ('\x7b' :: content) rest) :
    Heads ('\x7b' :: content) := by
  have hskip : Json.skipSpace ('\x7b' :: content) = '\x7b' :: content := rfl
  cases h with
  | word word hw h =>
    have hword : ∀ word ∈ Json.keywords, word.toList.head? ≠ some '\x7b' ∧
        word.toList ≠ [] := by decide
    rw [hskip] at h
    obtain ⟨hhead, hne⟩ := hword word hw
    cases hl : word.toList with
    | nil => exact absurd hl hne
    | cons c letters =>
      rw [hl] at h hhead
      exact absurd (congrArg List.head? h).symm hhead
  | number h =>
    obtain ⟨fraction, exponent, hw, -, -⟩ := h
    rw [hskip] at hw
    cases hw with
    | digit _ hc => cases hc
    | digits _ hc _ => cases hc
  | negative h _ => cases hskip.symm.trans h
  | text h _ => cases hskip.symm.trans h
  | list h _ => cases hskip.symm.trans h
  | record h hf =>
    cases hskip.symm.trans h
    exact ⟨content, rest, rfl, hf⟩

/-- Where a record is read at a brace, a complete one stands there. -/
theorem heads_of_recordHere {content : List Char}
    (h : recordHere ('\x7b' :: content) = .ok (some fields)) : Heads ('\x7b' :: content) := by
  unfold recordHere at h
  split at h
  · rename_i hv
    obtain ⟨rest, -, hspans⟩ := Json.spans_readPart hv
    exact heads_of_spans hspans
  · cases h
  · cases h

/-! ### From brace to brace -/

theorem recordFrom_cons_of_ne {c : Char} (hc : c ≠ '\x7b') (first : Option TextFault)
    (cs : List Char) : recordFrom first (c :: cs) = recordFrom first cs := by
  rw [recordFrom_cons, if_neg hc]

/-- Where no record is read at the first character, it is sought beyond it. -/
theorem exists_recordFrom_cons {c : Char}
    (h : c = '\x7b' → ∀ fields, recordHere ('\x7b' :: cs) ≠ .ok (some fields))
    (first : Option TextFault) : ∃ first', recordFrom first (c :: cs) = recordFrom first' cs := by
  by_cases hc : c = '\x7b'
  · subst hc
    rw [recordFrom_cons, if_pos rfl]
    split
    · rename_i fields hf
      exact absurd hf (h rfl fields)
    · exact ⟨first, rfl⟩
    · exact ⟨_, rfl⟩
  · exact ⟨first, recordFrom_cons_of_ne hc first cs⟩

/-- A record is sought beyond what holds no brace. -/
theorem recordFrom_append {before : List Char} (h : '\x7b' ∉ before) (first : Option TextFault)
    (cs : List Char) : recordFrom first (before ++ cs) = recordFrom first cs := by
  induction before with
  | nil => rfl
  | cons c before ih =>
    have hc : c ≠ '\x7b' := fun hc => h (hc ▸ List.mem_cons_self)
    rw [List.cons_append, recordFrom_cons_of_ne hc, ih fun hm => h (List.mem_cons_of_mem c hm)]

/-- A written record that comes next is found. -/
theorem recordFrom_chars (h : Readable fields) (l : Layout) (level : Nat)
    (first : Option TextFault) (tail : List Char) :
    recordFrom first (l.chars level (.record fields) ++ tail) = .ok fields := by
  have hhere := recordHere_chars h l level tail
  obtain ⟨content, hcontent, -⟩ :=
    Json.spans_fields (Json.spelled_fields l fields) level tail
  rw [hcontent] at hhere ⊢
  rw [recordFrom_cons, if_pos rfl, hhere]

/-- No complete record can be read anywhere in a text. -/
def Recordless (cs : List Char) : Prop :=
  ∀ here, here <:+ cs → Heads here → ∀ fields, recordHere here ≠ .ok (some fields)

/-- Where no record can be read, none is found. -/
theorem exists_recordFrom_error (h : Recordless cs) (first : Option TextFault) :
    ∃ first', recordFrom first cs = .error first' := by
  induction cs generalizing first with
  | nil => exact ⟨first, rfl⟩
  | cons c cs ih =>
    have hmore : Recordless cs := fun here hh => h here (hh.trans (List.suffix_cons c cs))
    have hnone : c = '\x7b' → ∀ fields, recordHere ('\x7b' :: cs) ≠ .ok (some fields) := by
      rintro rfl fields hf
      exact h _ (List.suffix_refl _) (heads_of_recordHere hf) fields hf
    obtain ⟨first', hfirst⟩ := exists_recordFrom_cons hnone first
    rw [hfirst]
    exact ih hmore first'

/-- Where none is found, none can be read. -/
theorem recordless_of_error {fault : Option TextFault} (h : recordFrom first cs = .error fault) :
    Recordless cs := by
  induction cs generalizing first with
  | nil =>
    rintro here hsuffix ⟨content, rest, rfl, -⟩
    simp at hsuffix
  | cons c cs ih =>
    have hnone : c = '\x7b' → ∀ fields, recordHere ('\x7b' :: cs) ≠ .ok (some fields) := by
      rintro rfl fields hf
      rw [recordFrom_cons, if_pos rfl, hf] at h
      cases h
    obtain ⟨first', hfirst⟩ := exists_recordFrom_cons hnone first
    intro here hsuffix hheads fields hread
    rcases List.suffix_cons_iff.1 hsuffix with rfl | hmore
    · obtain ⟨content, rest, heq, -⟩ := hheads
      obtain ⟨rfl, rfl⟩ := List.cons.inj heq
      exact hnone rfl fields hread
    · exact ih (hfirst ▸ h) here hmore hheads fields hread

/-- What is found stands complete somewhere in the text. -/
theorem exists_of_recordFrom (h : recordFrom first cs = .ok fields) :
    ∃ here, here <:+ cs ∧ Heads here ∧ recordHere here = .ok (some fields) := by
  induction cs generalizing first with
  | nil => cases h
  | cons c cs ih =>
    have hmore : ∀ first', recordFrom first' cs = .ok fields →
        ∃ here, here <:+ c :: cs ∧ Heads here ∧ recordHere here = .ok (some fields) := by
      intro first' hfound
      obtain ⟨here, hsuffix, hhere⟩ := ih hfound
      exact ⟨here, hsuffix.trans (List.suffix_cons c cs), hhere⟩
    rw [recordFrom_cons] at h
    split at h
    · rename_i hc
      subst hc
      split at h
      · rename_i hread
        cases h
        exact ⟨_, List.suffix_refl _, heads_of_recordHere hread, hread⟩
      · exact hmore _ h
      · exact hmore _ h
    · exact hmore _ h

/-! ### Whole replies -/

theorem record_eq_ok {reply : String} :
    record reply = .ok fields ↔ recordFrom none reply.toList = .ok fields := by
  unfold record
  constructor
  · intro h
    split at h
    · rename_i hfound
      rw [hfound, Except.ok.inj h]
    · cases h
    · cases h
  · intro h
    rw [h]

/-- A reply in which no record is found is refused as a whole. -/
theorem record_of_error {reply : String} {fault : Option TextFault}
    (h : recordFrom none reply.toList = .error fault) :
    ∃ reason, record reply = .error ⟨reason, reply⟩ := by
  unfold record
  rw [h]
  cases fault with
  | none => exact ⟨_, rfl⟩
  | some fault => exact ⟨_, rfl⟩

/-- A reply is refused when no record is found in it. -/
theorem exists_error_of_record {reply : String} {fault : ReplyFault}
    (h : record reply = .error fault) : ∃ first, recordFrom none reply.toList = .error first := by
  cases hf : recordFrom none reply.toList with
  | ok fields => cases h.symm.trans (record_eq_ok.2 hf)
  | error first => exact ⟨first, rfl⟩

/-- A record is found behind prose without a brace, however it is laid out. -/
theorem record_append (h : Readable fields) (l : Layout) (level : Nat) {before : List Char}
    (hb : '\x7b' ∉ before) (after : List Char) :
    record (String.ofList (before ++ (l.chars level (.record fields) ++ after))) = .ok fields := by
  refine record_eq_ok.2 ?_
  rw [String.toList_ofList, recordFrom_append hb, recordFrom_chars h]

/-- A record is found in prose: behind anything without an opening brace and before anything at all,
whether it is written compactly or over several lines. Where no complete record begins at any brace,
the reply is refused, and the refusal keeps the whole of it. -/
theorem record_located :
    (∀ fields (before after : String), Readable fields → '\x7b' ∉ before.toList →
      record (before ++ (Value.record fields).compact ++ after) = .ok fields ∧
        record (before ++ (Value.record fields).pretty ++ after) = .ok fields) ∧
    ∀ reply : String, (∀ here, here <:+ reply.toList → ¬Heads here) →
      ∃ reason, record reply = .error ⟨reason, reply⟩ := by
  refine ⟨fun fields before after h hb => ⟨?_, ?_⟩, fun reply h => ?_⟩
  · have hfound := record_append h .compact 0 hb after.toList
    rw [Layout.chars_compact] at hfound
    rw [← hfound]
    congr 1
    simp [← String.toList_inj, Value.compact]
  · have hfound := record_append h .pretty 0 hb after.toList
    rw [Layout.chars_pretty] at hfound
    rw [← hfound]
    congr 1
    simp [← String.toList_inj, Value.pretty]
  · obtain ⟨fault, hfault⟩ := exists_recordFrom_error (fun here hh hheads _ _ => h here hh hheads) none
    exact record_of_error hfault

/-- What a model knows of a book, with a note that looks like the end of a record. -/
def book : Fields Value :=
  [("libro", .record [("titulo", .text "X")]), ("nota", .text "a \x7d b")]

theorem readable_book : Readable book where
  fits := .record fun p hp => by
    simp only [book, List.mem_cons, List.not_mem_nil, or_false] at hp
    rcases hp with rfl | rfl
    · exact .record fun p hp => List.mem_singleton.1 hp ▸ .text 125 "X"
    · exact .text 126 _
  ordered := .record (List.pairwise_pair.2 (by decide)) fun p hp => by
    simp only [book, List.mem_cons, List.not_mem_nil, or_false] at hp
    rcases hp with rfl | rfl
    · exact .record (List.pairwise_singleton _ _) fun p hp => List.mem_singleton.1 hp ▸ .text "X"
    · exact .text _
  survive := by decide

/-- A book is found before the beginning of another one; a brace at the end of a reply is no book. -/
theorem record_book :
    (record ("¡Claro! " ++ (Value.record book).compact ++ " o \x7b\"titulo\":") = .ok book ∧
      record ("¡Claro! " ++ (Value.record book).pretty ++ " o \x7b\"titulo\":") = .ok book) ∧
    ∃ reason, record "no \x7d sé \x7b" = .error ⟨reason, "no \x7d sé \x7b"⟩ := by
  refine ⟨record_located.1 book "¡Claro! " " o \x7b\"titulo\":" readable_book (by decide),
    record_located.2 "no \x7d sé \x7b" ?_⟩
  rintro here hsuffix ⟨content, rest, rfl, hspans⟩
  -- the only brace is the last character
  obtain rfl : content = [] := by
    simpa [List.suffix_cons_iff] using hsuffix
  cases hspans with
  | recordEnd h => cases h
  | firstField h _ => cases h

end Reply

end Dialogue
