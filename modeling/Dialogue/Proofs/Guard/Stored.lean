import Dialogue.Proofs.Flow.Checked
import Dialogue.Proofs.Guard.Margins
import Dialogue.Proofs.Turn.Run

/-!
# Guards as they are checked and as they are stored

A check reads the trimmed form of a guard, a conversation the guard as it is stored. The two readings
are the same, unless the stored guard ends in a junction: then it passes the check and never holds.

* `Guard.readChars_of_endsInJunction`: a text that ends in a junction is no guard.
* `Guard.readChars_of_trim`: any other text says what its trimmed form says.
* `Registry.read_guard`: the guards of a registered flow, as they are checked and as they are stored.
-/

namespace Dialogue

namespace Guard

open Text

variable {text margin : List Char}

/-! ### Pieces -/

/-- The guard that pieces and junctions write. -/
def readPieces (p : List Char × List (Junction × List Char × List Char)) : Except GuardFault Guard :=
  match readPredicate p.1 with
  | .error fault => .error fault
  | .ok first =>
    match readRest p.2 with
    | .error fault => .error fault
    | .ok rest => .ok ⟨first, rest⟩

theorem readChars_eq (h : trim text ≠ []) : readChars text = readPieces (pieces text) := by
  rw [readChars, if_neg h]
  rfl

theorem readPredicate_congr {a b : List Char} (h : trim a = trim b) :
    readPredicate a = readPredicate b := by
  unfold readPredicate
  rw [h]

/-- What stands before a junction is read as a predicate, and what follows it as a guard of its
own. -/
theorem readPieces_cutAt_cons (offset : Nat) (text : List Char) (j : JunctionAt)
    (js : List JunctionAt) :
    readPieces (cutAt offset text (j :: js)) =
      match readPredicate (text.take (j.span.start - offset)) with
      | .error fault => .error fault
      | .ok first =>
        (readPieces (cutAt j.span.stop ((text.drop (j.span.start - offset)).drop
          (j.span.stop - j.span.start)) js)).map fun g =>
            ⟨first, (j.junction, g.first) :: g.rest⟩ := by
  rw [cutAt, readPieces, readPieces]
  dsimp only
  cases readPredicate (text.take (j.span.start - offset)) with
  | error _ => rfl
  | ok first =>
    dsimp only
    rw [readRest]
    generalize cutAt j.span.stop _ js = inner
    obtain ⟨next, others⟩ := inner
    cases readPredicate next with
    | error _ => rfl
    | ok p => cases readRest others <;> rfl

/-- A text is cut alike further on. -/
theorem cutAt_add (k offset : Nat) (text : List Char) (js : List JunctionAt) :
    cutAt (offset + k) text (js.map (·.moved k)) = cutAt offset text js := by
  induction js generalizing offset text with
  | nil => rfl
  | cons j js ih =>
    have hs : j.span.start + k - (offset + k) = j.span.start - offset := by omega
    have hl : j.span.stop + k - (j.span.start + k) = j.span.stop - j.span.start := by omega
    rw [List.map_cons, cutAt, cutAt, JunctionAt.start_moved, JunctionAt.stop_moved,
      JunctionAt.junction_moved, hs, hl, ih]

/-- A margin at the front of a text is read away. -/
theorem readPieces_blank_append (h : Blank margin) (text : List Char) (js : List JunctionAt) :
    readPieces (cutAt 0 (margin ++ text) (js.map (·.moved margin.length))) =
      readPieces (cutAt 0 text js) := by
  cases js with
  | nil =>
    show readPieces (margin ++ text, []) = readPieces (text, [])
    rw [readPieces, readPieces, readPredicate_congr (trim_blank_append h text)]
  | cons j js =>
    have hl : j.span.stop + margin.length - (j.span.start + margin.length) =
      j.span.stop - j.span.start := by omega
    rw [List.map_cons, readPieces_cutAt_cons, readPieces_cutAt_cons, JunctionAt.start_moved,
      JunctionAt.stop_moved, JunctionAt.junction_moved, hl, Nat.sub_zero, Nat.sub_zero,
      Nat.add_comm j.span.start, List.drop_length_add_append, List.take_length_add_append,
      cutAt_add, readPredicate_congr (trim_blank_append h _)]

/-- A margin at the end of a text is read away. -/
theorem readPieces_append (h : Blank margin) {offset : Nat} {js : List JunctionAt}
    (hw : Within offset (offset + text.length) js) :
    readPieces (cutAt offset (text ++ margin) js) = readPieces (cutAt offset text js) := by
  induction js generalizing offset text with
  | nil =>
    show readPieces (text ++ margin, []) = readPieces (text, [])
    rw [readPieces, readPieces, readPredicate_congr (trim_append text h)]
  | cons j js ih =>
    have hlen := hw.stop_add_length
    obtain ⟨hstart, hstop, hrest⟩ := hw
    have hle := hrest.le
    have hs : j.span.start - offset ≤ text.length := by omega
    have hl : j.span.stop - j.span.start ≤ (text.drop (j.span.start - offset)).length := by
      rw [List.length_drop]
      omega
    rw [readPieces_cutAt_cons, readPieces_cutAt_cons, List.take_append_of_le_length hs,
      List.drop_append_of_le_length hs, List.drop_append_of_le_length hl, ih (by rwa [hlen])]

theorem readPieces_nil (offset : Nat) (js : List JunctionAt) :
    ∃ fault, readPieces (cutAt offset [] js) = .error fault := by
  have hp : ∃ fault, readPredicate [] = .error fault := ⟨_, rfl⟩
  obtain ⟨fault, hp⟩ := hp
  cases js with
  | nil => exact ⟨fault, by rw [cutAt, readPieces, hp]⟩
  | cons j js => exact ⟨fault, by rw [readPieces_cutAt_cons, List.take_nil, hp]⟩

/-- A junction with nothing after it joins nothing. -/
theorem readPieces_of_stop {offset : Nat} {js : List JunctionAt}
    (hw : Within offset (offset + text.length) js)
    (h : ∃ j ∈ js, j.span.stop = offset + text.length) :
    ∃ fault, readPieces (cutAt offset text js) = .error fault := by
  induction js generalizing offset text with
  | nil =>
    obtain ⟨j, hj, -⟩ := h
    cases hj
  | cons j js ih =>
    have hlen := hw.stop_add_length
    obtain ⟨-, -, hrest⟩ := hw
    -- Either this junction takes up the end and leaves nothing, or a later one does.
    have hinner : ∃ fault, readPieces (cutAt j.span.stop ((text.drop (j.span.start - offset)).drop
        (j.span.stop - j.span.start)) js) = .error fault := by
      obtain ⟨k, hk, hend⟩ := h
      rcases List.mem_cons.1 hk with rfl | hk
      · have hnil : (text.drop (k.span.start - offset)).drop (k.span.stop - k.span.start) = [] := by
          refine List.eq_nil_of_length_eq_zero ?_
          omega
        rw [hnil]
        exact readPieces_nil _ js
      · exact ih (by rwa [hlen]) ⟨k, hk, by rwa [hlen]⟩
    obtain ⟨fault, hinner⟩ := hinner
    rw [readPieces_cutAt_cons, hinner]
    cases readPredicate (text.take (j.span.start - offset)) with
    | error fault => exact ⟨fault, rfl⟩
    | ok first => exact ⟨fault, rfl⟩

/-! ### Guards -/

/-- A text that ends in a junction is no guard. -/
theorem readChars_of_endsInJunction (h : EndsInJunction text) :
    ∃ fault, readChars text = .error fault := by
  by_cases ht : trim text = []
  · exact ⟨.empty, by rw [readChars, if_pos ht]⟩
  · rw [readChars_eq ht]
    have hw := within_junctions text
    have hlen : text.length = 0 + text.length := (Nat.zero_add _).symm
    unfold EndsInJunction at h
    rw [hlen] at hw h
    exact readPieces_of_stop hw h

/-- A predicate begins with braces. -/
theorem head_of_readPredicate {p : Predicate} (h : readPredicate text = .ok p) :
    (trim text).head? = some '\x7b' := by
  unfold readPredicate at h
  dsimp only at h
  cases ha : after? ['\x7b', '\x7b'] (trim text) with
  | none =>
    rw [ha] at h
    cases h
  | some inner =>
    rw [after?_eq_some.1 ha]
    rfl

theorem trim_ne_nil_of_readChars {g : Guard} (h : readChars text = .ok g) : trim text ≠ [] := by
  intro hn
  rw [readChars, if_pos hn] at h
  cases h

/-- A guard without white space at its front begins with braces. -/
theorem head_of_readChars {g : Guard} (hf : ∀ c ∈ text.head?, isBlank c = false)
    (h : readChars text = .ok g) : text.head? = some '\x7b' := by
  cases text with
  | nil => cases h
  | cons c rest =>
    have hc : isBlank c = false := hf c rfl
    rw [readChars_eq (trim_ne_nil_of_readChars h), readPieces] at h
    cases hp : readPredicate (pieces (c :: rest)).1 with
    | error fault =>
      rw [hp] at h
      cases h
    | ok p =>
      have hb := head_of_readPredicate hp
      obtain ⟨n, hn⟩ : ∃ n, (pieces (c :: rest)).1 = (c :: rest).take n := by
        unfold pieces
        cases junctions (c :: rest) with
        | nil => exact ⟨(c :: rest).length, (List.take_length).symm⟩
        | cons j js => exact ⟨_, rfl⟩
      rw [hn] at hb
      cases n with
      | zero => cases hb
      | succ n =>
        rw [List.take_succ_cons, head_trim_cons hc] at hb
        exact hb

/-- A text that does not end in a junction says what its trimmed form says. -/
theorem readChars_of_trim {g : Guard} (h : readChars (trim text) = .ok g)
    (he : ¬EndsInJunction text) : readChars text = .ok g := by
  obtain ⟨front, back, hfront, hback, ht, hfirm⟩ := exists_margins text
  have hne : trim text ≠ [] := by
    intro hn
    rw [hn] at h
    cases h
  have hhead := head_of_readChars (fun c hc => head_trim hc) h
  have hhead' : (trim text ++ back).head? = some '\x7b' := by
    rw [List.head?_append, hhead]
    rfl
  have hmoved : junctions text = (junctions (trim text ++ back)).map (·.moved front.length) := by
    rw [← junctions_blank_append hfront hhead', ← ht]
  -- The margin at the front moves the junctions, so that the end stays the end.
  have he' : ¬EndsInJunction (trim text ++ back) := by
    rintro ⟨j, hj, hstop⟩
    refine he ⟨j.moved front.length, ?_, ?_⟩
    · rw [hmoved]
      exact List.mem_map.2 ⟨j, hj, rfl⟩
    · rw [JunctionAt.stop_moved, hstop, Nat.add_comm, ← List.length_append, ← ht]
  have hsame := junctions_append hfirm hback he'
  have hw : Within 0 (0 + (trim text).length) (junctions (trim text)) := by
    rw [Nat.zero_add]
    exact within_junctions (trim text)
  have hpieces : readPieces (pieces text) = readPieces (pieces (trim text)) := by
    unfold pieces
    rw [hmoved, hsame]
    exact (congrArg (fun s => readPieces (cutAt 0 s _)) ht).trans
      ((readPieces_blank_append hfront _ _).trans (readPieces_append hback hw))
  rw [readChars_eq hne, hpieces, ← readChars_eq (trim_ne_nil_of_readChars h)]
  exact h

theorem read_eq_ok {written : String} {g : Guard} :
    read written = .ok g ↔ readChars written.toList = .ok g := by
  unfold read
  cases readChars written.toList <;> simp

theorem holdsWritten_of_read {written : String} {g : Guard} (h : read written = .ok g)
    (scope : Value) : holdsWritten scope written = g.holds scope := by
  rw [holdsWritten, h]

theorem holdsWritten_of_endsInJunction {written : String} (h : EndsInJunction written.toList)
    (scope : Value) : holdsWritten scope written = false := by
  obtain ⟨fault, hf⟩ := readChars_of_endsInJunction h
  rw [holdsWritten, read, hf]

end Guard

namespace Registry

variable {r r' : Registry} {f : Flow} {report : Report}

/-- **A guard of a registered flow is read as it was checked, and holds accordingly, exactly when it
does not end in a junction as it is stored.** -/
theorem read_guard (hr : r.register f = .ok (report, r')) {n : Node} (hn : n ∈ f.nodes) {e : Edge}
    (he : e ∈ n.edges) {written : String} (hw : e.guard? = some written) :
    ∃ g, Guard.read (String.ofList (Text.trim written.toList)) = .ok g ∧
      (Guard.read written = .ok g ↔ ¬Guard.EndsInJunction written.toList) ∧
      ∀ scope, Guard.holdsWritten scope written =
        (!decide (Guard.EndsInJunction written.toList) && g.holds scope) := by
  obtain ⟨-, hv, -⟩ := register_eq_ok hr
  have htrim : Flow.trimmedGuard? e = some (String.ofList (Text.trim written.toList)) := by
    rw [Flow.trimmedGuard?, hw]
    rfl
  obtain ⟨g, hg⟩ := (Flow.checked_of_isValid hv).guard n hn e he _ htrim
  refine ⟨g, hg, ?_⟩
  by_cases hj : Guard.EndsInJunction written.toList
  · obtain ⟨fault, hf⟩ := Guard.readChars_of_endsInJunction hj
    refine ⟨⟨fun h => ?_, fun h => absurd hj h⟩, fun scope => ?_⟩
    · cases hf.symm.trans (Guard.read_eq_ok.1 h)
    · rw [Guard.holdsWritten_of_endsInJunction hj, decide_eq_true hj]
      rfl
  · have hread : Guard.read written = .ok g := by
      rw [Guard.read_eq_ok, String.toList_ofList] at hg
      exact Guard.read_eq_ok.2 (Guard.readChars_of_trim hg hj)
    refine ⟨⟨fun _ => hj, fun _ => hread⟩, fun scope => ?_⟩
    rw [Guard.holdsWritten_of_read hread, decide_eq_false hj]
    rfl

end Registry

/-! ### A guard that is lost -/

/-- A flow whose router knows two tastes, both written with white space at their ends. -/
def Flow.tastes : Flow :=
  { Flow.new "acme" "gustos" "Gustos" "musica" with
    nodes := [
      { Node.of "musica" (.router ⟨some "otros"⟩) with
        edges := [.when "jazz" " \x7b\x7bgusto\x7d\x7d equals jazz ",
          .when "rock" "\x7b\x7bgusto\x7d\x7d equals rock AND "] },
      .of "jazz" (.message ⟨false⟩), .of "rock" (.message ⟨false⟩), .of "otros" (.message ⟨false⟩)] }

theorem Flow.register_tastes :
    Registry.register [] .tastes =
      .ok (Flow.tastes.build.check, Registry.put [] Flow.tastes.build) :=
  Registry.register_of_isValid (by decide +kernel) []

/-- The guard on jazz is read as it was checked. -/
theorem Registry.read_guard_of_tastes :
    ∃ n ∈ Flow.tastes.nodes, ∃ e ∈ n.edges, ∃ written g, e.guard? = some written ∧
      ¬Guard.EndsInJunction written.toList ∧ Guard.read written = .ok g := by
  have hw : (Edge.when "jazz" " \x7b\x7bgusto\x7d\x7d equals jazz ").guard? =
      some " \x7b\x7bgusto\x7d\x7d equals jazz " := by decide
  have hj : ¬Guard.EndsInJunction " \x7b\x7bgusto\x7d\x7d equals jazz ".toList := by decide
  obtain ⟨g, -, hg, -⟩ := read_guard Flow.register_tastes List.mem_cons_self List.mem_cons_self hw
  exact ⟨_, List.mem_cons_self, _, List.mem_cons_self, _, g, hw, hj, hg.2 hj⟩

/-- The guard on rock passes the check, and as it is stored it cannot be read. -/
theorem Registry.not_read_guard_of_tastes :
    ∃ report r', Registry.register [] .tastes = .ok (report, r') ∧
      ∃ n ∈ Flow.tastes.nodes, ∃ e ∈ n.edges, ∃ written, e.guard? = some written ∧
        ∃ error, Guard.read written = .error error := by
  have hw : (Edge.when "rock" "\x7b\x7bgusto\x7d\x7d equals rock AND ").guard? =
      some "\x7b\x7bgusto\x7d\x7d equals rock AND " := by decide
  refine ⟨_, _, Flow.register_tastes, _, List.mem_cons_self, _,
    List.mem_cons_of_mem _ List.mem_cons_self, _, hw, ?_⟩
  have hj : Guard.EndsInJunction "\x7b\x7bgusto\x7d\x7d equals rock AND ".toList := by decide
  obtain ⟨fault, hf⟩ := Guard.readChars_of_endsInJunction hj
  exact ⟨_, by rw [Guard.read, hf]⟩

end Dialogue
