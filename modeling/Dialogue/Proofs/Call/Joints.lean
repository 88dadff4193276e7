import Dialogue.Proofs.Call.Placeholders
import Dialogue.Proofs.Url.Encoded

/-!
# Values beside literal text

A path is filled in twice: its tokens first, and then the parameters of the text that comes of it. No
value holds a character that begins a parameter, but a parameter that begins in the written path may
take in a value that stands right behind it, so that the text of a value chooses the name of what is
put in next.

* `PathPart.partsFrom`: the placeholders of a path, read once from left to right.
* `PathPart.Joined`: whether a parameter of the written path reaches over the place of a token.
* `PathPart.parameter?_written_iff`: a character begins the same parameter in the path and in the text
  that comes of it exactly when it reaches over no token.
* `PathPart.parametersFrom_written`: the two readings agree exactly when no parameter is joined.
* `PathPart.Joined.isOpen`: parameters are joined only where a token follows one that has begun.
* `expandPath_readOnce`: which paths are filled in as they are read.
-/

namespace Dialogue

open Text

namespace PathPart

variable {c : Char} {run name : List Char} {parts back : List PathPart}

/-! ### Reading once -/

/-- The placeholders and other characters of a path, read once from left to right; `skip` characters
belong to a placeholder before. -/
def partsFrom : (skip : Nat) → List Char → List PathPart
  | _, [] => []
  | skip + 1, _ :: cs => partsFrom skip cs
  | 0, c :: cs =>
    match token? (c :: cs) with
    | some inner => .token inner :: partsFrom (inner.length + 3) cs
    | none =>
      match parameter? (c :: cs) with
      | some (written, name) => .parameter written name :: partsFrom (written.length - 1) cs
      | none => .literal c :: partsFrom 0 cs

/-- The parts of a path are written as the path. -/
theorem source_partsFrom (skip : Nat) (cs : List Char) :
    (partsFrom skip cs).flatMap source = cs.drop skip := by
  fun_induction partsFrom skip cs with
  | case1 => rw [List.drop_nil, List.flatMap_nil]
  | case2 skip c cs ih => rw [ih, List.drop_succ_cons]
  | case3 c cs inner ht ih =>
    rw [List.flatMap_cons, ih, append_drop_of_token? ht, List.drop_zero]
  | case4 c cs ht written name hp ih =>
    rw [List.flatMap_cons, ih, List.drop_zero]
    exact append_drop_of_parameter? hp
  | case5 c cs ht hp ih =>
    rw [List.flatMap_cons, ih]
    rfl

/-! ### How far a parameter reaches -/

/-- What stands behind a character that is of no name makes no difference to a parameter before it. -/
theorem parameter?_append_of_notOfName (h : ∃ d ∈ run, isOfName d = false) (more : List Char) :
    parameter? (c :: (run ++ more)) = parameter? (c :: run) := by
  have hne : run.dropWhile isOfName ≠ [] := by
    rw [Ne, List.dropWhile_eq_nil_iff]
    rintro hall
    obtain ⟨d, hd, hn⟩ := h
    exact Bool.false_ne_true (hn.symm.trans (hall d hd))
  obtain ⟨d, rest, hd⟩ := List.exists_cons_of_ne_nil hne
  have hn : isOfName d = false := by
    have hhead := List.head?_dropWhile_not isOfName run
    rwa [hd] at hhead
  have hrun : run = run.takeWhile isOfName ++ d :: rest := by
    rw [← hd, List.takeWhile_append_dropWhile]
  have hchars : ∀ x ∈ run.takeWhile isOfName, isOfName x = true :=
    List.all_eq_true.1 List.all_takeWhile
  have htake : (run ++ more).takeWhile isOfName = run.takeWhile isOfName := by
    rw [hrun, List.append_assoc, List.takeWhile_append_of_pos hchars, List.cons_append,
      List.takeWhile_cons_of_neg (by simp [hn]), List.takeWhile_append_of_pos hchars,
      List.takeWhile_cons_of_neg (by simp [hn])]
  have hdrop : ((run ++ more).dropWhile isOfName).head? = (run.dropWhile isOfName).head? := by
    rw [hd, hrun, List.append_assoc, List.dropWhile_append_of_pos hchars, List.cons_append,
      List.dropWhile_cons_of_neg (by simp [hn])]
    rfl
  by_cases hmark : c = ':'
  · rw [hmark, parameter?_marked, parameter?_marked, htake]
  · by_cases hbrace : c = '\x7b'
    · rw [hbrace, parameter?_braced, parameter?_braced, htake, hdrop]
    · rw [parameter?_of_ne hmark hbrace, parameter?_of_ne hmark hbrace]

/-- Before a brace a parameter is the same as before another text into which it does not reach. -/
theorem parameter?_append_brace {more : List Char}
    (h : ∀ w n, parameter? (c :: (run ++ more)) = some (w, n) → w.length ≤ run.length + 1)
    (rest : List Char) :
    parameter? (c :: (run ++ '\x7b' :: rest)) = parameter? (c :: (run ++ more)) := by
  by_cases hrun : ∃ d ∈ run, isOfName d = false
  · rw [parameter?_append_of_notOfName hrun, parameter?_append_of_notOfName hrun]
  have hchars : ∀ d ∈ run, isOfName d = true := by simpa using hrun
  have htake : ∀ more, (run ++ more).takeWhile isOfName = run ++ more.takeWhile isOfName :=
    fun more => List.takeWhile_append_of_pos hchars
  have hstop : ('\x7b' :: rest).takeWhile isOfName = [] := List.takeWhile_cons_of_neg (by decide)
  cases hp : parameter? (c :: (run ++ more)) with
  | some found =>
    obtain ⟨w, n⟩ := found
    obtain ⟨hparameter, hname, tail, htext⟩ := exists_of_parameter? hp
    have hle := h w n hp
    have hlen : n.length = run.length + (more.takeWhile isOfName).length := by
      rw [hname, htake, List.length_append]
    cases hparameter with
    | marked chars =>
      -- the parameter ends where `more` begins, so that nothing of it is of the name
      have hnone : more.takeWhile isOfName = [] := by
        rw [List.length_cons] at hle
        exact List.eq_nil_of_length_eq_zero (by omega)
      obtain ⟨rfl, -⟩ := List.cons.inj htext
      rw [← hp, parameter?_marked, parameter?_marked, htake, htake, hstop, hnone]
    | braced chars =>
      rw [List.length_cons, List.length_append, List.length_singleton] at hle
      omega
  | none =>
    cases hq : parameter? (c :: (run ++ '\x7b' :: rest)) with
    | none => rfl
    | some found =>
      obtain ⟨w, n⟩ := found
      obtain ⟨hparameter, hname, tail, htext⟩ := exists_of_parameter? hq
      rw [htake, hstop, List.append_nil] at hname
      subst hname
      cases hparameter with
      | marked chars =>
        obtain ⟨rfl, -⟩ := List.cons.inj htext
        rw [parameter?_marked, htake, Option.map_eq_none_iff] at hp
        rw [parameter?_marked, htake, hstop, List.append_nil] at hq
        have hsome := name?_append_isSome (Option.isSome_of_mem
          (Option.map_eq_some_iff.1 hq).choose_spec.1) (more.takeWhile isOfName)
        rw [hp] at hsome
        cases hsome
      | braced chars =>
        -- behind the name there is an opening brace and not a closing one
        rw [List.cons_append, List.cons.injEq, List.append_assoc,
          List.append_cancel_left_eq] at htext
        exact absurd (List.cons.inj htext.2).1 (by decide)

/-- No parameter reaches over an opening brace behind its first character. -/
theorem length_le_of_parameter? {rest w n : List Char}
    (h : parameter? (c :: (run ++ '\x7b' :: rest)) = some (w, n)) : w.length ≤ run.length + 1 := by
  obtain ⟨hparameter, -, tail, htext⟩ := exists_of_parameter? h
  cases w with
  | nil => exact Nat.zero_le _
  | cons d w =>
    rw [List.cons_append, List.cons.injEq] at htext
    rw [List.length_cons]
    rcases List.append_eq_append_iff.1 htext.2 with ⟨gap, hw, hgap⟩ | ⟨gap, hrun, -⟩
    · cases gap with
      | nil => rw [hw, List.append_nil]
      | cons e gap =>
        obtain ⟨rfl, -⟩ := List.cons.inj hgap
        have hmem : '\x7b' ∈ (d :: w).tail := by
          rw [List.tail_cons, hw]
          exact List.mem_append_right _ List.mem_cons_self
        exact absurd rfl (hparameter.of_mem_tail hmem).2
    · rw [hrun, List.length_append]
      omega

section Values

variable (params : Fields String) (scope : Value)

/-- Whether a character begins a parameter that takes in more than the characters before the next
token, once the tokens are replaced. -/
def ReachesOver (c : Char) (parts : List PathPart) : Prop :=
  ∃ run inner back w name, parts = run.map literal ++ token inner :: back ∧
    parameter? (c :: (run ++ written params scope (token inner :: back))) = some (w, name) ∧
      run.length + 1 < w.length

/-- Whether a parameter that begins outside of tokens reaches over the place of one. -/
def Joined (parts : List PathPart) : Prop :=
  ∃ front c back, parts = front ++ literal c :: back ∧ ReachesOver params scope c back

/-- Whether a token follows a parameter that has begun: a mark or a brace, and nothing but characters
of a name in between. -/
def IsOpen (parts : List PathPart) : Prop :=
  ∃ (front : List PathPart) (c : Char) (run inner : List Char) (back : List PathPart),
    parts = front ++ literal c :: (run.map literal ++ token inner :: back) ∧
      (c = ':' ∨ c = '\x7b') ∧ ∀ d ∈ run, isOfName d = true

variable {params scope}

theorem not_joined_nil : ¬Joined params scope [] := by
  rintro ⟨front, c, back, he, -⟩
  cases front <;> cases he

theorem joined_token (inner : List Char) :
    Joined params scope (token inner :: parts) ↔ Joined params scope parts := by
  constructor
  · rintro ⟨front, c, back, he, hr⟩
    cases front with
    | nil => cases he
    | cons part front => exact ⟨front, c, back, (List.cons.inj he).2, hr⟩
  · rintro ⟨front, c, back, rfl, hr⟩
    exact ⟨token inner :: front, c, back, rfl, hr⟩

theorem joined_literal :
    Joined params scope (literal c :: parts) ↔
      ReachesOver params scope c parts ∨ Joined params scope parts := by
  constructor
  · rintro ⟨front, d, back, he, hr⟩
    cases front with
    | nil =>
      cases he
      exact .inl hr
    | cons part front => exact .inr ⟨front, d, back, (List.cons.inj he).2, hr⟩
  · rintro (hr | ⟨front, d, back, rfl, hr⟩)
    · exact ⟨[], c, parts, rfl, hr⟩
    · exact ⟨literal c :: front, d, back, rfl, hr⟩

theorem not_reachesOver_of_ne (hmark : c ≠ ':') (hbrace : c ≠ '\x7b') :
    ¬ReachesOver params scope c parts := by
  rintro ⟨run, inner, back, w, n, -, hp, -⟩
  rw [parameter?_of_ne hmark hbrace] at hp
  cases hp

/-- Characters that begin no placeholder are not joined to anything. -/
theorem joined_append (h : ∀ c ∈ run, c ≠ ':' ∧ c ≠ '\x7b') :
    Joined params scope (run.map literal ++ parts) ↔ Joined params scope parts := by
  induction run with
  | nil => exact Iff.rfl
  | cons c run ih =>
    obtain ⟨⟨hmark, hbrace⟩, hrun⟩ := List.forall_mem_cons.1 h
    rw [List.map_cons, List.cons_append, joined_literal, ih hrun,
      or_iff_right (not_reachesOver_of_ne hmark hbrace)]

/-! ### The text that comes of a path -/

theorem written_literal (c : Char) (parts : List PathPart) :
    written params scope (literal c :: parts) = c :: written params scope parts := rfl

theorem written_map_literal (run : List Char) (parts : List PathPart) :
    written params scope (run.map literal ++ parts) = run ++ written params scope parts := by
  induction run with
  | nil => rfl
  | cons c run ih =>
    rw [List.map_cons, List.cons_append, written_literal, ih, List.cons_append]

/-- Outside of tokens there are only characters as they stand. -/
theorem tokensFrom_cases (skip : Nat) (cs : List Char) :
    (∃ run : List Char, tokensFrom skip cs = run.map literal) ∨
      ∃ (run : List Char) (inner : List Char) (back : List PathPart),
        tokensFrom skip cs = run.map literal ++ token inner :: back := by
  fun_induction tokensFrom skip cs with
  | case1 => exact .inl ⟨[], rfl⟩
  | case2 skip c cs ih => exact ih
  | case3 c cs inner ht ih => exact .inr ⟨[], inner, _, rfl⟩
  | case4 c cs ht ih =>
    rcases ih with ⟨run, he⟩ | ⟨run, inner, back, he⟩
    · exact .inl ⟨c :: run, by rw [he]; rfl⟩
    · exact .inr ⟨c :: run, inner, back, by rw [he]; rfl⟩

/-- Behind the first token of a path there is an opening brace in the path. -/
theorem eq_of_tokensFrom {cs inner : List Char}
    (h : tokensFrom 0 cs = run.map literal ++ token inner :: back) :
    ∃ rest, cs = run ++ '\x7b' :: rest := by
  have hsource := source_tokensFrom 0 cs
  rw [h, List.drop_zero, List.flatMap_append, List.flatMap_map, List.flatMap_cons] at hsource
  refine ⟨_, hsource.symm.trans (congrArg₂ (· ++ ·) ?_ rfl)⟩
  exact List.flatMap_singleton' run

variable (params scope)

/-- A character begins the same parameter in the path and in the text that comes of it exactly when it
reaches over no token. -/
theorem parameter?_written_iff (c : Char) (cs : List Char) :
    parameter? (c :: written params scope (tokensFrom 0 cs)) = parameter? (c :: cs) ↔
      ¬ReachesOver params scope c (tokensFrom 0 cs) := by
  constructor
  · rintro he ⟨run, inner, back, w, n, hparts, hp, hlt⟩
    obtain ⟨rest, hcs⟩ := eq_of_tokensFrom hparts
    rw [hparts, written_map_literal, hp, hcs] at he
    have := length_le_of_parameter? he.symm
    omega
  · intro hn
    rcases tokensFrom_cases 0 cs with ⟨run, he⟩ | ⟨run, inner, back, he⟩
    · have hsource := source_tokensFrom 0 cs
      rw [he, List.flatMap_map] at hsource
      have hrun : run = cs := (List.flatMap_singleton' run).symm.trans hsource
      rw [he, ← List.append_nil (run.map literal), written_map_literal, written_nil,
        List.append_nil, hrun]
    · obtain ⟨rest, hcs⟩ := eq_of_tokensFrom he
      rw [he, written_map_literal, hcs]
      refine (parameter?_append_brace (fun w n hp => ?_) rest).symm
      rw [← Nat.not_lt]
      exact fun hlt => hn ⟨run, inner, back, w, n, he, hp, hlt⟩

/-! ### Two readings -/

/-- A part with the characters of its value in place of a token. -/
def settled : PathPart → List PathPart
  | token inner => (expand params scope (token inner)).map literal
  | part => [part]

theorem settled_literal (c : Char) : settled params scope (literal c) = [literal c] := rfl

theorem settled_parameter (w n : List Char) :
    settled params scope (parameter w n) = [parameter w n] := rfl

variable {params scope}

/-- The characters of a value begin no placeholder. -/
theorem ne_of_mem_segment {text : List Char} : ∀ c ∈ Percent.segment text, c ≠ ':' ∧ c ≠ '\x7b' :=
  fun _ hc =>
    ⟨by rintro rfl; exact absurd (Percent.mem_segment hc) (by decide),
      by rintro rfl; exact absurd (Percent.mem_segment hc) (by decide)⟩

/-- What stands in the place of a character: the parameter that it begins, or itself. -/
def leading (c : Char) : Option (List Char × List Char) → PathPart
  | some (written, name) => parameter written name
  | none => literal c

theorem leading_injective (c : Char) : Function.Injective (leading c) := by
  rintro (- | ⟨w, n⟩) (- | ⟨v, m⟩) h
  · rfl
  · cases h
  · cases h
  · cases h
    rfl

theorem head?_parametersFrom (c : Char) (cs : List Char) :
    (parametersFrom 0 (c :: cs)).head? = some (leading c (parameter? (c :: cs))) := by
  cases hp : parameter? (c :: cs) with
  | none => rw [parametersFrom_of_none hp]; rfl
  | some found => rw [parametersFrom_of_some hp]; rfl

/-- A character that is read as the same part in two texts begins the same parameter there. -/
theorem parameter?_eq_of_head? {c : Char} {cs ds : List Char}
    (h : (parametersFrom 0 (c :: cs)).head? = (parametersFrom 0 (c :: ds)).head?) :
    parameter? (c :: cs) = parameter? (c :: ds) := by
  rw [head?_parametersFrom, head?_parametersFrom] at h
  exact leading_injective c (Option.some.inj h)

variable (params scope)

/-- **The text that comes of a path is read as the path is, exactly when no parameter is joined.** -/
theorem parametersFrom_written (skip : Nat) (cs : List Char) :
    parametersFrom 0 (written params scope (tokensFrom skip cs)) =
        (partsFrom skip cs).flatMap (settled params scope) ↔
      ¬Joined params scope (tokensFrom skip cs) := by
  fun_induction partsFrom skip cs with
  | case1 => exact iff_of_true rfl not_joined_nil
  | case2 skip c cs ih => exact ih
  | case3 c cs inner ht ih =>
    have hts : tokensFrom 0 (c :: cs) = token inner :: tokensFrom (inner.length + 3) cs := by
      rw [tokensFrom, ht]
    obtain ⟨text, hv⟩ := exists_expand_token params scope inner
    have hwritten : written params scope (tokensFrom 0 (c :: cs)) =
        Percent.segment text ++ written params scope (tokensFrom (inner.length + 3) cs) := by
      rw [hts, ← hv]
      rfl
    rw [hwritten, parametersFrom_append ne_of_mem_segment, List.flatMap_cons, settled, hv,
      List.append_cancel_left_eq, ih, hts, joined_token]
  | case4 c cs ht w n hp ih =>
    rw [tokensFrom_of_none ht, written_literal, List.flatMap_cons, joined_literal, not_or,
      ← parameter?_written_iff params scope]
    -- the path begins with a parameter: it is read in the text as well, or another part is
    by_cases hsame : parameter? (c :: written params scope (tokensFrom 0 cs)) = parameter? (c :: cs)
    · have hparameter := (exists_of_parameter? hp).1
      have hback : (written params scope (tokensFrom 0 cs)).drop (w.length - 1) =
          written params scope (tokensFrom (w.length - 1) cs) := by
        rw [tokensFrom_of_parameter? hp, written_map_literal, ← List.length_tail, List.drop_left]
      rw [parametersFrom_of_some (hsame.trans hp), hback, settled_parameter, List.singleton_append,
        List.cons_inj_right, ih, and_iff_right hsame, tokensFrom_of_parameter? hp,
        joined_append fun d hd => hparameter.of_mem_tail hd]
    · refine iff_of_false (fun he => hsame (parameter?_eq_of_head? ?_)) fun h => hsame h.1
      rw [he, parametersFrom_of_some hp]
      rfl
  | case5 c cs ht hp ih =>
    rw [tokensFrom_of_none ht, written_literal, List.flatMap_cons, joined_literal, not_or,
      ← parameter?_written_iff params scope]
    by_cases hsame : parameter? (c :: written params scope (tokensFrom 0 cs)) = parameter? (c :: cs)
    · rw [parametersFrom_of_none (hsame.trans hp), settled_literal, List.singleton_append,
        List.cons_inj_right, ih, and_iff_right hsame]
    · refine iff_of_false (fun he => hsame (parameter?_eq_of_head? ?_)) fun h => hsame h.1
      rw [he, parametersFrom_of_none hp]
      rfl

variable {params scope}

/-- A part is written as the characters that stand in its place. -/
theorem written_flatMap_settled (parts : List PathPart) :
    written params scope (parts.flatMap (settled params scope)) = written params scope parts := by
  have hpart : ∀ part : PathPart,
      (settled params scope part).flatMap (expand params scope) = expand params scope part := by
    intro part
    cases part with
    | token inner =>
      rw [settled, List.flatMap_map]
      exact List.flatMap_singleton' _
    | literal c => exact List.append_nil _
    | parameter w n => exact List.append_nil _
  rw [written, List.flatMap_assoc, funext hpart, written]

/-- Parameters are joined only where a token follows one that has begun. -/
theorem Joined.isOpen (h : Joined params scope parts) : IsOpen parts := by
  obtain ⟨front, c, back, rfl, run, inner, rest, w, n, rfl, hp, hlt⟩ := h
  obtain ⟨hparameter, hname, -⟩ := exists_of_parameter? hp
  -- the name goes at least as far as the characters before the token
  have hlen : run.length ≤ n.length := by
    cases hparameter with
    | marked chars => exact Nat.le_of_succ_le (Nat.lt_of_succ_lt_succ hlt)
    | braced chars =>
      rw [List.length_cons, List.length_append, List.length_singleton] at hlt
      omega
  obtain ⟨more, hmore⟩ := List.prefix_of_prefix_length_le (List.prefix_append run _)
    (hname ▸ List.takeWhile_prefix isOfName) hlen
  refine ⟨front, c, run, inner, rest, rfl, ?_, fun d hd => ?_⟩
  · by_contra hn
    rw [not_or] at hn
    rw [parameter?_of_ne hn.1 hn.2] at hp
    cases hp
  · exact hparameter.chars d (hmore ▸ List.mem_append_left more hd)

end Values

end PathPart

open PathPart (partsFrom tokensFrom parametersFrom source literal settled written Joined IsOpen)

/-- **A path is filled in as it is read, unless a parameter is joined to the value of a token.** Its
placeholders, read once, make up the path. They are those that are replaced exactly when no parameter
is joined, and then the expanded path is the path with its placeholders replaced. Only a path with a
token behind a parameter that has begun has such parameters; values by themselves hold none. -/
theorem expandPath_readOnce (path : String) (params : Fields String) (scope : Value) :
    (partsFrom 0 path.toList).flatMap source = path.toList ∧
      (parametersFrom 0 (written params scope (tokensFrom 0 path.toList)) =
          (partsFrom 0 path.toList).flatMap (settled params scope) ↔
        ¬Joined params scope (tokensFrom 0 path.toList)) ∧
      (¬Joined params scope (tokensFrom 0 path.toList) →
        expandPath path params scope =
          String.ofList (written params scope (partsFrom 0 path.toList))) ∧
      (Joined params scope (tokensFrom 0 path.toList) → IsOpen (tokensFrom 0 path.toList)) ∧
      ∀ text rest, parametersFrom 0 (Percent.segment text ++ rest) =
        (Percent.segment text).map literal ++ parametersFrom 0 rest := by
  have hreadings := PathPart.parametersFrom_written params scope 0 path.toList
  refine ⟨PathPart.source_partsFrom 0 path.toList, hreadings, fun hn => ?_, Joined.isOpen,
    fun text => PathPart.parametersFrom_append PathPart.ne_of_mem_segment⟩
  rw [expandPath, expandPathChars, hreadings.2 hn, PathPart.written_flatMap_settled]

/-- What a contact asks for, behind a mark in the path, becomes the name of a value of the flow, which
is put into the address in place of both. -/
theorem not_readOnce_of_action :
    let path := "/libros:\x7b\x7baccion\x7d\x7d"
    let scope : Value := .record [("accion", .text "token"), ("token", .text "t0k")]
    expandPath path [] scope = "/librost0k" ∧
      String.ofList (written [] scope (partsFrom 0 path.toList)) = "/libros:token" ∧
      ¬∀ (path : String) (params : Fields String) (scope : Value),
        expandPath path params scope =
          String.ofList (written params scope (partsFrom 0 path.toList)) := by
  intro path scope
  have htwice : expandPath path [] scope = "/librost0k" := by decide +kernel
  have honce : String.ofList (written [] scope (partsFrom 0 path.toList)) = "/libros:token" := by
    decide +kernel
  refine ⟨htwice, honce, fun h => ?_⟩
  have heq := h path [] scope
  rw [htwice, honce] at heq
  exact absurd heq (by decide)

end Dialogue
