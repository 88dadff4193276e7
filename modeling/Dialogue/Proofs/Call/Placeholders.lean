import Mathlib.Data.List.TakeWhile
import Dialogue.Call.Path

/-!
# Placeholders in paths

What a placeholder looks like, and where one ends. A parameter is a name with a mark before it, or
between braces. Its name is the longest run of letters, digits and underscores, so that whether there
is a parameter is settled by this run and by the character behind it.

* `PathPart.parameter?_marked`, `PathPart.parameter?_braced`: parameters by their longest run.
* `PathPart.IsParameter`, `PathPart.exists_of_parameter?`: what a parameter is written as.
* `PathPart.append_drop_of_token?`, `PathPart.append_drop_of_parameter?`: a placeholder and what
  follows it make up the text.
* `PathPart.tokensFrom_append`, `PathPart.parametersFrom_append`: characters that begin no placeholder
  are read as they stand.
* `PathPart.source_tokensFrom`: the parts of a path are written as the path.
-/

namespace Dialogue.PathPart

open Text

variable {c d : Char} {cs name written inner : List Char}

/-! ### Names -/

theorem name?_cons (c : Char) (cs : List Char) :
    name? (c :: cs) = if startsName c then some (c :: cs.takeWhile isOfName) else none := rfl

theorem isOfName_of_startsName (h : startsName c = true) : isOfName c = true := by
  rw [isOfName, h]
  rfl

/-- A name is the longest run of its characters at the front of a text. -/
theorem name?_eq_some (h : name? cs = some name) : name = cs.takeWhile isOfName := by
  cases cs with
  | nil => cases h
  | cons c cs =>
    rw [name?_cons] at h
    split at h
    · rename_i hc
      cases h
      exact (List.takeWhile_cons_of_pos (isOfName_of_startsName hc)).symm
    · cases h

/-- Only the longest run decides whether there is a name. -/
theorem name?_takeWhile (cs : List Char) : name? (cs.takeWhile isOfName) = name? cs := by
  cases cs with
  | nil => rfl
  | cons c cs =>
    cases hc : isOfName c with
    | true =>
      rw [List.takeWhile_cons_of_pos hc, name?_cons, name?_cons,
        List.takeWhile_eq_self_iff.2 (List.all_eq_true.1 List.all_takeWhile)]
    | false =>
      have hs : ¬startsName c = true := fun hs =>
        Bool.false_ne_true (hc.symm.trans (isOfName_of_startsName hs))
      rw [List.takeWhile_cons_of_neg (by simp [hc]), name?_cons, if_neg hs]
      rfl

/-- A name is still there when something follows. -/
theorem name?_append_isSome (h : (name? cs).isSome = true) (more : List Char) :
    (name? (cs ++ more)).isSome = true := by
  cases cs with
  | nil => cases h
  | cons c cs =>
    rw [name?_cons] at h
    rw [List.cons_append, name?_cons]
    split at h
    · rename_i hc
      rw [if_pos hc]
      rfl
    · cases h

/-! ### Parameters -/

theorem parameter?_marked (cs : List Char) :
    parameter? (':' :: cs) =
      (name? (cs.takeWhile isOfName)).map fun name => (':' :: name, name) := by
  rw [name?_takeWhile]
  rfl

theorem parameter?_braced (cs : List Char) :
    parameter? ('\x7b' :: cs) =
      if (cs.dropWhile isOfName).head? = some '\x7d' then
        (name? (cs.takeWhile isOfName)).map fun name => ('\x7b' :: (name ++ ['\x7d']), name)
      else none := by
  have hbind : parameter? ('\x7b' :: cs) = (name? cs).bind fun name =>
      if (cs.drop name.length).head? = some '\x7d' then some ('\x7b' :: (name ++ ['\x7d']), name)
      else none := rfl
  rw [hbind, name?_takeWhile]
  cases hn : name? cs with
  | none => simp
  | some name =>
    have hdrop : cs.drop name.length = cs.dropWhile isOfName := by
      have hleft : (cs.takeWhile isOfName ++ cs.dropWhile isOfName).drop
          (cs.takeWhile isOfName).length = cs.dropWhile isOfName := List.drop_left
      rwa [List.takeWhile_append_dropWhile, ← name?_eq_some hn] at hleft
    rw [Option.bind_some, hdrop, Option.map_some]

theorem parameter?_of_ne (hmark : c ≠ ':') (hbrace : c ≠ '\x7b') : parameter? (c :: cs) = none := by
  unfold parameter?
  split
  · rename_i he
    exact absurd (List.cons.inj he).1 hmark
  · rename_i he
    exact absurd (List.cons.inj he).1 hbrace
  · rfl

/-- Whether a text is written as a parameter with a name. -/
inductive IsParameter : (written name : List Char) → Prop
  | marked {name : List Char} (chars : ∀ d ∈ name, isOfName d = true) :
    IsParameter (':' :: name) name
  | braced {name : List Char} (chars : ∀ d ∈ name, isOfName d = true) :
    IsParameter ('\x7b' :: (name ++ ['\x7d'])) name

/-- A parameter at the front of a text: its name is the longest run behind its first character. -/
theorem exists_of_parameter? (h : parameter? (c :: cs) = some (written, name)) :
    IsParameter written name ∧ name = cs.takeWhile isOfName ∧ ∃ rest, c :: cs = written ++ rest := by
  have hchars : ∀ d ∈ cs.takeWhile isOfName, isOfName d = true :=
    List.all_eq_true.1 List.all_takeWhile
  have hfound : ∀ {found}, name? (cs.takeWhile isOfName) = some found →
      found = cs.takeWhile isOfName := fun hf => name?_eq_some (name?_takeWhile cs ▸ hf)
  by_cases hmark : c = ':'
  · subst hmark
    rw [parameter?_marked] at h
    obtain ⟨found, hf, he⟩ := Option.map_eq_some_iff.1 h
    obtain rfl := hfound hf
    cases he
    exact ⟨.marked hchars, rfl, cs.dropWhile isOfName, by simp⟩
  · by_cases hbrace : c = '\x7b'
    · subst hbrace
      rw [parameter?_braced] at h
      split at h
      · rename_i hclosed
        obtain ⟨found, hf, he⟩ := Option.map_eq_some_iff.1 h
        obtain rfl := hfound hf
        cases he
        obtain ⟨rest, hrest⟩ := List.head?_eq_some_iff.1 hclosed
        refine ⟨.braced hchars, rfl, rest, ?_⟩
        rw [List.cons_append, List.append_assoc, List.singleton_append, ← hrest,
          List.takeWhile_append_dropWhile]
      · cases h
    · rw [parameter?_of_ne hmark hbrace] at h
      cases h

theorem IsParameter.chars (h : IsParameter written name) : ∀ d ∈ name, isOfName d = true := by
  cases h with
  | marked chars => exact chars
  | braced chars => exact chars

theorem IsParameter.length_pos (h : IsParameter written name) : 0 < written.length := by
  cases h <;> exact Nat.succ_pos _

/-- After its first character a parameter holds no character that begins a placeholder. -/
theorem IsParameter.of_mem_tail (h : IsParameter written name) (hd : d ∈ written.tail) :
    d ≠ ':' ∧ d ≠ '\x7b' := by
  have hchar : ∀ {d}, isOfName d = true → d ≠ ':' ∧ d ≠ '\x7b' := fun {d} hd =>
    ⟨by rintro rfl; exact absurd hd (by decide), by rintro rfl; exact absurd hd (by decide)⟩
  cases h with
  | marked chars => exact hchar (chars d hd)
  | braced chars =>
    rcases List.mem_append.1 hd with hd | hd
    · exact hchar (chars d hd)
    · rw [List.mem_singleton.1 hd]
      decide

/-- A parameter and what follows it make up the text. -/
theorem append_drop_of_parameter? (h : parameter? (c :: cs) = some (written, name)) :
    written ++ cs.drop (written.length - 1) = c :: cs := by
  obtain ⟨hparameter, -, rest, he⟩ := exists_of_parameter? h
  have hlen := hparameter.length_pos
  have hcons : cs.drop (written.length - 1) = (c :: cs).drop (written.length - 1 + 1) := rfl
  rw [hcons, he, Nat.sub_add_cancel hlen, List.drop_left]

/-! ### Tokens -/

/-- A part as it is written. -/
def source : PathPart → List Char
  | literal c => [c]
  | token inner => '\x7b' :: '\x7b' :: (inner ++ ['\x7d', '\x7d'])
  | parameter written _ => written

/-- A token and what follows it make up the text. -/
theorem append_drop_of_token? (h : token? (c :: cs) = some inner) :
    source (token inner) ++ cs.drop (inner.length + 3) = c :: cs := by
  simp only [token?, Option.bind_eq_bind, Option.bind_eq_some_iff] at h
  obtain ⟨inside, ha, ⟨before, rest⟩, hc, he⟩ := h
  dsimp only at he
  split at he
  · cases he
  · cases he
    have htext : c :: cs = source (token inner) ++ rest := by
      rw [after?_eq_some.1 ha, cut?_eq_some hc]
      simp [source]
    have hdrop : cs.drop (inner.length + 3) = rest := by
      have hcons : cs.drop (inner.length + 3) = (c :: cs).drop (source (token inner)).length := by
        simp [source]
      rw [hcons, htext, List.drop_left]
    rw [hdrop, htext]

theorem token?_of_ne (h : c ≠ '\x7b') : token? (c :: cs) = none := by
  rw [token?, after?, if_neg (Ne.symm h)]
  rfl

/-! ### Reading on -/

/-- Skipping characters is reading what follows them. -/
theorem tokensFrom_eq (skip : Nat) (cs : List Char) :
    tokensFrom skip cs = tokensFrom 0 (cs.drop skip) := by
  induction cs generalizing skip with
  | nil => rw [List.drop_nil, tokensFrom_nil, tokensFrom_nil]
  | cons c cs ih =>
    cases skip with
    | zero => rfl
    | succ skip => rw [tokensFrom, ih, List.drop_succ_cons]

theorem parametersFrom_eq (skip : Nat) (cs : List Char) :
    parametersFrom skip cs = parametersFrom 0 (cs.drop skip) := by
  induction cs generalizing skip with
  | nil => rw [List.drop_nil, parametersFrom_nil, parametersFrom_nil]
  | cons c cs ih =>
    cases skip with
    | zero => rfl
    | succ skip => rw [parametersFrom, ih, List.drop_succ_cons]

theorem tokensFrom_of_none (h : token? (c :: cs) = none) :
    tokensFrom 0 (c :: cs) = literal c :: tokensFrom 0 cs := by
  rw [tokensFrom, h]

theorem parametersFrom_of_some (h : parameter? (c :: cs) = some (written, name)) :
    parametersFrom 0 (c :: cs) =
      parameter written name :: parametersFrom 0 (cs.drop (written.length - 1)) := by
  rw [parametersFrom, h, ← parametersFrom_eq]

theorem parametersFrom_of_none (h : parameter? (c :: cs) = none) :
    parametersFrom 0 (c :: cs) = literal c :: parametersFrom 0 cs := by
  rw [parametersFrom, h]

/-- Characters other than an opening brace begin no token. -/
theorem tokensFrom_append (h : ∀ c ∈ cs, c ≠ '\x7b') (rest : List Char) :
    tokensFrom 0 (cs ++ rest) = cs.map literal ++ tokensFrom 0 rest := by
  induction cs with
  | nil => rfl
  | cons c cs ih =>
    obtain ⟨hc, hcs⟩ := List.forall_mem_cons.1 h
    rw [List.cons_append, tokensFrom, token?_of_ne hc, ih hcs]
    rfl

/-- Characters other than an opening brace and the mark of a parameter begin no parameter. -/
theorem parametersFrom_append (h : ∀ c ∈ cs, c ≠ ':' ∧ c ≠ '\x7b') (rest : List Char) :
    parametersFrom 0 (cs ++ rest) = cs.map literal ++ parametersFrom 0 rest := by
  induction cs with
  | nil => rfl
  | cons c cs ih =>
    obtain ⟨⟨hmark, hbrace⟩, hcs⟩ := List.forall_mem_cons.1 h
    rw [List.cons_append, parametersFrom, parameter?_of_ne hmark hbrace, ih hcs]
    rfl

/-- The tokens behind a parameter are those of what follows it. -/
theorem tokensFrom_of_parameter? (h : parameter? (c :: cs) = some (written, name)) :
    tokensFrom 0 cs = written.tail.map literal ++ tokensFrom (written.length - 1) cs := by
  have hparameter := (exists_of_parameter? h).1
  have hcs : cs = written.tail ++ cs.drop (written.length - 1) := by
    have happend := append_drop_of_parameter? h
    cases written with
    | nil => exact absurd hparameter.length_pos (Nat.lt_irrefl 0)
    | cons d written => exact (List.cons.inj happend).2.symm
  calc tokensFrom 0 cs
    _ = tokensFrom 0 (written.tail ++ cs.drop (written.length - 1)) := congrArg _ hcs
    _ = written.tail.map literal ++ tokensFrom 0 (cs.drop (written.length - 1)) :=
      tokensFrom_append (fun d hd => (hparameter.of_mem_tail hd).2) _
    _ = written.tail.map literal ++ tokensFrom (written.length - 1) cs := by rw [← tokensFrom_eq]

/-- The parts of a path are written as the path. -/
theorem source_tokensFrom (skip : Nat) (cs : List Char) :
    (tokensFrom skip cs).flatMap source = cs.drop skip := by
  fun_induction tokensFrom skip cs with
  | case1 => rw [List.drop_nil, List.flatMap_nil]
  | case2 skip c cs ih => rw [ih, List.drop_succ_cons]
  | case3 c cs inner ht ih =>
    rw [List.flatMap_cons, ih, append_drop_of_token? ht, List.drop_zero]
  | case4 c cs ht ih =>
    rw [List.flatMap_cons, ih]
    rfl

/-! ### What is put in their place -/

/-- A token is replaced by the segment of a text. -/
theorem exists_expand_token (params : Fields String) (scope : Value) (inner : List Char) :
    ∃ text, expand params scope (token inner) = Percent.segment text := by
  rw [expand]
  split
  · exact ⟨_, rfl⟩
  · exact ⟨[], rfl⟩

/-- A parameter is replaced by the segment of a text, or left as it is written. -/
theorem expand_parameter_cases (params : Fields String) (scope : Value)
    (written name : List Char) :
    (∃ text, expand params scope (parameter written name) = Percent.segment text) ∨
      expand params scope (parameter written name) = written := by
  rw [expand]
  split
  · exact .inl ⟨_, rfl⟩
  · split
    · exact .inl ⟨_, rfl⟩
    · exact .inr rfl

end Dialogue.PathPart
