import Dialogue.Document.Json

/-!
# Numbers in a text

A number ends where no character can go on with it, so it is read alike alone and before such a
text.

* `Json.readNumber_append`: what follows a number does not change what is read.
* `Json.readNumber_digitsOf`: a whole number of 64 bits is read from its digits.
-/

namespace Dialogue

section Steps

variable {ε α β : Type} {e : Except ε α} {b : β}

theorem of_bind_ok {f : α → Except ε β} (h : e >>= f = .ok b) : ∃ a, e = .ok a ∧ f a = .ok b := by
  cases e with
  | error _ => cases h
  | ok a => exact ⟨a, rfl, h⟩

theorem of_map_ok {f : α → β} (h : e.map f = .ok b) : ∃ a, e = .ok a ∧ f a = b := by
  cases e with
  | error _ => cases h
  | ok a => exact ⟨a, rfl, Except.ok.inj h⟩

end Steps

namespace Json

open Text

/-- A text that does not go on with a number that stands before it. -/
def Ends (tail : List Char) : Prop :=
  ∀ c ∈ tail.head?, isDigit c = false ∧ c ≠ '.' ∧ c ≠ 'e' ∧ c ≠ 'E'

variable {tail : List Char}

theorem ends_nil : Ends [] := fun _ h => by cases h

theorem ends_cons {c : Char} (h : isDigit c = false ∧ c ≠ '.' ∧ c ≠ 'e' ∧ c ≠ 'E')
    (rest : List Char) : Ends (c :: rest) := by
  intro d hd
  cases hd
  exact h

/-! ### Runs of digits -/

theorem takeWhile_append_ends (ht : Ends tail) (cs : List Char) :
    (cs ++ tail).takeWhile isDigit = cs.takeWhile isDigit := by
  induction cs with
  | nil =>
    cases tail with
    | nil => rfl
    | cons c rest => exact List.takeWhile_cons_of_neg (by simp [(ht c rfl).1])
  | cons c cs ih => simp only [List.cons_append, List.takeWhile_cons, ih]

theorem dropWhile_append_ends (ht : Ends tail) (cs : List Char) :
    (cs ++ tail).dropWhile isDigit = cs.dropWhile isDigit ++ tail := by
  induction cs with
  | nil =>
    cases tail with
    | nil => rfl
    | cons c rest => exact List.dropWhile_cons_of_neg (by simp [(ht c rfl).1])
  | cons c cs ih =>
    rw [List.cons_append, List.dropWhile_cons, List.dropWhile_cons, ih]
    split <;> rfl

theorem takeDigits_append (ht : Ends tail) (n count : Nat) (cs : List Char) :
    takeDigits n count (cs ++ tail) =
      ((takeDigits n count cs).1, (takeDigits n count cs).2.1, (takeDigits n count cs).2.2 ++ tail) := by
  induction cs generalizing n count with
  | nil =>
    cases tail with
    | nil => rfl
    | cons c rest =>
      have hc : ¬isDigit c = true := by simp [(ht c rfl).1]
      rw [List.nil_append, takeDigits.eq_def]
      exact if_neg hc
  | cons c cs ih =>
    rw [List.cons_append, takeDigits, takeDigits]
    split
    · dsimp only
      split
      · rfl
      · exact ih _ _
    · rfl

/-! ### Parts of numbers -/

variable {positive : Bool} {n : Nat} {exponent : Int} {cs rest : List Char} {x : Binary64}

/-- The digits of an exponent whose sign is known, and what follows them. -/
def exponentAfter (positive : Bool) (digits : Nat) (exponent : Int) (up : Bool) (cs : List Char) :
    Except TextFault (Binary64 × List Char) :=
  match cs with
  | [] => .error .endInValue
  | c :: _ =>
    if isDigit c then
      let e := natOfDigits (cs.takeWhile isDigit)
      let rest := cs.dropWhile isDigit
      if 2147483647 < e then
        if digits ≠ 0 ∧ up then .error .numberTooLarge
        else .ok (if positive then Binary64.ofNat 0 else (Binary64.ofNat 0).neg, rest)
      else do
        let x ← toReal positive digits (if up then exponent + e else exponent - e)
        .ok (x, rest)
    else .error .badNumber

/-- The sign of an exponent, up unless it says otherwise, and what follows it. -/
def exponentSign (cs : List Char) : Bool × List Char :=
  match cs with
  | '+' :: rest => (true, rest)
  | '-' :: rest => (false, rest)
  | _ => (true, cs)

theorem readExponent_eq (cs : List Char) : readExponent positive n exponent cs =
    exponentAfter positive n exponent (exponentSign cs).1 (exponentSign cs).2 := by
  unfold readExponent exponentAfter exponentSign
  rfl

theorem exponentSign_append (h : cs ≠ []) (tail : List Char) :
    exponentSign (cs ++ tail) = ((exponentSign cs).1, (exponentSign cs).2 ++ tail) := by
  cases cs with
  | nil => exact absurd rfl h
  | cons c cs =>
    unfold exponentSign
    rw [List.cons_append]
    split <;> split <;> simp_all

theorem exponentAfter_append (ht : Ends tail) {up : Bool}
    (h : exponentAfter positive n exponent up cs = .ok (x, rest)) :
    exponentAfter positive n exponent up (cs ++ tail) = .ok (x, rest ++ tail) := by
  have htake := takeWhile_append_ends ht cs
  have hdrop := dropWhile_append_ends ht cs
  cases cs with
  | nil => cases h
  | cons c cs =>
    rw [List.cons_append] at htake hdrop ⊢
    unfold exponentAfter at h ⊢
    dsimp only at h ⊢
    rw [htake, hdrop]
    split at h
    · rename_i hd
      rw [if_pos hd]
      split at h
      · rename_i hlarge
        rw [if_pos hlarge]
        split at h
        · cases h
        · rename_i hn
          rw [if_neg hn]
          cases h
          rfl
      · rename_i hlarge
        rw [if_neg hlarge]
        obtain ⟨y, hy, heq⟩ := of_bind_ok h
        cases heq
        rw [hy]
        rfl
    · cases h

theorem readExponent_append (ht : Ends tail)
    (h : readExponent positive n exponent cs = .ok (x, rest)) :
    readExponent positive n exponent (cs ++ tail) = .ok (x, rest ++ tail) := by
  have hne : cs ≠ [] := by
    rintro rfl
    cases h
  rw [readExponent_eq] at h ⊢
  rw [exponentSign_append hne]
  exact exponentAfter_append ht h

theorem append_ne_cons {c : Char} (h : ∀ rest, cs = c :: rest → False)
    (ht : ∀ rest, tail = c :: rest → False) (rest : List Char) : cs ++ tail = c :: rest → False := by
  cases cs with
  | nil => exact ht rest
  | cons d cs =>
    intro he
    cases he
    exact h _ rfl

theorem Ends.ne_cons (ht : Ends tail) {c : Char} (hc : c = '.' ∨ c = 'e' ∨ c = 'E')
    (rest : List Char) : tail = c :: rest → False := by
  rintro rfl
  obtain ⟨-, hdot, he, hE⟩ := ht c rfl
  rcases hc with rfl | rfl | rfl
  · exact hdot rfl
  · exact he rfl
  · exact hE rfl

theorem readScaled_append (ht : Ends tail)
    (h : readScaled positive n exponent cs = .ok (x, rest)) :
    readScaled positive n exponent (cs ++ tail) = .ok (x, rest ++ tail) := by
  unfold readScaled at h
  split at h
  · exact readExponent_append ht h
  · exact readExponent_append ht h
  · rename_i he hE
    rw [readScaled.eq_3 _ _ _ _ (append_ne_cons he (ht.ne_cons (by simp)))
      (append_ne_cons hE (ht.ne_cons (by simp)))]
    obtain ⟨y, hy, heq⟩ := of_bind_ok h
    cases heq
    rw [hy]
    rfl

theorem readFraction_append (ht : Ends tail)
    (h : readFraction positive n exponent cs = .ok (x, rest)) :
    readFraction positive n exponent (cs ++ tail) = .ok (x, rest ++ tail) := by
  unfold readFraction at h ⊢
  rw [takeDigits_append ht]
  generalize takeDigits n 0 cs = taken at h ⊢
  obtain ⟨m, count, more⟩ := taken
  dsimp only at h ⊢
  cases more with
  | nil =>
    dsimp only at h
    split at h
    · cases h
    · rename_i hc
      have hs := readScaled_append ht h
      rw [List.nil_append] at hs ⊢
      cases tail with
      | nil =>
        dsimp only
        rw [if_neg hc]
        exact hs
      | cons c tail =>
        have hd : ¬isDigit c = true := by simp [(ht c rfl).1]
        dsimp only
        rw [if_neg hd, if_neg hc]
        exact hs
  | cons c more =>
    rw [List.cons_append]
    dsimp only at h ⊢
    rw [← List.cons_append]
    split at h
    · rename_i hd
      rw [if_pos hd, dropWhile_append_ends ht]
      exact readScaled_append ht h
    · rename_i hd
      rw [if_neg hd]
      split at h
      · cases h
      · rename_i hc
        rw [if_neg hc]
        exact readScaled_append ht h

/-- A number found in a step is a document, whatever follows. -/
theorem real_append {d : Document} {e e' : Except TextFault (Binary64 × List Char)}
    (he : ∀ y more, e = .ok (y, more) → e' = .ok (y, more ++ tail))
    (h : e.map (fun (x, rest) => (Document.real x, rest)) = .ok (d, rest)) :
    e'.map (fun (x, rest) => (Document.real x, rest)) = .ok (d, rest ++ tail) := by
  obtain ⟨⟨y, more⟩, hy, heq⟩ := of_map_ok h
  cases heq
  rw [he _ _ hy]
  rfl

theorem readRest_append {d : Document} (ht : Ends tail)
    (h : readRest positive n cs = .ok (d, rest)) :
    readRest positive n (cs ++ tail) = .ok (d, rest ++ tail) := by
  unfold readRest at h
  split at h
  · exact real_append (fun _ _ => readFraction_append ht) h
  · exact real_append (fun _ _ => readExponent_append ht) h
  · exact real_append (fun _ _ => readExponent_append ht) h
  · rename_i hdot he hE
    rw [readRest.eq_4 _ _ _ (append_ne_cons hdot (ht.ne_cons (by simp)))
      (append_ne_cons he (ht.ne_cons (by simp))) (append_ne_cons hE (ht.ne_cons (by simp)))]
    split at h
    · rename_i hp
      cases h
      rw [if_pos hp]
    · rename_i hp
      rw [if_neg hp]
      split at h
      · rename_i hn
        cases h
        rw [if_pos hn]
      · rename_i hn
        cases h
        rw [if_neg hn]

/-- The digits of a number beyond 64 bits are passed over up to a point or an exponent. -/
def readLong (positive : Bool) (n digits : Nat) (cs : List Char) :
    Except TextFault (Document × List Char) :=
  match cs with
  | '.' :: rest => (readFraction positive n digits rest).map fun (x, rest) => (.real x, rest)
  | _ => (readScaled positive n digits cs).map fun (x, rest) => (.real x, rest)

theorem readLong_append {d : Document} {digits : Nat} (ht : Ends tail)
    (h : readLong positive n digits cs = .ok (d, rest)) :
    readLong positive n digits (cs ++ tail) = .ok (d, rest ++ tail) := by
  unfold readLong at h
  split at h
  · exact real_append (fun _ _ => readFraction_append ht) h
  · rename_i hdot
    rw [readLong.eq_2 _ _ _ _ (append_ne_cons hdot (ht.ne_cons (by simp)))]
    exact real_append (fun _ _ => readScaled_append ht) h

/-- What follows the digits that fit 64 bits: further digits, or the rest of the number. -/
def readOn (positive : Bool) (n : Nat) (fault : Option TextFault) (cs : List Char) :
    Except TextFault (Document × List Char) :=
  if (cs.head?.map isDigit).getD false then
    match fault with
    | some fault => .error fault
    | none => readLong positive n (cs.takeWhile isDigit).length (cs.dropWhile isDigit)
  else readRest positive n cs

theorem readNumber_zero (cs : List Char) :
    readNumber positive ('0' :: cs) = readOn positive 0 (some .badNumber) cs := by
  unfold readNumber readOn
  cases cs <;> rfl

theorem readNumber_digit {c : Char} (hc : c ≠ '0') (hd : isDigit c = true) (cs : List Char) :
    readNumber positive (c :: cs) =
      readOn positive (takeDigits 0 0 (c :: cs)).1 none (takeDigits 0 0 (c :: cs)).2.2 := by
  unfold readNumber readOn readLong
  dsimp only
  rw [if_neg hc, if_pos hd]
  generalize takeDigits 0 0 (c :: cs) = taken
  obtain ⟨m, count, more⟩ := taken
  cases more <;> rfl

theorem readOn_append {d : Document} {fault : Option TextFault} (ht : Ends tail)
    (h : readOn positive n fault cs = .ok (d, rest)) :
    readOn positive n fault (cs ++ tail) = .ok (d, rest ++ tail) := by
  have hhead : ((cs ++ tail).head?.map isDigit).getD false = (cs.head?.map isDigit).getD false := by
    cases cs with
    | nil =>
      cases tail with
      | nil => rfl
      | cons c rest => exact (ht c rfl).1
    | cons c cs => rfl
  unfold readOn at h ⊢
  rw [hhead, takeWhile_append_ends ht, dropWhile_append_ends ht]
  split at h
  · rename_i hd
    rw [if_pos hd]
    cases fault with
    | some fault => cases h
    | none => exact readLong_append ht h
  · rename_i hd
    rw [if_neg hd]
    exact readRest_append ht h

/-- A number that is read is a zero by itself or begins with another digit. -/
theorem readNumber_cases {d : Document} (h : readNumber positive cs = .ok (d, rest)) :
    (∃ more, cs = '0' :: more ∧ readOn positive 0 (some .badNumber) more = .ok (d, rest)) ∨
      ∃ c more, cs = c :: more ∧ c ≠ '0' ∧ isDigit c = true ∧
        readOn positive (takeDigits 0 0 cs).1 none (takeDigits 0 0 cs).2.2 = .ok (d, rest) := by
  cases cs with
  | nil => cases h
  | cons c cs =>
    by_cases hc : c = '0'
    · subst hc
      rw [readNumber_zero] at h
      exact .inl ⟨cs, rfl, h⟩
    · cases hd : isDigit c with
      | true =>
        rw [readNumber_digit hc hd] at h
        exact .inr ⟨c, cs, rfl, hc, hd, h⟩
      | false =>
        unfold readNumber at h
        dsimp only at h
        rw [if_neg hc, if_neg (by simp [hd])] at h
        cases h

/-- What follows a number does not change what is read. -/
theorem readNumber_append {d : Document} (ht : Ends tail)
    (h : readNumber positive cs = .ok (d, rest)) :
    readNumber positive (cs ++ tail) = .ok (d, rest ++ tail) := by
  rcases readNumber_cases h with ⟨more, rfl, hon⟩ | ⟨c, more, rfl, hc, hd, hon⟩
  · rw [List.cons_append, readNumber_zero]
    exact readOn_append ht hon
  · rw [List.cons_append, readNumber_digit hc hd, ← List.cons_append, takeDigits_append ht]
    exact readOn_append ht hon

/-! ### Whole numbers -/

theorem isDigit_of_mem_digitsOf {c : Char} (h : c ∈ digitsOf n) : isDigit c = true :=
  Nat.isDigit_of_mem_toDigits (by decide) (by decide) h

theorem natOfDigits_digitsOf (n : Nat) : natOfDigits (digitsOf n) = n := by
  have h := Nat.ofDigitChars_toDigits (b := 10) (n := n) (by decide) (by decide)
  simp only [Nat.ofDigitChars, Nat.mul_comm 10] at h
  exact h

theorem digitsOf_ne_nil (n : Nat) : digitsOf n ≠ [] := Nat.toDigits_ne_nil

/-- Only zero begins with a zero. -/
theorem head_digitsOf {n : Nat} (h : 0 < n) : ∀ c ∈ (digitsOf n).head?, c ≠ '0' := by
  induction n using Nat.strongRecOn with
  | ind n ih =>
    by_cases hlt : n < 10
    · rw [digitsOf, Nat.toDigits_of_lt_base hlt]
      rintro c ⟨⟩
      have hdigit : ∀ m < 10, 0 < m → m.digitChar ≠ '0' := by decide
      exact hdigit n hlt h
    · rw [digitsOf, Nat.toDigits_of_base_le (by decide) (Nat.le_of_not_lt hlt), List.head?_append]
      cases hd : (Nat.toDigits 10 (n / 10)).head? with
      | none => exact absurd (List.head?_eq_none_iff.1 hd) Nat.toDigits_ne_nil
      | some d =>
        rw [Option.some_or, ← hd]
        exact ih (n / 10) (by omega) (by omega)

theorem le_foldl_digits (n : Nat) (ds : List Char) :
    n ≤ ds.foldl (fun n c => n * 10 + (c.toNat - '0'.toNat)) n := by
  induction ds generalizing n with
  | nil => exact Nat.le_refl n
  | cons c ds ih =>
    have hnext : n ≤ n * 10 + (c.toNat - '0'.toNat) := by omega
    exact Nat.le_trans hnext (ih _)

/-- The digits of a number of 64 bits are taken to the last. -/
theorem takeDigits_of_le {count : Nat} {ds : List Char} (hd : ∀ c ∈ ds, isDigit c = true)
    (hle : ds.foldl (fun n c => n * 10 + (c.toNat - '0'.toNat)) n ≤ greatestNatural) :
    takeDigits n count ds =
      (ds.foldl (fun n c => n * 10 + (c.toNat - '0'.toNat)) n, count + ds.length, []) := by
  induction ds generalizing n count with
  | nil => rfl
  | cons c ds ih =>
    have hnext : ¬greatestNatural < n * 10 + (c.toNat - '0'.toNat) :=
      Nat.not_lt.2 (Nat.le_trans (le_foldl_digits _ ds) hle)
    rw [takeDigits, if_pos (hd c List.mem_cons_self)]
    dsimp only
    rw [if_neg hnext, ih (fun d hm => hd d (List.mem_cons_of_mem c hm)) hle, List.length_cons,
      Nat.add_right_comm, Nat.add_assoc]
    rfl

/-- A whole number of 64 bits is read from its digits. -/
theorem readNumber_digitsOf (hn : n ≤ greatestNatural) :
    readNumber positive (digitsOf n) = readRest positive n [] := by
  rcases Nat.eq_zero_or_pos n with rfl | hpos
  · rfl
  · cases hds : digitsOf n with
    | nil => exact absurd hds (digitsOf_ne_nil n)
    | cons c ds =>
      have hdigit : ∀ d ∈ c :: ds, isDigit d = true := by
        intro d hm
        rw [← hds] at hm
        exact isDigit_of_mem_digitsOf hm
      have hc : c ≠ '0' := head_digitsOf hpos c (by rw [hds]; rfl)
      have hfold : (c :: ds).foldl (fun n c => n * 10 + (c.toNat - '0'.toNat)) 0 = n := by
        rw [← hds]
        exact natOfDigits_digitsOf n
      rw [readNumber_digit hc (hdigit c List.mem_cons_self),
        takeDigits_of_le hdigit (by rw [hfold]; exact hn), hfold]
      rfl

/-- A whole number of 64 bits is read from its text. -/
theorem readNumber_int {i : Int} (hl : -(twoTo 63 : Int) ≤ i) (hg : i ≤ greatestNatural) :
    readNumber (!decide (i < 0)) (digitsOf i.natAbs) = .ok (.int i, []) := by
  have hn : i.natAbs ≤ greatestNatural := by
    have hp : twoTo 63 ≤ greatestNatural := by decide
    omega
  rw [readNumber_digitsOf hn]
  unfold readRest
  dsimp only
  by_cases hneg : i < 0
  · have hbounds : 0 < i.natAbs ∧ i.natAbs ≤ twoTo 63 := by omega
    rw [decide_eq_true hneg, if_neg (by decide), if_pos hbounds,
      Int.ofNat_natAbs_of_nonpos (Int.le_of_lt hneg), Int.neg_neg]
  · rw [decide_eq_false hneg, if_pos (by decide), Int.natAbs_of_nonneg (Int.not_lt.1 hneg)]

end Json

end Dialogue
