import Dialogue.Proofs.Text.Margins
import Dialogue.Proofs.Value.Steps
import Dialogue.Template.Render

/-!
# Names and paths in templates

Authors write paths of names and indices. Such a path is read twice: by the walker of values, which
takes its steps from the text as it is written, and by the reader of templates, after indices in
brackets were given a dot. Both readings name the same places, except that an index in brackets leads
into lists only for the one and into records too for the other.

* `PlainName`, `PlainPath`: names and paths that mean nothing else in a template.
* `PlainPath.steps_written`: the steps of a path as it is written.
* `PlainPath.readReference_reached`: the reference that is read of it, from any block.
* `PlainPath.walk_eq`: both lead to the same value.
-/

namespace Dialogue.Template

open Text

/-! ### Names -/

/-- Words that mean something else in a template than a name. -/
def keywords : List String := ["this", "as", "else", "true", "false", "null"]

/-- A name that can only be meant as one: neither a digit nor `-` in front, no keyword and not the
name of a helper. -/
def isPlainName (cs : List Char) : Bool :=
  cs.all (fun c => isNameChar c && !isBlank c) && (cs.head?.any fun c => !isDigit c && c != '-') &&
    (!keywords.contains (String.ofList cs) && (Helper.ofName? (String.ofList cs)).isNone)

/-- A plain name. -/
structure PlainName where
  chars : List Char
  plain : isPlainName chars = true

/-- A run of digits. -/
structure Digits where
  chars : List Char
  digits : (chars != [] && chars.all isDigit) = true

/-- A text that no name goes on into. -/
def EndsName (rest : List Char) : Prop := ∀ c ∈ rest.head?, isNameChar c = false

/-- A text that no path goes on into. -/
def EndsPath (rest : List Char) : Prop :=
  ∀ c ∈ rest.head?, isNameChar c = false ∧ c ≠ '.' ∧ c ≠ '/'

variable {cs rest word : List Char} {c : Char}

theorem endsName_cons (h : isNameChar c = false) (rest : List Char) : EndsName (c :: rest) := by
  intro d hd
  cases hd
  exact h

theorem EndsPath.endsName (h : EndsPath rest) : EndsName rest := fun c hc => (h c hc).1

theorem endsPath_cons (h : isNameChar c = false ∧ c ≠ '.' ∧ c ≠ '/') (rest : List Char) :
    EndsPath (c :: rest) := by
  intro d hd
  cases hd
  exact h

/-- Keywords are made of the characters of names, and none of these is white space. -/
theorem isNameChar_of_keyword : ∀ word ∈ keywords, ∀ c ∈ word.toList,
    isNameChar c = true ∧ isBlank c = false := by
  have hall : keywords.all (fun word => word.toList.all fun c => isNameChar c && !isBlank c) := by
    decide
  intro word hw c hc
  simpa using List.all_eq_true.1 (List.all_eq_true.1 hall word hw) c hc

theorem isNameChar_of_isDigit (h : isDigit c = true) : isNameChar c = true := by
  simp [isNameChar, h]

theorem isDecimalDigit_of_isDigit (h : isDigit c = true) : isDecimalDigit c = true := by
  have hlt : c.toNat < 128 := by
    have := (isDigit_iff.1 h).2
    omega
  rw [isDecimalDigit, if_pos hlt, h]

theorem readName_append (hne : cs ≠ []) (h : ∀ c ∈ cs, isNameChar c = true) (hr : EndsName rest) :
    readName (cs ++ rest) = some (String.ofList cs, rest) := by
  have htail : rest.takeWhile isNameChar = [] ∧ rest.dropWhile isNameChar = rest := by
    cases rest with
    | nil => exact ⟨rfl, rfl⟩
    | cons c rest =>
      have hc : ¬isNameChar c = true := by simp [hr c rfl]
      exact ⟨List.takeWhile_cons_of_neg hc, List.dropWhile_cons_of_neg hc⟩
  have ht : (cs ++ rest).takeWhile isNameChar = cs := by
    rw [List.takeWhile_append_of_pos h, htail.1, List.append_nil]
  have hd : (cs ++ rest).dropWhile isNameChar = rest := by
    rw [List.dropWhile_append_of_pos h, htail.2]
  rw [readName, ht, hd]
  exact if_neg hne

theorem readName_of_endsName (hr : EndsName rest) : readName rest = none := by
  cases rest with
  | nil => rfl
  | cons c rest =>
    have hc : ¬isNameChar c = true := by simp [hr c rfl]
    rw [readName, List.takeWhile_cons_of_neg hc]
    exact if_pos rfl

theorem readSeparator_cons (hdot : c ≠ '.') (hslash : c ≠ '/') (rest : List Char) :
    readSeparator (c :: rest) = none := by
  rw [readSeparator]
  · exact fun _ h => hdot (List.cons.inj h).1
  · exact fun _ h => hslash (List.cons.inj h).1

theorem readSeparator_name (hn : isNameChar c = true) (rest : List Char) :
    readSeparator (c :: rest) = none := by
  refine readSeparator_cons ?_ ?_ rest <;> rintro rfl <;> cases hn

/-- A word at the front of a name is at the front of its characters. -/
theorem exists_of_after?_name (hw : ∀ c ∈ word, isNameChar c = true) (hr : EndsName rest)
    {more : List Char} (h : after? word (cs ++ rest) = some more) :
    ∃ tail, cs = word ++ tail ∧ more = tail ++ rest := by
  have he := after?_eq_some.1 h
  rcases List.append_eq_append_iff.1 he with ⟨tail, hword, hmore⟩ | ⟨tail, hcs, hmore⟩
  · -- the word would go on behind the name
    cases tail with
    | nil =>
      rw [List.append_nil] at hword
      exact ⟨[], by rw [List.append_nil, hword], by rw [List.nil_append, hmore, List.nil_append]⟩
    | cons c tail =>
      have hc : isNameChar c = true := hw c (by simp [hword])
      rw [hr c (by simp [hmore])] at hc
      cases hc
  · exact ⟨tail, hcs, hmore⟩

/-- A name that is another word is not skipped as that word. -/
theorem skipWord_name (hc : ∀ c ∈ cs, isNameChar c = true) (hr : EndsName rest) {word : String}
    (hw : ∀ c ∈ word.toList, isNameChar c = true) (hne : cs ≠ word.toList) :
    skipWord word (cs ++ rest) = none := by
  cases h : mark? word (cs ++ rest) with
  | none => rw [skipWord, h]
  | some more =>
    obtain ⟨tail, htail, rfl⟩ := exists_of_after?_name hw hr h
    cases tail with
    | nil => exact absurd (htail.trans (List.append_nil _)) hne
    | cons c tail =>
      rw [skipWord, h]
      exact if_pos (hc c (by simp [htail]))

namespace PlainName

variable (n : PlainName)

/-- The name as a text. -/
def text : String := String.ofList n.chars

theorem isNameChar_of_mem {c : Char} (h : c ∈ n.chars) : isNameChar c = true := by
  have hp := n.plain
  simp only [isPlainName, Bool.and_eq_true, List.all_eq_true] at hp
  exact (hp.1.1 c h).1

theorem not_isBlank_of_mem {c : Char} (h : c ∈ n.chars) : isBlank c = false := by
  have hp := n.plain
  simp only [isPlainName, Bool.and_eq_true, List.all_eq_true] at hp
  simpa using (hp.1.1 c h).2

theorem ofName?_text : Helper.ofName? n.text = none := by
  have hp := n.plain
  simp only [isPlainName, Bool.and_eq_true] at hp
  exact Option.isNone_iff_eq_none.1 hp.2.2

theorem chars_ne_of_keyword {word : String} (h : word ∈ keywords) : n.chars ≠ word.toList := by
  intro he
  have hp := n.plain
  simp only [isPlainName, Bool.and_eq_true] at hp
  have hk : keywords.contains (String.ofList n.chars) = true := by
    rw [he, String.ofList_toList]
    exact List.contains_iff_mem.2 h
  rw [hk] at hp
  cases hp.2.1

/-- A plain name begins with a character that is neither a digit nor `-`. -/
theorem exists_cons : ∃ c cs, n.chars = c :: cs ∧ isNameChar c = true ∧ isBlank c = false ∧
    isDigit c = false ∧ c ≠ '-' := by
  have hp := n.plain
  simp only [isPlainName, Bool.and_eq_true] at hp
  obtain ⟨⟨-, hhead⟩, -⟩ := hp
  cases hc : n.chars with
  | nil => simp [hc] at hhead
  | cons c cs =>
    rw [hc] at hhead
    have hd : isDigit c = false ∧ c ≠ '-' := by simpa using hhead
    exact ⟨c, cs, rfl, n.isNameChar_of_mem (by simp [hc]), n.not_isBlank_of_mem (by simp [hc]), hd⟩

theorem chars_ne_nil : n.chars ≠ [] := by
  obtain ⟨c, cs, h, -⟩ := n.exists_cons
  simp [h]

/-- No list has an item under a plain name. -/
theorem naturalOf?_chars : naturalOf? n.chars = none := by
  obtain ⟨c, cs, h, hn, -, hd, -⟩ := n.exists_cons
  have hplus : c ≠ '+' := by
    rintro rfl
    cases hn
  have hnot : ¬(c :: cs ≠ [] ∧ (c :: cs).all isDigit = true) := by simp [hd]
  rw [h, naturalOf?, naturalBelow?, if_neg hnot]
  exact fun _ he => hplus (List.cons.inj he).1

end PlainName

namespace Digits

variable (d : Digits)

theorem isDigit_of_mem {c : Char} (h : c ∈ d.chars) : isDigit c = true := by
  have hd := d.digits
  simp only [Bool.and_eq_true, List.all_eq_true] at hd
  exact hd.2 c h

theorem chars_ne_nil : d.chars ≠ [] := by
  have hd := d.digits
  simp only [Bool.and_eq_true, bne_iff_ne] at hd
  exact hd.1

end Digits

/-! ### Paths -/

/-- A further item of a path: a name, or an index after a dot or in brackets. -/
inductive PathItem where
  | name (n : PlainName)
  | index (bracketed : Bool) (d : Digits)

namespace PathItem

/-- What is named. -/
def chars : PathItem → List Char
  | name n => n.chars
  | index _ d => d.chars

/-- An item without the dot before it. -/
def bare : PathItem → List Char
  | index true d => '[' :: (d.chars ++ [']'])
  | item => item.chars

/-- An item as it is written; brackets stand without a dot. -/
def written : PathItem → List Char
  | index true d => '[' :: (d.chars ++ [']'])
  | item => '.' :: item.chars

/-- An item as the language of templates has it. -/
def dotted (i : PathItem) : List Char := '.' :: i.bare

/-- The step of an item. -/
def step : PathItem → PathStep
  | index true d => Path.stepOfBracket d.chars
  | item => .key (String.ofList item.chars)

variable (i : PathItem)

theorem isNameChar_of_mem {c : Char} (h : c ∈ i.chars) : isNameChar c = true := by
  cases i with
  | name n => exact n.isNameChar_of_mem h
  | index b d => exact isNameChar_of_isDigit (d.isDigit_of_mem h)

theorem chars_ne_nil : i.chars ≠ [] := by
  cases i with
  | name n => exact n.chars_ne_nil
  | index b d => exact d.chars_ne_nil

theorem chars_ne_this : i.chars ≠ "this".toList := by
  cases i with
  | name n => exact n.chars_ne_of_keyword (by decide)
  | index b d =>
    intro h
    have ht : 't' ∈ d.chars := by
      rw [show d.chars = "this".toList from h]
      decide
    cases d.isDigit_of_mem ht

/-- A single item is read. -/
theorem readItem_bare (hr : EndsName rest) :
    readItem (i.bare ++ rest) = some (String.ofList i.chars, rest) := by
  have hplain : ∀ cs : List Char, cs ≠ [] → (∀ c ∈ cs, isNameChar c = true) →
      readItem (cs ++ rest) = some (String.ofList cs, rest) := by
    intro cs hne hc
    rw [← readName_append hne hc hr]
    cases cs with
    | nil => exact absurd rfl hne
    | cons c cs =>
      rw [List.cons_append, readItem]
      rintro _ h
      cases h
      cases hc '[' List.mem_cons_self
  match i with
  | name n => exact hplain _ n.chars_ne_nil fun c hc => n.isNameChar_of_mem hc
  | index false d =>
    exact hplain _ d.chars_ne_nil fun c hc => isNameChar_of_isDigit (d.isDigit_of_mem hc)
  | index true d =>
    have hd : ∀ c ∈ d.chars, decide (c ≠ ']') = true := by
      intro c hc
      simp only [decide_eq_true_eq]
      rintro rfl
      cases d.isDigit_of_mem hc
    show readItem ('[' :: ((d.chars ++ [']']) ++ rest)) = _
    rw [List.append_assoc, List.singleton_append, readItem, List.dropWhile_append_of_pos hd,
      List.takeWhile_append_of_pos hd, List.dropWhile_cons_of_neg (by simp),
      List.takeWhile_cons_of_neg (by simp), List.append_nil]
    rfl

theorem items_append_endsName (items : List PathItem) (hr : EndsName rest) :
    EndsName (items.flatMap dotted ++ rest) := by
  cases items with
  | nil => exact hr
  | cons i items => exact endsName_cons (by decide) _

/-- Further items are read as far as they go. -/
theorem readItems_dotted (items : List PathItem) (hr : EndsPath rest) {fuel : Nat}
    (hf : items.length ≤ fuel) :
    readItems fuel (items.flatMap dotted ++ rest) =
      (items.map fun i => String.ofList i.chars, rest) := by
  induction items generalizing fuel with
  | nil =>
    have hsep : readSeparator rest = none := by
      cases rest with
      | nil => rfl
      | cons c rest => exact readSeparator_cons (hr c rfl).2.1 (hr c rfl).2.2 rest
    cases fuel with
    | zero => rfl
    | succ fuel => rw [List.flatMap_nil, List.nil_append, readItems, hsep]; rfl
  | cons i items ih =>
    obtain ⟨fuel, rfl⟩ : ∃ k, fuel = k + 1 := ⟨fuel - 1, by simp at hf; omega⟩
    have hread : readItem (i.bare ++ (items.flatMap dotted ++ rest)) =
        some (String.ofList i.chars, items.flatMap dotted ++ rest) :=
      i.readItem_bare (items_append_endsName items hr.endsName)
    rw [List.flatMap_cons, List.append_assoc, dotted, List.cons_append, readItems]
    simp only [readSeparator, hread, ih (Nat.le_of_succ_le_succ hf), List.map_cons]

end PathItem

/-- A path: a name and further items. -/
structure PlainPath where
  head : PlainName
  items : List PathItem

namespace PlainPath

variable (p : PlainPath)

/-- A path as it is written. -/
def written : List Char := p.head.chars ++ p.items.flatMap PathItem.written

/-- A path as the language of templates has it. -/
def dotted : List Char := p.head.chars ++ p.items.flatMap PathItem.dotted

/-- The names of a path. -/
def names : List String := p.head.text :: p.items.map fun i => String.ofList i.chars

/-- The steps of a path. -/
def steps : List PathStep := .key p.head.text :: p.items.map PathItem.step

/-! #### The steps of a path as it is written -/

theorem not_mem_chars (i : PathItem) {c : Char} (h : isNameChar c = false) : c ∉ i.chars := by
  intro hm
  rw [i.isNameChar_of_mem hm] at h
  cases h

theorem not_mem_head {c : Char} (h : isNameChar c = false) : c ∉ p.head.chars := by
  intro hm
  rw [p.head.isNameChar_of_mem hm] at h
  cases h

/-- The characters of a path are those of names, dots and brackets, and none is white space. -/
theorem isPathChar_of_mem {c : Char} (h : c ∈ p.written) :
    isBlank c = false ∧ (isNameChar c = true ∨ c ∈ ['.', '[', ']']) := by
  have hdigit : ∀ d : Digits, c ∈ d.chars → isBlank c = false ∧ isNameChar c = true := fun d h =>
    ⟨not_isBlank_of_isDigit (d.isDigit_of_mem h), isNameChar_of_isDigit (d.isDigit_of_mem h)⟩
  rcases List.mem_append.1 h with h | h
  · exact ⟨p.head.not_isBlank_of_mem h, .inl (p.head.isNameChar_of_mem h)⟩
  · obtain ⟨i, -, h⟩ := List.mem_flatMap.1 h
    match i, h with
    | .name n, h =>
      rcases List.mem_cons.1 h with rfl | h
      · decide
      · exact ⟨n.not_isBlank_of_mem h, .inl (n.isNameChar_of_mem h)⟩
    | .index false d, h =>
      rcases List.mem_cons.1 h with rfl | h
      · decide
      · exact (hdigit d h).imp_right .inl
    | .index true d, h =>
      rcases List.mem_cons.1 h with rfl | h
      · decide
      · rcases List.mem_append.1 h with h | h
        · exact (hdigit d h).imp_right .inl
        · rw [List.mem_singleton.1 h]
          decide

theorem solid_written : Solid p.written := fun _ h => (p.isPathChar_of_mem h).1

/-- How a path begins. -/
theorem exists_written_eq_cons : ∃ c cs, p.written = c :: cs ∧ isNameChar c = true ∧
    isBlank c = false := by
  obtain ⟨c, cs, h, hn, hb, -⟩ := p.head.exists_cons
  exact ⟨c, cs ++ p.items.flatMap PathItem.written, by rw [written, h]; rfl, hn, hb⟩

/-- A path that begins with a keyword goes on with the name that the keyword begins. -/
theorem exists_of_after?_written {word : String} (hw : word ∈ keywords) {more : List Char}
    (h : after? word.toList p.written = some more) :
    ∃ c cs, more = c :: cs ∧ isNameChar c = true := by
  have hends : EndsName (p.items.flatMap PathItem.written) := by
    cases p.items with
    | nil => exact fun c hc => by cases hc
    | cons i items =>
      cases i with
      | name n => exact endsName_cons (by decide) _
      | index bracketed d => cases bracketed <;> exact endsName_cons (by decide) _
  obtain ⟨tail, htail, rfl⟩ :=
    exists_of_after?_name (fun c hc => (isNameChar_of_keyword word hw c hc).1) hends h
  cases tail with
  | nil =>
    rw [List.append_nil] at htail
    exact absurd htail (p.head.chars_ne_of_keyword hw)
  | cons c tail => exact ⟨c, _, rfl, p.head.isNameChar_of_mem (by simp [htail])⟩

/-- A path is no keyword. -/
theorem written_ne_keyword {word : String} (hw : word ∈ keywords) : p.written ≠ word.toList := by
  intro he
  obtain ⟨c, cs, hc, -⟩ := p.exists_of_after?_written hw (after?_eq_some.2 (by rw [he, List.append_nil]))
  cases hc

theorem scan_items (items : List PathItem) (held : List Char) :
    Path.scan false held (items.flatMap PathItem.written) =
      Path.stepOfName held ++ items.map PathItem.step := by
  induction items generalizing held with
  | nil => rw [List.flatMap_nil, Path.scan, List.map_nil, List.append_nil]
  | cons i items ih =>
    have hname : ∀ i : PathItem,
        Path.scan false held ('.' :: (i.chars ++ items.flatMap PathItem.written)) =
          Path.stepOfName held ++ .key (String.ofList i.chars) :: items.map PathItem.step := by
      intro i
      have hc : ∀ c ∈ i.chars, c ≠ '.' ∧ c ≠ '[' := fun c hc =>
        ⟨fun he => not_mem_chars i (by decide) (he ▸ hc),
          fun he => not_mem_chars i (by decide) (he ▸ hc)⟩
      rw [Path.scan, if_pos rfl, Path.scan_name hc, ih, List.append_nil,
        Path.stepOfName_reverse i.chars_ne_nil, List.singleton_append]
    rw [List.flatMap_cons, List.map_cons]
    cases i with
    | name n => exact hname (.name n)
    | index bracketed d =>
      cases bracketed with
      | false => exact hname (.index false d)
      | true =>
        have hc : ∀ c ∈ d.chars, c ≠ ']' := by
          rintro _ hc rfl
          cases d.isDigit_of_mem hc
        show Path.scan false held ('[' :: ((d.chars ++ [']']) ++ items.flatMap PathItem.written)) = _
        rw [List.append_assoc, List.singleton_append, Path.scan, if_neg (by decide), if_pos rfl,
          Path.scan_bracket hc, ih, List.append_nil, List.reverse_reverse]
        rfl

/-- The steps of a path are read as it is written. -/
theorem steps_written : Path.steps p.written = p.steps := by
  have hc : ∀ c ∈ p.head.chars, c ≠ '.' ∧ c ≠ '[' := fun c hc =>
    ⟨fun he => p.not_mem_head (by decide) (he ▸ hc), fun he => p.not_mem_head (by decide) (he ▸ hc)⟩
  rw [Path.steps, trim_of_solid p.solid_written, written, Path.scan_name hc, scan_items,
    List.append_nil, Path.stepOfName_reverse p.head.chars_ne_nil]
  rfl

theorem lookup_written (scope : Value) :
    Value.lookup scope p.written = Value.at? p.steps scope := by
  rw [Value.lookup, p.steps_written]
  rfl

/-! #### Dots before brackets -/

end PlainPath

theorem dotIndicesFrom_append (cs rest : List Char) :
    dotIndicesFrom cs.length (cs ++ rest) = dotIndices rest := by
  induction cs with
  | nil => rfl
  | cons c cs ih => exact ih

theorem dotIndices_append (h : '[' ∉ cs) (rest : List Char) :
    dotIndices (cs ++ rest) = cs ++ dotIndices rest := by
  induction cs with
  | nil => rfl
  | cons c cs ih =>
    rw [List.mem_cons, not_or] at h
    rw [List.cons_append, dotIndices, dotIndicesFrom, if_neg fun he => h.1 he.1.symm]
    exact congrArg (c :: ·) (ih h.2)

theorem dotIndices_bracket (d : Digits) (rest : List Char) :
    dotIndices ('[' :: (d.chars ++ ']' :: rest)) =
      '.' :: '[' :: (d.chars ++ ']' :: dotIndices rest) := by
  have ht : (d.chars ++ ']' :: rest).takeWhile isDecimalDigit = d.chars := by
    rw [List.takeWhile_append_of_pos fun c hc => isDecimalDigit_of_isDigit (d.isDigit_of_mem hc),
      List.takeWhile_cons_of_neg (by decide), List.append_nil]
  have hclose : ((d.chars ++ ']' :: rest).drop d.chars.length).head? = some ']' := by
    rw [List.drop_left]
    rfl
  have hskip : dotIndicesFrom (d.chars.length + 1) (d.chars ++ ']' :: rest) = dotIndices rest := by
    have := dotIndicesFrom_append (d.chars ++ [']']) rest
    rwa [List.length_append, List.append_assoc] at this
  rw [dotIndices, dotIndicesFrom, ht, if_pos ⟨rfl, d.chars_ne_nil, hclose⟩, hskip]

namespace PlainPath

variable (p : PlainPath)

theorem dotIndices_items (items : List PathItem) (rest : List Char) :
    dotIndices (items.flatMap PathItem.written ++ rest) =
      items.flatMap PathItem.dotted ++ dotIndices rest := by
  induction items with
  | nil => rfl
  | cons i items ih =>
    have hplain : ∀ cs : List Char, '[' ∉ cs → dotIndices (('.' :: cs) ++ (items.flatMap
        PathItem.written ++ rest)) = ('.' :: cs) ++ (items.flatMap PathItem.dotted ++ dotIndices rest) := by
      intro cs hcs
      rw [dotIndices_append (by simpa using hcs), ih]
    rw [List.flatMap_cons, List.flatMap_cons, List.append_assoc, List.append_assoc]
    match i with
    | .name n => exact hplain _ (not_mem_chars (.name n) (by decide))
    | .index false d => exact hplain _ (not_mem_chars (.index false d) (by decide))
    | .index true d =>
      show dotIndices ('[' :: ((d.chars ++ [']']) ++ _)) = '.' :: '[' :: ((d.chars ++ [']']) ++ _)
      rw [List.append_assoc, List.singleton_append, dotIndices_bracket, ih, List.append_assoc,
        List.singleton_append]

/-- A path gets its dots wherever it stands. -/
theorem dotIndices_written (rest : List Char) :
    dotIndices (p.written ++ rest) = p.dotted ++ dotIndices rest := by
  rw [written, List.append_assoc, dotIndices_append (p.not_mem_head (by decide)), dotIndices_items,
    dotted, List.append_assoc]

theorem dotIndices_path : dotIndices p.written = p.dotted := by
  have h := p.dotIndices_written []
  rwa [List.append_nil, show dotIndices [] = [] from rfl, List.append_nil] at h

/-- The parts of the reference to a path that is sought so many blocks outward. -/
def parts (k : Nat) : List RefPart := List.replicate k .up ++ p.names.map .named

/-! #### Reading a reference -/

/-- A path sought so many blocks outward. -/
def reached (k : Nat) : List Char := (List.replicate k "../".toList).flatten ++ p.dotted

theorem exists_dotted_eq_cons : ∃ c cs, p.dotted = c :: cs ∧ isNameChar c = true ∧
    isBlank c = false ∧ isDigit c = false ∧ c ≠ '-' := by
  obtain ⟨c, cs, h, hc⟩ := p.head.exists_cons
  exact ⟨c, cs ++ p.items.flatMap PathItem.dotted, by rw [dotted, h]; rfl, hc⟩

theorem reached_succ (k : Nat) : p.reached (k + 1) = '.' :: '.' :: '/' :: p.reached k := by
  rw [reached, List.replicate_succ, List.flatten_cons]
  rfl

theorem readUps_reached (k : Nat) (rest : List Char) {fuel : Nat} (hf : k ≤ fuel) :
    readUps fuel (p.reached k ++ rest) = (k, p.dotted ++ rest) := by
  induction k generalizing fuel with
  | zero =>
    obtain ⟨c, cs, h, hc, -⟩ := p.exists_dotted_eq_cons
    have hdot : c ≠ '.' := by
      rintro rfl
      cases hc
    cases fuel with
    | zero => rfl
    | succ fuel =>
      show readUps (fuel + 1) (p.dotted ++ rest) = _
      rw [h, List.cons_append, readUps]
      exact fun _ he => hdot (List.cons.inj he).1
  | succ k ih =>
    obtain ⟨fuel, rfl⟩ : ∃ m, fuel = m + 1 := ⟨fuel - 1, by omega⟩
    rw [p.reached_succ]
    simp only [List.cons_append, readUps, readSeparator, ih (Nat.le_of_succ_le_succ hf)]

theorem length_le_reached (k : Nat) : k ≤ (p.reached k).length := by
  induction k with
  | zero => exact Nat.zero_le _
  | succ k ih =>
    rw [reached_succ]
    simp only [List.length_cons]
    omega

/-- No path begins with the word for the place itself. -/
theorem place_reached (k : Nat) (hr : EndsPath rest) :
    mark? "./" (p.reached k ++ rest) = none ∧
      ∀ more, mark? "this" (p.reached k ++ rest) = some more → readSeparator more = none := by
  cases k with
  | succ k =>
    rw [p.reached_succ]
    exact ⟨rfl, nofun⟩
  | zero =>
    have hends := PathItem.items_append_endsName p.items hr.endsName
    have happ : p.reached 0 ++ rest =
        p.head.chars ++ (p.items.flatMap PathItem.dotted ++ rest) := by
      rw [← List.append_assoc]
      rfl
    rw [happ]
    constructor
    · obtain ⟨c, cs, h, hc, -⟩ := p.head.exists_cons
      have hdot : ¬ '.' = c := by
        rintro rfl
        cases hc
      rw [h, List.cons_append, mark?, show "./".toList = ['.', '/'] from rfl, after?, if_neg hdot]
    · intro more hm
      obtain ⟨tail, htail, rfl⟩ := exists_of_after?_name
        (fun c hc => (isNameChar_of_keyword "this" (by decide) c hc).1) hends hm
      cases tail with
      | nil =>
        rw [List.append_nil] at htail
        exact absurd htail (p.head.chars_ne_of_keyword (by decide))
      | cons c tail =>
        exact readSeparator_name (p.head.isNameChar_of_mem (by simp [htail])) _

theorem length_le_dotted (items : List PathItem) :
    items.length ≤ (items.flatMap PathItem.dotted).length := by
  induction items with
  | nil => exact Nat.le_refl _
  | cons i items ih =>
    simp only [List.flatMap_cons, List.length_append, List.length_cons, PathItem.dotted]
    omega

/-- No name of a path is the word for the place itself. -/
theorem names_filter : p.names.filter (· ≠ "this") = p.names := by
  refine List.filter_eq_self.2 fun name hn => ?_
  have hne : ∀ cs : List Char, cs ≠ "this".toList → decide (String.ofList cs ≠ "this") = true :=
    fun cs hne => decide_eq_true fun he => hne (by rw [← he, String.toList_ofList])
  rcases List.mem_cons.1 hn with rfl | hn
  · exact hne _ (p.head.chars_ne_of_keyword (by decide))
  · obtain ⟨i, -, rfl⟩ := List.mem_map.1 hn
    exact hne _ i.chars_ne_this

/-- A path is read as a reference to its names, from the block that it is sought from. -/
theorem readReference_reached (k : Nat) (hr : EndsPath rest) :
    readReference (p.reached k ++ rest) =
      some (.reference (p.parts k) (String.ofList (p.reached k)), rest) := by
  obtain ⟨hdot, hthis⟩ := p.place_reached k hr
  have hat : ∃ c cs, p.reached k ++ rest = c :: cs ∧ c ≠ '@' := by
    cases k with
    | zero =>
      obtain ⟨c, cs, h, hc, -⟩ := p.exists_dotted_eq_cons
      refine ⟨c, cs ++ rest, by rw [← List.cons_append, ← h]; rfl, ?_⟩
      rintro rfl
      cases hc
    | succ k => exact ⟨'.', _, by rw [p.reached_succ]; rfl, by decide⟩
  have hups : readUps (p.reached k ++ rest).length (p.reached k ++ rest) = (k, p.dotted ++ rest) :=
    p.readUps_reached k rest (by
      have := p.length_le_reached k
      rw [List.length_append]
      omega)
  have hitem : readItem (p.dotted ++ rest) =
      some (p.head.text, p.items.flatMap PathItem.dotted ++ rest) := by
    have := (PathItem.name p.head).readItem_bare
      (PathItem.items_append_endsName p.items hr.endsName)
    rwa [← List.append_assoc] at this
  have hitems : readItems (p.items.flatMap PathItem.dotted ++ rest).length
      (p.items.flatMap PathItem.dotted ++ rest) =
        (p.items.map fun i => String.ofList i.chars, rest) := by
    refine PathItem.readItems_dotted p.items hr ?_
    have := length_le_dotted p.items
    rw [List.length_append]
    omega
  have hwritten : (p.reached k ++ rest).take ((p.reached k ++ rest).length - rest.length) =
      p.reached k := by
    rw [List.length_append, Nat.add_sub_cancel, List.take_left]
  obtain ⟨c, cs, hcons, hc⟩ := hat
  have hroot : mark? "@root" (p.reached k ++ rest) = none := by
    rw [hcons, mark?, show "@root".toList = '@' :: "root".toList from rfl, after?,
      if_neg fun he => hc he.symm]
  have hown : ∀ more, p.reached k ++ rest ≠ '@' :: more := fun more he =>
    hc (List.cons.inj (hcons.symm.trans he)).1
  cases hm : mark? "this" (p.reached k ++ rest) with
  | none =>
    simp only [readReference, hm, hdot, Option.getD_none, hroot, Option.bind_none, hups, hitem,
      hitems, hwritten, List.nil_append]
    rw [show p.head.text :: p.items.map (fun i => String.ofList i.chars) = p.names from rfl,
      p.names_filter]
    rfl
  | some more =>
    simp only [readReference, hm, hthis more hm, Option.getD_none, hroot, Option.bind_none, hups,
      hitem, hitems, hwritten, List.nil_append]
    rw [show p.head.text :: p.items.map (fun i => String.ofList i.chars) = p.names from rfl,
      p.names_filter]
    rfl

end PlainPath

/-! ### Walking -/

namespace PathItem

/-- Whether an index in brackets meets a record with a field of its name. -/
def misled : PathItem → Value → Bool
  | index true d, .record fields => Fields.has fields (String.ofList d.chars)
  | _, _ => false

/-- Whether no index in brackets is misled on the way along some items. -/
def regular : List PathItem → Value → Bool
  | [], _ => true
  | i :: more, v => !i.misled v && (Value.step? i.step v).all (regular more)

theorem step_bracket (d : Digits) : (index true d).step =
    match naturalOf? d.chars with
    | some i => .index i
    | none => .key (String.ofList d.chars) := by
  have hsolid : Solid d.chars := fun c hc => not_isBlank_of_isDigit (d.isDigit_of_mem hc)
  have hquote : unquoteChars? d.chars = none := by
    rw [unquoteChars?, trim_of_solid hsolid]
    cases hd : d.chars with
    | nil => rfl
    | cons c cs =>
      have hc := d.isDigit_of_mem (show c ∈ d.chars by simp [hd])
      refine if_neg fun h => ?_
      rcases h.1 with rfl | rfl <;> cases hc
  rw [step, Path.stepOfBracket, trim_of_solid hsolid, hquote]
  rfl

/-- In a list, the step of an item leads where its number says. -/
theorem step?_list (i : PathItem) {j : Nat} (hj : naturalOf? i.chars = some j)
    (items : List Value) : Value.step? i.step (.list items) = items[j]? := by
  have hkey : Value.step? (.key (String.ofList i.chars)) (.list items) = items[j]? := by
    rw [Value.step?, String.toList_ofList, hj]
    rfl
  match i with
  | name n => exact hkey
  | index false d => exact hkey
  | index true d =>
    rw [step_bracket, show naturalOf? d.chars = some j from hj]
    rfl

/-- In a record, the step of an item that is not misled leads to the field of its name. -/
theorem step?_record {i : PathItem} {fields : Fields Value} (h : i.misled (.record fields) = false) :
    Value.step? i.step (.record fields) = Fields.get? fields (String.ofList i.chars) := by
  match i with
  | name n => rfl
  | index false d => rfl
  | index true d =>
    have hnone : Fields.get? fields (String.ofList d.chars) = none := by
      simpa [misled, Fields.has] using h
    rw [show (index true d).chars = d.chars from rfl, hnone, step_bracket]
    cases naturalOf? d.chars with
    | none => exact hnone
    | some j => rfl

/-- In what is neither a list nor a record there is nothing. -/
theorem step?_atom (i : PathItem) {v : Value} (hl : ∀ items, v ≠ .list items)
    (hr : ∀ fields, v ≠ .record fields) : Value.step? i.step v = none := by
  cases v with
  | list items => exact absurd rfl (hl items)
  | record fields => exact absurd rfl (hr fields)
  | null | bool | int | real | text => cases i.step <;> rfl

/-- Where no index in brackets is misled, names lead where the steps lead, unless the walk fails. -/
theorem walk_names (items : List PathItem) {v : Value} (h : regular items v = true) :
    walk (items.map fun i => String.ofList i.chars) v = none ∨
      walk (items.map fun i => String.ofList i.chars) v =
        some (Value.at? (items.map PathItem.step) v) := by
  induction items generalizing v with
  | nil => exact .inr rfl
  | cons i items ih =>
    rw [regular, Bool.and_eq_true, Bool.not_eq_true'] at h
    have hon : ∀ {w}, Value.step? i.step v = some w → _ := fun {w} hw => ih (v := w) (by
      have := h.2
      rwa [hw] at this)
    rw [List.map_cons, List.map_cons, Value.at?]
    cases v with
    | list vs =>
      rw [walk, String.toList_ofList]
      cases hj : naturalOf? i.chars with
      | none => exact .inl rfl
      | some j =>
        rw [i.step?_list hj] at hon ⊢
        dsimp only
        cases hv : vs[j]? with
        | none => exact .inr rfl
        | some w => exact hon hv
    | record fields =>
      rw [walk]
      rw [step?_record h.1] at hon ⊢
      cases hv : Fields.get? fields (String.ofList i.chars) with
      | none => exact .inr rfl
      | some w => exact hon hv
    | null | bool | int | real | text =>
      rw [i.step?_atom (fun _ he => by cases he) fun _ he => by cases he]
      exact .inr rfl

end PathItem

namespace PlainPath

variable (p : PlainPath)

/-- Whether no index in brackets of a path is misled. -/
def regular (scope : Value) : Bool :=
  (Value.step? (.key p.head.text) scope).all (PathItem.regular p.items)

/-- **Where no index in brackets is misled, the reading of templates leads where the reading of
values leads**, unless a list is asked for a name, which makes the template fail. -/
theorem walk_eq {scope : Value} (h : p.regular scope = true) :
    walk p.names scope = none ∨ walk p.names scope = some (Value.lookup scope p.written) := by
  rw [p.lookup_written]
  exact PathItem.walk_names (.name p.head :: p.items) (by
    rw [PathItem.regular, Bool.and_eq_true]
    exact ⟨rfl, h⟩)

theorem namesOf_named (names : List String) : namesOf (names.map .named) = names := by
  induction names with
  | nil => rfl
  | cons name names ih => exact congrArg (name :: ·) ih

theorem namesOf_parts (k : Nat) : namesOf (p.parts k) = p.names := by
  induction k with
  | zero => exact namesOf_named p.names
  | succ k ih => exact ih

/-- A path is sought from the frame so many blocks outward, as long as blocks give no names. -/
theorem resolve_parts (k : Nat) (scope : Value) {frames : List Frame}
    (hf : ∀ f ∈ frames, f.names = []) :
    resolve scope frames (p.parts k) =
      atFrame scope ((frames[k]?).getD (frames.headD .whole)) p.names := by
  have hups : ((p.parts k).takeWhile (· = .up)).length = k := by
    rw [parts, List.takeWhile_append_of_pos (by simp [List.mem_replicate]), names, List.map_cons,
      List.takeWhile_cons_of_neg (by simp), List.append_nil, List.length_replicate]
  have hdrop : (p.parts k).drop k =
      .named p.head.text :: (p.items.map fun i => String.ofList i.chars).map .named := by
    rw [parts, List.drop_append_of_le_length (by simp), List.drop_of_length_le (by simp)]
    rfl
  have hfind : ∀ name, findName frames name = none := by
    intro name
    refine List.findSome?_eq_none_iff.2 fun f hm => ?_
    rw [hf f hm]
    rfl
  have hframe : (if k = 0 then atFrame scope (frames.headD .whole) (namesOf (p.parts k)) else
      atFrame scope ((frames[k]?).getD (frames.headD .whole)) (namesOf (p.parts k))) =
        atFrame scope ((frames[k]?).getD (frames.headD .whole)) p.names := by
    rw [p.namesOf_parts]
    cases k with
    | zero => cases frames <;> rfl
    | succ k => rfl
  rw [← hframe, Template.resolve]
  · simp only [hups, hdrop, hfind]
    rfl
  all_goals
    intro more he
    cases k with
    | zero => cases he
    | succ k => cases he

end PlainPath

end Dialogue.Template
