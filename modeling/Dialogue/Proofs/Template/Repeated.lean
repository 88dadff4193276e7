import Dialogue.Proofs.Template.Nesting
import Dialogue.Proofs.Value.Legs

/-!
# Names in repeated blocks

What a template of repeated blocks shows, told along the template: a block shows its body once for
each item, and a token shows what its path leads to from the item of the innermost block, or from the
whole scope when it was pointed outward. Where it is pointed was decided while the template was
prepared, from what the path of the block leads to in the whole scope and not from the item.

* `Value.isNamed`: values whose items can be told apart by their names.
* `Markup.told`: what a template shows.
* `Markup.renderText_written`: a template shows what is told of it, and each name is sought on the
  item or in the whole scope, for all items of a block alike.
-/

namespace Dialogue

namespace Value

mutual

/-- Whether every part of a value is found under its name: no list is longer than there are indices
of 64 bits, and no record has a name twice. -/
def isNamed : Value → Bool
  | list items => decide (items.length ≤ twoTo 64) && areNamed items
  | record fields => decide (fields.map (·.1)).Nodup && fieldsNamed fields
  | _ => true

/-- Whether that holds of every item. -/
def areNamed : List Value → Bool
  | [] => true
  | item :: more => isNamed item && areNamed more

/-- Whether that holds of every field. -/
def fieldsNamed : List (String × Value) → Bool
  | [] => true
  | (_, value) :: more => isNamed value && fieldsNamed more

end

theorem isNamed_of_mem {items : List Value} {v : Value} (h : areNamed items = true)
    (hv : v ∈ items) : v.isNamed = true := by
  induction items with
  | nil => cases hv
  | cons item items ih =>
    simp only [areNamed, Bool.and_eq_true] at h
    rcases List.mem_cons.1 hv with rfl | hv
    · exact h.1
    · exact ih h.2 hv

theorem isNamed_of_mem_fields {fields : List (String × Value)} {name : String} {v : Value}
    (h : fieldsNamed fields = true) (hv : (name, v) ∈ fields) : v.isNamed = true := by
  induction fields with
  | nil => cases hv
  | cons field fields ih =>
    simp only [fieldsNamed, Bool.and_eq_true] at h
    rcases List.mem_cons.1 hv with rfl | hv
    · exact h.1
    · exact ih h.2 hv

/-- The items of what a block repeats over. -/
def entries : Value → List Value
  | list items => items
  | record fields => fields.map (·.2)
  | _ => []

end Value

/-- An index is read from its digits. -/
theorem naturalOf?_toString {i : Nat} (h : i < twoTo 64) :
    naturalOf? (toString i).toList = some i := by
  have hdigits : (toString i).toList = digitsOf i := by
    rw [digitsOf, show toString i = String.ofList (Nat.toDigits 10 i) from rfl, String.toList_ofList]
  rw [hdigits, naturalOf?_digitsOf h]

end Dialogue

namespace Dialogue.Template

open Text

variable {scope here : Value} {lists : List Value} {frames : List Frame}

/-! ### Places -/

/-- Where a path leads anywhere, its first name leads to a part of the value. -/
theorem exists_walk_cons {name : String} {more : List String} {v w : Value}
    (h : walk (name :: more) v = some (some w)) :
    ∃ u, (∀ path, walk (name :: path) v = walk path u) ∧ (v.isNamed = true → u.isNamed = true) := by
  cases v with
  | list items =>
    rw [walk] at h
    cases hi : naturalOf? name.toList with
    | none => rw [hi] at h; cases h
    | some i =>
      rw [hi] at h
      dsimp only at h
      cases hu : items[i]? with
      | none => rw [hu] at h; cases h
      | some u =>
        refine ⟨u, fun path => ?_, fun hn => ?_⟩
        · rw [walk, hi]
          dsimp only
          rw [hu]
        · rw [Value.isNamed, Bool.and_eq_true] at hn
          exact Value.isNamed_of_mem hn.2 (List.mem_of_getElem? hu)
  | record fields =>
    rw [walk] at h
    cases hu : Fields.get? fields name with
    | none => rw [hu] at h; cases h
    | some u =>
      refine ⟨u, fun path => ?_, fun hn => ?_⟩
      · rw [walk, hu]
      · rw [Value.isNamed, Bool.and_eq_true] at hn
        exact Value.isNamed_of_mem_fields hn.2 (Fields.mem_of_get? hu)
  | null | bool | int | real | text => cases h

/-- A path goes on from where its first part leads. -/
theorem walk_append {path : List String} {v w : Value} (h : walk path v = some (some w))
    (names : List String) : walk (path ++ names) v = walk names w := by
  induction path generalizing v with
  | nil =>
    cases h
    rfl
  | cons name path ih =>
    obtain ⟨u, hu, -⟩ := exists_walk_cons h
    rw [List.cons_append, hu]
    exact ih (hu path ▸ h)

theorem isNamed_of_walk {path : List String} {v w : Value} (hn : v.isNamed = true)
    (h : walk path v = some (some w)) : w.isNamed = true := by
  induction path generalizing v with
  | nil =>
    cases h
    exact hn
  | cons name path ih =>
    obtain ⟨u, hu, hnamed⟩ := exists_walk_cons h
    exact ih (hnamed hn) (hu path ▸ h)

/-! ### Frames -/

/-- Frames of repeated blocks, so many of them, around an item: each is a place, and the last one is
that of the whole scope. -/
structure Stands (scope : Value) (depth : Nat) (here : Value) (frames : List Frame) : Prop where
  nameless : ∀ f ∈ frames, f.names = []
  outermost : frames[depth]? = some .whole
  innermost : ∃ f more, frames = f :: more ∧ f.value = none ∧ walk f.path scope = some (some here)

theorem stands_whole (scope : Value) : Stands scope 0 scope [.whole] :=
  ⟨nameless_whole, rfl, _, _, rfl, rfl, rfl⟩

namespace Stands

variable {depth : Nat} (h : Stands scope depth here frames)

include h

/-- Names are sought from the item. -/
theorem atFrame_here (names : List String) :
    ∃ path, walk path scope = some (some here) ∧
      atFrame scope ((frames[0]?).getD (frames.headD .whole)) names =
        atPath scope (path ++ names) := by
  obtain ⟨f, more, rfl, hv, hw⟩ := h.innermost
  exact ⟨f.path, hw, by rw [List.getElem?_cons_zero, Option.getD_some, atFrame, hv]⟩

/-- One block more stands around an item of what is at a place. -/
theorem cons {path : List String} {v item : Value} (hv : walk path scope = some (some v))
    {name : String} (hi : walk [name] v = some (some item)) (own : Fields Value) :
    Stands scope (depth + 1) item (⟨path ++ [name], none, own, []⟩ :: frames) where
  nameless := List.forall_mem_cons.2 ⟨rfl, h.nameless⟩
  outermost := h.outermost
  innermost := ⟨_, _, rfl, rfl, (walk_append hv [name]).trans hi⟩

/-- What is done at the frames of items may be done for the items instead. -/
theorem mapM_frames {path : List String} {v : Value} (hv : walk path scope = some (some v))
    {f : Frame → Option (List Char)} {g : Value → Option (List Char)}
    (hfg : ∀ frame item, Stands scope (depth + 1) item (frame :: frames) → f frame = g item)
    {α : Type} {l : List α} {frame : α → Frame} {item : α → Value}
    (hl : ∀ x ∈ l, ∃ name own, frame x = ⟨path ++ [name], none, own, []⟩ ∧
      walk [name] v = some (some (item x))) : (l.map frame).mapM f = (l.map item).mapM g := by
  induction l with
  | nil => rfl
  | cons x l ih =>
    obtain ⟨name, own, hframe, hwalk⟩ := hl x List.mem_cons_self
    have hx : f (frame x) = g (item x) := by
      rw [hframe]
      exact hfg _ _ (h.cons hv hwalk own)
    rw [List.map_cons, List.map_cons, List.mapM_cons, List.mapM_cons, hx,
      ih fun y hy => hl y (List.mem_cons_of_mem x hy)]

/-- The frames of a repeated block stand for its items. -/
theorem mapM_itemFrames (hn : scope.isNamed = true) {path : List String} {v : Value}
    (hv : walk path scope = some (some v)) {f : Frame → Option (List Char)}
    {g : Value → Option (List Char)}
    (hfg : ∀ frame item, Stands scope (depth + 1) item (frame :: frames) → f frame = g item) :
    ((itemFrames (.place v path) [] false).getD []).mapM f = v.entries.mapM g := by
  have hnamed := isNamed_of_walk hn hv
  cases v with
  | list items =>
    rw [Value.isNamed, Bool.and_eq_true] at hnamed
    have hlen : items.length ≤ twoTo 64 := of_decide_eq_true hnamed.1
    have hitems : itemFrames (.place (.list items) path) [] false = some (items.zipIdx.map fun x =>
        itemFrame (.place (.list items) path) [] items.length x.2 none x.1) :=
      if_neg (by rw [Bool.and_false]; exact Bool.false_ne_true)
    have hentries : (Value.list items).entries = items.zipIdx.map fun x => x.1 :=
      (List.zipIdx_map_fst 0 items).symm
    rw [hitems, Option.getD_some, hentries]
    refine h.mapM_frames hv hfg fun x hx => ⟨toString x.2, _, rfl, ?_⟩
    -- an index that is not read back would be no name of an item
    have hx := List.mk_mem_zipIdx_iff_getElem?.1 hx
    have hi : x.2 < items.length := (List.getElem?_eq_some_iff.1 hx).1
    rw [walk, naturalOf?_toString (Nat.lt_of_lt_of_le hi hlen)]
    dsimp only
    rw [hx]
    rfl
  | record fields =>
    rw [Value.isNamed, Bool.and_eq_true] at hnamed
    have hdistinct : (fields.map (·.1)).Nodup := of_decide_eq_true hnamed.1
    have hitems : itemFrames (.place (.record fields) path) [] false =
        some (fields.zipIdx.map fun x =>
          itemFrame (.place (.record fields) path) [] fields.length x.2 (some x.1.1) x.1.2) :=
      if_neg (by rw [Bool.and_false]; exact Bool.false_ne_true)
    have hentries : (Value.record fields).entries = fields.zipIdx.map fun x => x.1.2 := by
      calc fields.map (·.2) = (fields.zipIdx.map Prod.fst).map (·.2) := by rw [List.zipIdx_map_fst]
        _ = fields.zipIdx.map fun x => x.1.2 := List.map_map
    rw [hitems, Option.getD_some, hentries]
    refine h.mapM_frames hv hfg fun x hx => ⟨x.1.1, _, rfl, ?_⟩
    have hx := List.mem_of_getElem? (List.mk_mem_zipIdx_iff_getElem?.1 hx)
    rw [walk, Fields.get?_of_mem hdistinct hx]
    rfl
  | null | bool | int | real | text => rfl

end Stands

/-! ### What elements show -/

theorem render_cons (scope : Value) (frames : List Frame) (e : Element) (more : List Element) :
    render scope frames (e :: more) = (renderElement scope frames e).bind fun text =>
      (render scope frames more).map (text ++ ·) := by
  rw [render]
  cases renderElement scope frames e with
  | none => rfl
  | some text => cases render scope frames more <;> rfl

theorem render_append (scope : Value) (frames : List Frame) (front back : List Element) :
    render scope frames (front ++ back) = (render scope frames front).bind fun text =>
      (render scope frames back).map (text ++ ·) := by
  induction front with
  | nil => cases h : render scope frames back <;> simp [h]
  | cons e front ih =>
    rw [List.cons_append, render_cons, render_cons, ih]
    cases renderElement scope frames e with
    | none => rfl
    | some text =>
      cases render scope frames front with
      | none => rfl
      | some more => cases render scope frames back <;> simp

/-- The elements of a text show the text. -/
theorem Leaves.render_eq {text thin : List Char} {elements : List Element}
    (h : Leaves text thin elements) : render scope frames elements = some thin := by
  rcases h.elements with rfl | ⟨rfl, rfl⟩
  · rw [render_cons, renderElement, render_nil, Option.bind_some, Option.map_some, List.append_nil]
  · exact render_nil scope frames

namespace Markup

/-- What the path of a token leads to, beside an item of the innermost block. -/
def sought (scope : Value) (lists : List Value) (here : Value) (p : PlainPath) :
    Option (Option Value) :=
  walk p.names (if outward scope lists p = 0 then here else scope)

/-- What a template shows beside an item of the innermost block, within blocks that were taken to
repeat over these lists. -/
def told (scope : Value) : (lists : List Value) → (here : Value) → Markup → Option (List Char)
  | _, _, nil => some []
  | lists, here, token before _ p more =>
    (sought scope lists here p).bind fun value =>
      (told scope lists here more).map fun text => before ++ (shown (value.getD .null) ++ text)
  | lists, here, each before _ p body last _ more =>
    (walk p.names here).bind fun list =>
      ((list.getD .null).entries.mapM fun item =>
        (told scope (soughtList scope p :: lists) item body).map (· ++ last)).bind fun texts =>
          (told scope lists here more).map fun text => before ++ (texts.flatten ++ text)

end Markup

namespace Stands

/-- A token shows what its path leads to from the item or from the whole scope. -/
theorem showExpression_path (h : Stands scope lists.length here frames) (p : PlainPath) :
    showExpression scope frames (pathExpression p (outward scope lists p)) =
      (Markup.sought scope lists here p).map fun value => shown (value.getD .null) := by
  have hshown : ∀ path, (atPath scope path).map (fun f => shown f.get) =
      (walk path scope).map fun value => shown (value.getD .null) := by
    intro path
    have := congrArg (Option.map shown) (get_atPath scope path)
    rwa [Option.map_map, Option.map_map] at this
  rw [p.showExpression_path h.nameless, Markup.sought]
  by_cases hk : outward scope lists p = 0
  · obtain ⟨path, hw, hframe⟩ := h.atFrame_here p.names
    rw [if_pos hk, hk, hframe, hshown, walk_append hw]
  · have hk' : outward scope lists p = lists.length := by
      unfold outward at hk ⊢
      split
      · rename_i hc
        exact absurd (if_pos hc) hk
      · rfl
    rw [if_neg hk, hk', h.outermost]
    exact hshown p.names

/-- A repeated block shows its body for each item of what its path leads to. -/
theorem renderElement_each {depth : Nat} (h : Stands scope depth here frames)
    (hn : scope.isNamed = true) (p : PlainPath) {body : List Element}
    {g : Value → Option (List Char)}
    (hg : ∀ frame item, Stands scope (depth + 1) item (frame :: frames) →
      render scope (frame :: frames) body = g item) :
    renderElement scope frames (.block (eachExpression p) body none) =
      (walk p.names here).bind fun list =>
        ((list.getD .null).entries.mapM g).map List.flatten := by
  obtain ⟨path, hw, hframe⟩ := h.atFrame_here p.names
  have hfound : expand scope frames (p.reference 0) = atPath scope (path ++ p.names) := by
    rw [p.expand_reference h.nameless, hframe]
  rw [renderElement, eachExpression]
  simp only [headName, expandAll, expandOptions, hfound, Option.bind_eq_bind, Option.bind_some]
  rw [atPath, walk_append hw]
  cases hlist : walk p.names here with
  | none => rfl
  | some list =>
    cases list with
    | none => rfl
    | some v =>
      have hitems := h.mapM_itemFrames hn ((walk_append hw p.names).trans hlist) hg
      simp only [Option.map_some, Option.bind_some, Option.getD_some,
        show Helper.ofName? "each" = some (.showing .each) from rfl, List.getElem?_cons_zero,
        Option.isSome_none, ← hitems]
      cases itemFrames (.place v (path ++ p.names)) [] false with
      | none => rfl
      | some items => exact Option.map_eq_bind.symm

end Stands

/-! ### What templates show -/

namespace Markup

/-- The elements of a template show what is told of it. -/
theorem Parses.render_eq (hn : scope.isNamed = true) {m left : Markup} {elements : List Element}
    (h : Parses scope lists m left elements) (hs : Stands scope lists.length here frames) :
    render scope frames elements = left.told scope lists here := by
  induction h generalizing here frames with
  | nil => exact render_nil scope frames
  | token text others ih =>
    rw [render_append, text.render_eq, Option.bind_some, render_cons, renderElement,
      hs.showExpression_path, ih hs, told]
    cases sought scope _ here _ with
    | none => rfl
    | some value => cases told scope _ here _ <;> rfl
  | @each lists _ _ _ end_ _ _ p _ inner _ left _ within tail _ text _ ending _ ihItems ihMore =>
    -- the body is told beside each item, what follows the block beside the item around it
    have hblock : renderElement scope frames (.block (eachExpression p) (within ++ tail) none) =
        (walk p.names here).bind fun list => ((list.getD .null).entries.mapM fun item =>
          (told scope (soughtList scope p :: lists) item inner).map (· ++ end_)).map List.flatten :=
      hs.renderElement_each hn p fun frame item hitem => by
        rw [render_append, ihItems hitem, ending.render_eq]
        cases told scope (soughtList scope p :: lists) item inner <;> rfl
    rw [render_append, text.render_eq, Option.bind_some, render_cons, hblock, ihMore hs, told]
    cases walk p.names here with
    | none => rfl
    | some list =>
      rw [Option.bind_some, Option.bind_some, Option.bind_map]
      cases (list.getD .null).entries.mapM fun item =>
          (told scope (soughtList scope p :: lists) item inner).map (· ++ end_) with
      | none => rfl
      | some texts => cases told scope lists here left <;> rfl

/-- Where a template is well formed, it shows what is told of it, with white space beside tags
dropped. -/
theorem evaluate?_written (hn : scope.isNamed = true) (m : Markup) (hm : m.isFair = true)
    {last : List Char} (hl : hasOpenMark last = false) :
    ∃ left thin, m.Trims left ∧ Thins last thin ∧
      evaluate? scope (m.written ++ last) = (left.told scope [] scope).map (· ++ thin) := by
  obtain ⟨left, elements, thin, tail, hparses, hleaves, hparse⟩ := m.parse_prepared scope hm hl
  refine ⟨left, thin, hparses.trims, hleaves.thins, ?_⟩
  rw [evaluate?, m.prepare_written hm hl, hparse, Option.bind_some, render_append,
    hparses.render_eq hn (stands_whole scope), hleaves.render_eq]
  cases left.told scope [] scope <;> rfl

/-! ### Where names are sought -/

theorem walk_name (n : PlainName) {v : Value} (hv : ∀ items, v ≠ .list items) :
    walk [n.text] v = some (v.field? n.text) := by
  cases v with
  | list items => exact absurd rfl (hv items)
  | record fields =>
    rw [walk, Value.field?]
    cases Fields.get? fields n.text <;> rfl
  | null | bool | int | real | text => rfl

theorem lookup_name (n : PlainName) (v : Value) :
    Value.lookup v (PlainPath.mk n []).written = v.field? n.text := by
  rw [PlainPath.lookup_written]
  show (Value.step? (.key n.text) v).bind some = v.field? n.text
  rw [Option.bind_fun_some]
  cases v with
  | list items =>
    rw [Value.step?, PlainName.text, String.toList_ofList, n.naturalOf?_chars]
    rfl
  | null | bool | int | real | text | record => rfl

theorem outward_name (lists : List Value) (n : PlainName) : outward scope lists ⟨n, []⟩ = 0 ↔
    lists.head?.all (itemHas n.text) = true ∨ scope.field? n.text = none := by
  rw [outward, lookup_name]
  cases lists with
  | nil => exact ⟨fun _ => .inl rfl, fun _ => ite_self _⟩
  | cons list lists =>
    show (if itemHas n.text list = true ∨ (scope.field? n.text).isNone = true then 0
      else lists.length + 1) = 0 ↔ itemHas n.text list = true ∨ scope.field? n.text = none
    rw [← Option.isNone_iff_eq_none]
    by_cases h : itemHas n.text list = true ∨ (scope.field? n.text).isNone = true
    · rw [if_pos h]
      exact ⟨fun _ => h, fun _ => rfl⟩
    · rw [if_neg h]
      exact ⟨fun he => absurd he (Nat.succ_ne_zero _), fun he => absurd he h⟩

/-- A name is sought on the item where some item of what the block was taken to repeat over has it, and
in the whole scope first otherwise. -/
theorem sought_name (lists : List Value) (n : PlainName) (hi : ∀ items, here ≠ .list items) :
    sought scope lists here ⟨n, []⟩ =
      some (if lists.head?.all (itemHas n.text) = true then here.field? n.text
        else (scope.field? n.text).or (here.field? n.text)) := by
  have hnames : (PlainPath.mk n []).names = [n.text] := rfl
  rw [sought, hnames]
  by_cases hall : lists.head?.all (itemHas n.text) = true
  · rw [if_pos ((outward_name lists n).2 (.inl hall)), if_pos hall, walk_name n hi]
  · rw [if_neg hall]
    cases hf : scope.field? n.text with
    | none => rw [if_pos ((outward_name lists n).2 (.inr hf)), walk_name n hi, Option.none_or]
    | some value =>
      have hrecord : ∀ items, scope ≠ .list items := by
        rintro items rfl
        cases hf
      have hout : outward scope lists ⟨n, []⟩ ≠ 0 := fun he => by
        rcases (outward_name lists n).1 he with h | h
        · exact hall h
        · rw [hf] at h; cases h
      rw [if_neg hout, walk_name n hrecord, hf, Option.some_or]

theorem itemHas_of_mem {name : String} {list item value : Value} (hm : item ∈ list.entries)
    (hf : item.field? name = some value) : itemHas name list = true := by
  cases list with
  | list items => exact List.any_eq_true.2 ⟨item, hm, by rw [hf]; rfl⟩
  | record fields =>
    obtain ⟨entry, he, rfl⟩ := List.mem_map.1 hm
    exact List.any_eq_true.2 ⟨entry, he, show (entry.2.field? name).isSome = true by rw [hf]; rfl⟩
  | null | bool | int | real | text => cases hm

/-- An item of what the block was taken to repeat over shows its own field. -/
theorem sought_of_mem {list item value : Value} (lists : List Value) (n : PlainName)
    (hm : item ∈ list.entries) (hf : item.field? n.text = some value) :
    sought scope (list :: lists) item ⟨n, []⟩ = some (some value) := by
  have hrecord : ∀ items, item ≠ .list items := by
    rintro items rfl
    cases hf
  have hall : (list :: lists).head?.all (itemHas n.text) = true := itemHas_of_mem hm hf
  rw [sought_name _ n hrecord, if_pos hall, hf]

/-- Well formed or not, a template shows what is told of it, or else has its tokens replaced one by
one. -/
theorem exists_renderText (hn : scope.isNamed = true) (m : Markup) (hm : m.isFair = true)
    {last : List Char} (hl : hasOpenMark last = false) :
    ∃ left thin, m.Trims left ∧ Thins last thin ∧
      renderText scope (m.written ++ last) =
        sanitize (((left.told scope [] scope).map (· ++ thin)).getD
          (substitute scope (m.written ++ last))) := by
  cases hopen : hasOpenMark (m.written ++ last) with
  | true =>
    obtain ⟨left, thin, htrims, hthin, heval⟩ := evaluate?_written hn m hm hl
    exact ⟨left, thin, htrims, hthin, by rw [renderText, if_pos hopen, heval]⟩
  | false =>
    -- without a tag there is only the last text, and it is left as it is
    cases m with
    | nil =>
      refine ⟨.nil, last, .nil, thins_self last, ?_⟩
      show renderText scope last = sanitize last
      rw [renderText_of_plain scope hl, sanitize, hl, if_neg Bool.false_ne_true]
    | token before margins p more =>
      rw [written, List.append_assoc, List.append_assoc,
        hasOpenMark_append _ (hasOpenMark_token _ _)] at hopen
      cases hopen
    | each before opening p body end_ closing more =>
      rw [written, List.append_assoc, List.append_assoc,
        hasOpenMark_append _ (hasOpenMark_token _ _)] at hopen
      cases hopen

/-- **A template of repeated blocks shows its texts, apart from white space beside tags, its bodies
for each item of what their paths lead to, and its names as they are sought.** A name is sought on the
item when some item of what the path of the innermost block leads to in the whole scope has it, so an
item that is among those shows its own field; in other blocks a name of the whole scope hides that of
the item. Where a list is asked for a name, tokens are replaced one by one. -/
theorem renderText_written (hn : scope.isNamed = true) (m : Markup) (hm : m.isFair = true)
    {last : List Char} (hl : hasOpenMark last = false) :
    (∃ left thin, m.Trims left ∧ Thins last thin ∧
      renderText scope (m.written ++ last) =
        sanitize (((left.told scope [] scope).map (· ++ thin)).getD
          (substitute scope (m.written ++ last)))) ∧
    (∀ (lists : List Value) (item : Value) (n : PlainName), (∀ items, item ≠ .list items) →
      sought scope lists item ⟨n, []⟩ =
        some (if lists.head?.all (itemHas n.text) = true then item.field? n.text
          else (scope.field? n.text).or (item.field? n.text))) ∧
    ∀ (p : PlainPath) (lists : List Value) (item value : Value) (n : PlainName),
      item ∈ (soughtList scope p).entries → item.field? n.text = some value →
        sought scope (soughtList scope p :: lists) item ⟨n, []⟩ = some (some value) := by
  refine ⟨exists_renderText hn m hm hl, ?_, ?_⟩
  · intro lists item n hi
    exact sought_name lists n hi
  · intro p lists item value n hmem hf
    exact sought_of_mem lists n hmem hf

/-- A path of one name. -/
def single (name : String) (h : isPlainName name.toList = true) : PlainPath :=
  ⟨⟨name.toList, h⟩, []⟩

/-- The names of all orders of all clients. -/
def orderNames : Markup :=
  let bare : Margins := ⟨⟨[], List.all_nil⟩, ⟨[], List.all_nil⟩⟩
  .each [] bare (single "clients" rfl)
    (.each [] bare (single "orders" rfl) (.token [] bare (single "name" rfl) .nil) []
      bare .nil) [] bare .nil

/-- An order with a name of its own, below a name of the whole scope. -/
def namedOrder : Value :=
  .record [("clients", .list [.record [("orders", .list [.record [("name", .text "Y")]])]]),
    ("name", .text "X")]

theorem renderText_orderNames :
    namedOrder.isNamed = true ∧ orderNames.isFair = true ∧ hasOpenMark [] = false ∧
    ∃ left thin, orderNames.Trims left ∧ Thins [] thin ∧
      renderText namedOrder (orderNames.written ++ []) =
        sanitize (((left.told namedOrder [] namedOrder).map (· ++ thin)).getD
          (substitute namedOrder (orderNames.written ++ []))) :=
  have hn : namedOrder.isNamed = true := by decide +kernel
  have hm : orderNames.isFair = true := by decide +kernel
  ⟨hn, hm, rfl, (renderText_written hn orderNames hm rfl).1⟩

/-- The name of the whole scope is shown in the place of the name that an order has: the whole scope
has no `orders`, so no order is looked at before the name is pointed outward. -/
theorem renderTemplate_orderNames :
    orderNames.written = Template.token "#each clients".toList ++
      (Template.token "#each orders".toList ++ (Template.token "name".toList ++
        (Template.token "/each".toList ++ Template.token "/each".toList))) ∧
    walk ["clients", "0", "orders", "0", "name"] namedOrder = some (some (.text "Y")) ∧
    renderTemplate namedOrder (String.ofList orderNames.written) = "X" := by
  refine ⟨by decide +kernel, by decide +kernel, ?_⟩
  have hn : namedOrder.isNamed = true := by decide +kernel
  have hm : orderNames.isFair = true := by decide +kernel
  obtain ⟨left, thin, htrims, hthin, heval⟩ := evaluate?_written hn orderNames hm
    (show hasOpenMark [] = false from rfl)
  have hleft : left = orderNames := by
    cases htrims with
    | each text within ending others =>
      cases within with
      | each inner names close last =>
        cases names with
        | token before more =>
          cases more
          cases last
          cases others
          cases thins_nil text
          cases thins_nil ending
          cases thins_nil inner
          cases thins_nil close
          cases thins_nil before
          rfl
  have htold : orderNames.told namedOrder [] namedOrder = some ['X'] := by decide +kernel
  have hopen : hasOpenMark (orderNames.written ++ []) = true := by decide +kernel
  rw [hleft, htold, thins_nil hthin] at heval
  rw [renderTemplate, String.toList_ofList, ← List.append_nil orderNames.written, renderText,
    if_pos hopen, heval]
  decide +kernel

end Markup

end Dialogue.Template
