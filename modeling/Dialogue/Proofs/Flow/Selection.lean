import Dialogue.Proofs.Flow.Registered

/-!
# The flow that a text sets off

Several flows of a tenant may be set off by the same text. The one of highest priority is selected,
of those the one with the least id. This is settled by which flows the registry holds for the tenant,
and not by the order in which it holds them or by what it holds for others.

* `Registry.Reached.lawful`: every registry that there can be is lawful.
* `Registry.preferred_of_select`: the flow that is selected precedes all others that compete.
* `Registry.select_preferred`: what is selected, for every registry that there can be.
-/

namespace Dialogue

/-- Whether a flow is preferred to another one: its priority is higher, or the priorities are the same
and its id is less. -/
def Flow.Precedes (f g : Flow) : Prop :=
  g.triggers.priority < f.triggers.priority ∨
    g.triggers.priority = f.triggers.priority ∧ f.id < g.id

theorem Flow.Precedes.asymm {f g : Flow} (h : f.Precedes g) : ¬g.Precedes f := by
  rintro (hp | ⟨hp, hi⟩)
  · rcases h with h | ⟨h, -⟩ <;> omega
  · rcases h with h | ⟨-, h⟩
    · omega
    · exact String.lt_asymm h hi

namespace Registry

variable {r : Registry} {tenant text : String} {f g : Flow}

/-! ### The best of several candidates -/

theorem best?_concat (candidates : List Flow) (f : Flow) :
    best? (candidates ++ [f]) =
      match best? candidates with
      | some b => if f.triggers.priority ≤ b.triggers.priority then some b else some f
      | none => some f := by
  rw [best?, List.foldl_append]
  rfl

theorem best?_eq_none {candidates : List Flow} : best? candidates = none ↔ candidates = [] := by
  rcases List.eq_nil_or_concat candidates with rfl | ⟨before, f, rfl⟩
  · exact iff_of_true rfl rfl
  · refine iff_of_false ?_ (by simp)
    rw [List.concat_eq_append, best?_concat]
    cases best? before with
    | none => exact Option.some_ne_none f
    | some b =>
      dsimp only
      split <;> exact Option.some_ne_none _

/-- The best candidate has a higher priority than those before it, and none after it has a higher
one. -/
theorem split_of_best? {candidates : List Flow} (h : best? candidates = some f) :
    ∃ before after, candidates = before ++ f :: after ∧
      (∀ g ∈ before, g.triggers.priority < f.triggers.priority) ∧
        ∀ g ∈ after, g.triggers.priority ≤ f.triggers.priority := by
  have hnil : ∀ {p : Flow → Prop}, ∀ g ∈ ([] : List Flow), p g :=
    fun g hg => absurd hg List.not_mem_nil
  induction candidates using List.reverseRecOn generalizing f with
  | nil => cases h
  | append_singleton candidates last ih =>
    rw [best?_concat] at h
    cases hb : best? candidates with
    | none =>
      rw [hb] at h
      cases h
      obtain rfl := best?_eq_none.1 hb
      exact ⟨[], [], rfl, hnil, hnil⟩
    | some b =>
      obtain ⟨before, after, rfl, hbefore, hafter⟩ := ih hb
      rw [hb] at h
      dsimp only at h
      split at h
      · rename_i hle
        cases h
        refine ⟨before, after ++ [last], by simp, hbefore, fun g hg => ?_⟩
        rcases List.mem_append.1 hg with hg | hg
        · exact hafter g hg
        · rwa [List.mem_singleton.1 hg]
      · rename_i hlt
        cases h
        refine ⟨before ++ b :: after, [], rfl, fun g hg => ?_, hnil⟩
        -- the last candidate outdoes the best one before it, and with it all the others
        rcases List.mem_append.1 hg with hg | hg
        · have := hbefore g hg
          omega
        · rcases List.mem_cons.1 hg with rfl | hg
          · omega
          · have := hafter g hg
            omega

/-! ### Registries that there can be -/

namespace Lawful

theorem change (h : r.Lawful) (ch : Change) : (r.change ch).Lawful := by
  cases ch with
  | register f => exact h.offer f
  | remove tenant id => exact h.remove tenant id

/-- Files are offered one after the other. -/
theorem loadFiles (h : r.Lawful) (files : Fields String) : (r.loadFiles files).2.Lawful := by
  unfold Registry.loadFiles
  refine List.foldlRecOn (motive := fun loaded : Nat × Registry => loaded.2.Lawful) files _ h
    fun loaded hl file _ => ?_
  dsimp only
  split
  · exact hl
  · split
    · exact hl
    · rename_i f _
      have hf := hl.offer f
      rw [Registry.offer] at hf
      cases hr : loaded.2.register f with
      | error _ => exact hl
      | ok found => rwa [hr] at hf

/-- Of a tenant a registry holds one flow under an id. -/
theorem eq_of_id (h : r.Lawful) {key key' : String} (hf : (key, f) ∈ r) (hg : (key', g) ∈ r)
    (ht : f.tenant = g.tenant) (hi : f.id = g.id) : f = g := by
  obtain rfl : f.key = key := h.placed _ hf
  obtain rfl : g.key = key' := h.placed _ hg
  have hkey : f.key = g.key := by rw [Flow.key, Flow.key, ht, hi]
  have hget : Fields.get? r g.key = some f := hkey ▸ h.sorted.get?_of_mem hf
  exact Option.some.inj (hget.symm.trans (h.sorted.get?_of_mem hg))

end Lawful

/-- The registries that there can be: the empty one, and what changes and files make of one. -/
inductive Reached : Registry → Prop where
  | empty : Reached []
  | change {r : Registry} (ch : Change) : Reached r → Reached (r.change ch)
  | load {r : Registry} (files : Fields String) : Reached r → Reached (r.loadFiles files).2

theorem reached_changed (changes : List Change) : Reached (changed changes) := by
  induction changes using List.reverseRecOn with
  | nil => exact .empty
  | append_singleton changes ch ih => exact changed_append changes ch ▸ ih.change ch

theorem Reached.lawful (h : r.Reached) : r.Lawful := by
  induction h with
  | empty => exact lawful_empty
  | change ch _ ih => exact ih.change ch
  | load files _ ih => exact ih.loadFiles files

/-! ### Selection -/

/-- Whether a flow stands somewhere in a registry. -/
def Holds (r : Registry) (f : Flow) : Prop := ∃ key, (key, f) ∈ r

/-- Whether a registry holds a flow of a tenant that is active and set off by a text. -/
def Competes (r : Registry) (tenant text : String) (f : Flow) : Prop :=
  r.Holds f ∧ f.tenant = tenant ∧ f.active = true ∧
    f.triggers.matchText (Text.normalize text) = true

/-- Whether a flow competes and precedes all others that do. -/
def Preferred (r : Registry) (tenant text : String) (f : Flow) : Prop :=
  r.Competes tenant text f ∧ ∀ g, r.Competes tenant text g → g ≠ f → f.Precedes g

theorem Preferred.unique (hf : r.Preferred tenant text f) (hg : r.Preferred tenant text g) :
    f = g :=
  Decidable.byContradiction fun hne =>
    (hf.2 g hg.1 (Ne.symm hne)).asymm (hg.2 f hf.1 hne)

/-- The flows that compete for a text, in the order of their ids. -/
def candidates (r : Registry) (tenant text : String) : List Flow :=
  (r.ofTenant tenant).filter fun f => f.active && f.triggers.matchText (Text.normalize text)

theorem select_eq (r : Registry) (tenant text : String) :
    r.select tenant text = best? (r.candidates tenant text) := rfl

theorem mem_candidates : f ∈ r.candidates tenant text ↔ r.Competes tenant text f := by
  rw [candidates, List.mem_filter, mem_ofTenant, Bool.and_eq_true, Competes, Holds]
  tauto

theorem pairwise_candidates (r : Registry) (tenant text : String) :
    (r.candidates tenant text).Pairwise (fun f g => f.id ≤ g.id) := by
  have hsorted : (r.ofTenant tenant).Pairwise (fun f g => f.id ≤ g.id) := by
    have h : (r.ofTenant tenant).Pairwise (fun f g => decide (f.id ≤ g.id) = true) :=
      List.pairwise_mergeSort
        (fun a b c hab hbc => by
          simpa using String.le_trans (by simpa using hab) (by simpa using hbc))
        (fun a b => by simpa using String.le_total a.id b.id) _
    exact h.imp of_decide_eq_true
  exact hsorted.filter _

/-- Nothing is selected exactly when no flow competes. -/
theorem select_eq_none : r.select tenant text = none ↔ ∀ f, ¬r.Competes tenant text f := by
  rw [select_eq, best?_eq_none, List.eq_nil_iff_forall_not_mem]
  exact forall_congr' fun f => not_congr mem_candidates

/-- The flow that is selected precedes all others that compete, when ids tell these apart. -/
theorem preferred_of_select
    (hid : ∀ f g, r.Competes tenant text f → r.Competes tenant text g → f.id = g.id → f = g)
    (h : r.select tenant text = some f) : r.Preferred tenant text f := by
  have hf : r.Competes tenant text f := mem_candidates.1 (best?_mem h)
  refine ⟨hf, fun g hg hne => ?_⟩
  obtain ⟨before, after, hc, hbefore, hafter⟩ := split_of_best? h
  have hg' : g ∈ before ++ f :: after := hc ▸ mem_candidates.2 hg
  have hsorted := pairwise_candidates r tenant text
  rw [show r.candidates tenant text = _ from hc, List.pairwise_append, List.pairwise_cons] at hsorted
  rcases List.mem_append.1 hg' with hm | hm
  · exact .inl (hbefore g hm)
  · have hm : g ∈ after := (List.mem_cons.1 hm).resolve_left hne
    rcases Int.lt_or_eq_of_le (hafter g hm) with hlt | heq
    · exact .inl hlt
    · refine .inr ⟨heq, Decidable.byContradiction fun hlt => hne (hid g f hg hf ?_)⟩
      exact String.le_antisymm (String.not_lt.1 hlt) (hsorted.2.1.1 g hm)

theorem select_eq_some
    (hid : ∀ f g, r.Competes tenant text f → r.Competes tenant text g → f.id = g.id → f = g) :
    r.select tenant text = some f ↔ r.Preferred tenant text f := by
  refine ⟨preferred_of_select hid, fun h => ?_⟩
  cases hs : r.select tenant text with
  | none => exact absurd h.1 (select_eq_none.1 hs f)
  | some g => rw [(preferred_of_select hid hs).unique h]

/-- **Of the flows that compete the one that precedes all others is selected, and none exactly when
none competes; it makes no difference in which order the flows of the tenant stand, and which flows
of others stand between them.** -/
theorem select_preferred (h : r.Reached) (tenant text : String) :
    (∀ f, r.select tenant text = some f ↔ r.Preferred tenant text f) ∧
      (r.select tenant text = none ↔ ∀ f, ¬r.Competes tenant text f) ∧
        ∀ r' : Registry, (∀ f : Flow, f.tenant = tenant → (r'.Holds f ↔ r.Holds f)) →
          r'.select tenant text = r.select tenant text := by
  have hid : ∀ f g, r.Competes tenant text f → r.Competes tenant text g → f.id = g.id →
      f = g := by
    rintro f g ⟨⟨_, hf⟩, hft, -⟩ ⟨⟨_, hg⟩, hgt, -⟩ hi
    exact h.lawful.eq_of_id hf hg (hft.trans hgt.symm) hi
  refine ⟨fun f => select_eq_some hid, select_eq_none, fun r' hr => ?_⟩
  have hcompetes : r'.Competes tenant text = r.Competes tenant text :=
    funext fun f => propext (and_congr_left fun hf => hr f hf.1)
  have hpreferred : r'.Preferred tenant text = r.Preferred tenant text :=
    funext fun f => by rw [Preferred, Preferred, hcompetes]
  refine Option.ext fun f => ?_
  rw [select_eq_some hid, select_eq_some (hcompetes ▸ hid), hpreferred]

/-- A flow on books. -/
def bookFlow (tenant id : String) (priority : Int) : Flow :=
  (greeting tenant id).withKeywords ["libro"] priority

/-- Two flows on books of `acme` with the same priority, and one of another tenant with a higher one. -/
def books : Registry :=
  changed [.register (bookFlow "acme" "b_books" 1), .register (bookFlow "acme" "a_books" 1),
    .register (bookFlow "other" "x" 100)]

theorem select_books :
    books.select "acme" "Quiero un LIBRO!" = some (bookFlow "acme" "a_books" 1).build := by
  have hflows : (books.map (·.2)).filter (·.tenant == "acme") =
      [(bookFlow "acme" "a_books" 1).build, (bookFlow "acme" "b_books" 1).build] := by
    decide +kernel
  have hlisted : books.ofTenant "acme" = _ := congrArg (List.mergeSort · _) hflows
  rw [List.mergeSort_of_pairwise (by decide +kernel)] at hlisted
  rw [select_eq, candidates, hlisted]
  decide +kernel

/-- The flow of `acme` with the lesser id is preferred, also when the registry is gone through from its
end. -/
theorem select_preferred_of_books :
    books.Reached ∧
      books.Preferred "acme" "Quiero un LIBRO!" (bookFlow "acme" "a_books" 1).build ∧
        Registry.select books.reverse "acme" "Quiero un LIBRO!" =
          some (bookFlow "acme" "a_books" 1).build := by
  have hreached : books.Reached := reached_changed _
  obtain ⟨hsome, -, hsame⟩ := select_preferred hreached "acme" "Quiero un LIBRO!"
  have hholds : ∀ f, Holds books.reverse f ↔ books.Holds f := fun f => by simp [Holds]
  refine ⟨hreached, (hsome _).1 select_books, ?_⟩
  rw [hsame books.reverse fun f _ => hholds f, select_books]

end Registry

end Dialogue
