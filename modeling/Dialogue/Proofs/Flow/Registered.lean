import Mathlib.Data.Set.Defs
import Mathlib.Data.List.Induction
import Dialogue.Flow.Registry
import Dialogue.Proofs.Text.Joined
import Dialogue.Proofs.Value.Fields

/-!
# What a registry holds

A registry is meant to be a map from tenants and ids to flows. It keeps the flows under one text each,
tenant, slash, id, and the names may hold slashes themselves.

* `Registry.register_eq_ok`: a flow that is registered was built, and its check has found no defects.
* `Registry.refines_changed`: a registry holds what is meant to be held, as long as no two pairs of
  tenants and ids have the same key.
* `Registry.Lawful`: what holds of every registry, kept by offers and removals.
* `Registry.isMapOn_iff`: on some pairs a registry is a map exactly when no two of them overlap.
-/

namespace Dialogue

namespace Registry

/-- The registry after a flow was offered to it: it stays as it is when the flow has defects. -/
def offer (r : Registry) (f : Flow) : Registry :=
  match r.register f with
  | .ok (_, r') => r'
  | .error _ => r

theorem register_eq_ok {r r' : Registry} {f : Flow} {report : Report}
    (h : r.register f = .ok (report, r')) :
    report = f.build.check ∧ f.build.check.isValid = true ∧ r' = r.put f.build := by
  unfold register at h
  dsimp only at h
  split at h
  · rename_i hv
    cases h
    exact ⟨rfl, hv, rfl⟩
  · cases h

/-- A flow without defects is registered as it was built. -/
theorem register_of_isValid {f : Flow} (h : f.build.check.isValid = true) (r : Registry) :
    r.register f = .ok (f.build.check, r.put f.build) := by
  unfold register
  dsimp only
  rw [if_pos h]

/-- An offer adds nothing but the flow as it was built, when it has no defects. -/
theorem mem_offer {r : Registry} {f : Flow} {entry : String × Flow} (h : entry ∈ r.offer f) :
    entry ∈ r ∨ f.build.check.isValid = true ∧ entry = (f.key, f.build) := by
  unfold offer at h
  cases hr : r.register f with
  | error _ =>
    rw [hr] at h
    exact .inl h
  | ok found =>
    obtain ⟨report, r'⟩ := found
    obtain ⟨-, hv, rfl⟩ := register_eq_ok hr
    rw [hr] at h
    rcases Fields.mem_insert h with rfl | hm
    · exact .inr ⟨hv, rfl⟩
    · exact .inl hm

/-- Each flow was built before it was registered. -/
def Built (r : Registry) : Prop := ∀ entry ∈ r, entry.2.build = entry.2

namespace Built

variable {r : Registry}

theorem offer (h : r.Built) (f : Flow) : (r.offer f).Built := by
  intro entry hm
  rcases mem_offer hm with hm | ⟨-, rfl⟩
  · exact h entry hm
  · rfl

theorem remove (h : r.Built) (tenant id : String) : (r.remove tenant id).Built :=
  fun entry hm => h entry (List.mem_filter.1 hm).1

theorem of_flow? (h : r.Built) {tenant id : String} {f : Flow} (hf : r.flow? tenant id = some f) :
    f.build = f :=
  h _ (Fields.mem_of_get? hf)

theorem of_select (h : r.Built) {tenant text : String} {f : Flow}
    (hf : r.select tenant text = some f) : f.build = f := by
  have hm := (List.mem_filter.1 (best?_mem hf)).1
  rw [ofTenant, List.mem_mergeSort] at hm
  obtain ⟨entry, he, rfl⟩ := List.mem_map.1 (List.mem_filter.1 hm).1
  exact h entry he

end Built

end Registry

/-! ### Changes -/

/-- The tenant and the id of a flow. -/
def Flow.pair (f : Flow) : String × String := (f.tenant, f.id)

namespace Registry

/-- What happens to a registry: a flow is offered to it or removed. -/
inductive Change where
  | register (f : Flow)
  | remove (tenant id : String)

namespace Change

/-- The tenant and the id that a change is about. -/
def pair : Change → String × String
  | register f => f.pair
  | remove tenant id => (tenant, id)

/-- Whether a change settles what is held under a pair: a flow with defects does not. -/
def settles (p : String × String) : Change → Bool
  | register f => f.pair == p && f.build.check.isValid
  | remove tenant id => (tenant, id) == p

/-- What is held after a change that settles it. -/
def flow? : Change → Option Flow
  | register f => some f.build
  | remove _ _ => none

theorem settles_of_ne {ch : Change} {p : String × String} (h : ch.pair ≠ p) :
    ch.settles p = false := by
  cases ch with
  | register f =>
    have hb : (f.pair == p) = false := beq_false_of_ne h
    simp [settles, hb]
  | remove tenant id => exact beq_false_of_ne h

end Change

/-- The registry after a change. -/
def change (r : Registry) : Change → Registry
  | .register f => r.offer f
  | .remove tenant id => r.remove tenant id

/-- The registry after changes to an empty one. -/
def changed (changes : List Change) : Registry := changes.foldl change []

theorem changed_append (changes : List Change) (ch : Change) :
    changed (changes ++ [ch]) = (changed changes).change ch := by
  simp [changed]

/-- The flow that is meant to be held under a pair: the last change that settles it counts. -/
def held (changes : List Change) (p : String × String) : Option Flow :=
  (changes.reverse.find? (·.settles p)).bind Change.flow?

theorem held_append (changes : List Change) (ch : Change) (p : String × String) :
    held (changes ++ [ch]) p = if ch.settles p then ch.flow? else held changes p := by
  rw [held, List.reverse_append, List.reverse_singleton, List.singleton_append, List.find?_cons]
  cases ch.settles p <;> rfl

theorem change_of_error {r : Registry} {f : Flow} {fault : FlowFault}
    (h : r.register f = .error fault) : r.change (.register f) = r := by
  rw [change, offer, h]

theorem offer_eq (r : Registry) (f : Flow) :
    r.offer f = if f.build.check.isValid then r.put f.build else r := by
  unfold offer
  split
  · rename_i found hr
    obtain ⟨-, hv, rfl⟩ := register_eq_ok hr
    rw [if_pos hv]
  · rename_i fault hr
    refine (if_neg fun hv => ?_).symm
    rw [register_of_isValid hv] at hr
    cases hr

/-! ### Refinement -/

/-- A registry holds, in order, what is meant to be held under some pairs, and nothing else. -/
structure Refines (S : Set (String × String)) (r : Registry)
    (meant : String × String → Option Flow) : Prop where
  found : ∀ p ∈ S, r.flow? p.1 p.2 = meant p
  placed : ∀ entry ∈ r, entry.1 = entry.2.key ∧ entry.2.pair ∈ S
  sorted : Fields.Sorted r
  own : ∀ p f, meant p = some f → f.pair = p ∧ p ∈ S

/-- Different pairs among some have different keys. -/
def Apart (S : Set (String × String)) : Prop :=
  ∀ p ∈ S, ∀ q ∈ S, Flow.keyOf p.1 p.2 = Flow.keyOf q.1 q.2 → p = q

variable {S : Set (String × String)} {r : Registry} {meant : String × String → Option Flow}

theorem refines_empty (S : Set (String × String)) : Refines S [] fun _ => none :=
  ⟨fun _ _ => rfl, fun _ h => absurd h List.not_mem_nil, .nil, fun _ _ => nofun⟩

theorem Refines.put (hS : Apart S) (h : Refines S r meant) {f : Flow} (hf : f.pair ∈ S) :
    Refines S (r.put f) fun p => if f.pair = p then some f else meant p := by
  refine ⟨fun p hp => ?_, fun entry hm => ?_, Fields.sorted_insert _ _ h.sorted, fun p g hg => ?_⟩
  · split
    · rename_i he
      subst he
      exact r.get?_put f
    · rename_i he
      rw [← h.found p hp]
      exact Fields.get?_insert_of_ne (fun hk => he (hS f.pair hf p hp hk.symm)) _ _
  · rcases Fields.mem_insert hm with rfl | hm
    · exact ⟨rfl, hf⟩
    · exact h.placed entry hm
  · split at hg
    · rename_i he
      cases hg
      exact ⟨he, he ▸ hf⟩
    · exact h.own p g hg

theorem Refines.remove (hS : Apart S) (h : Refines S r meant) {tenant id : String}
    (hp : (tenant, id) ∈ S) :
    Refines S (r.remove tenant id) fun p => if (tenant, id) = p then none else meant p := by
  refine ⟨fun p hp' => ?_, fun entry hm => h.placed entry (List.mem_filter.1 hm).1,
    h.sorted.filter _, fun p g hg => ?_⟩
  · split
    · rename_i he
      subst he
      exact Fields.get?_erase_self _ _
    · rename_i he
      rw [← h.found p hp']
      exact Fields.get?_erase_of_ne (fun hk => he (hS (tenant, id) hp p hp' hk.symm)) _
  · split at hg
    · cases hg
    · exact h.own p g hg

/-- A registry that holds what is meant to be held does so after a change. -/
theorem Refines.change (hS : Apart S) (h : Refines S r meant) {ch : Change} (hp : ch.pair ∈ S) :
    Refines S (r.change ch) fun p => if ch.settles p then ch.flow? else meant p := by
  cases ch with
  | register f =>
    rw [Registry.change, offer_eq]
    cases hv : f.build.check.isValid with
    | true =>
      have hput : Refines S (r.put f.build) fun p => if f.pair = p then some f.build else meant p :=
        h.put hS hp
      simpa [Change.settles, Change.flow?, hv] using hput
    | false => simpa [Change.settles, hv] using h
  | remove tenant id =>
    rw [Registry.change]
    simpa [Change.settles, Change.flow?] using h.remove hS hp

/-- On pairs with different keys a registry holds what is meant to be held, after any changes. -/
theorem refines_changed (hS : Apart S) {changes : List Change}
    (hc : ∀ ch ∈ changes, ch.pair ∈ S) : Refines S (changed changes) (held changes) := by
  induction changes using List.reverseRecOn with
  | nil => exact refines_empty S
  | append_singleton changes ch ih =>
    have hbefore := ih fun ch' hm => hc ch' (List.mem_append_left _ hm)
    have hafter := hbefore.change hS (hc ch (List.mem_append_right _ (List.mem_singleton_self ch)))
    rw [changed_append]
    simpa only [← held_append] using hafter

theorem mem_ofTenant {tenant : String} {f : Flow} :
    f ∈ r.ofTenant tenant ↔ f.tenant = tenant ∧ ∃ key, (key, f) ∈ r := by
  rw [ofTenant, List.mem_mergeSort, List.mem_filter, List.mem_map, and_comm, beq_iff_eq]
  refine and_congr_right fun _ => ⟨?_, ?_⟩
  · rintro ⟨⟨key, _⟩, hm, rfl⟩
    exact ⟨key, hm⟩
  · rintro ⟨key, hm⟩
    exact ⟨_, hm, rfl⟩

/-- The flows that are listed for a tenant are those that are meant to be held for it. -/
theorem Refines.mem_ofTenant (h : Refines S r meant) {tenant : String} {f : Flow} :
    f ∈ r.ofTenant tenant ↔ f.tenant = tenant ∧ meant f.pair = some f := by
  rw [Registry.mem_ofTenant]
  refine and_congr_right fun _ => ⟨?_, fun hc => ?_⟩
  · rintro ⟨key, hm⟩
    obtain ⟨hk, hp⟩ := h.placed _ hm
    obtain rfl : key = f.key := hk
    rw [← h.found _ hp]
    exact h.sorted.get?_of_mem hm
  · rw [← h.found _ (h.own _ _ hc).2] at hc
    exact ⟨_, Fields.mem_of_get? hc⟩

/-! ### Laws of registries -/

/-- The flows of a registry have no defects, and each stands under its own key. -/
structure Lawful (r : Registry) : Prop where
  sorted : Fields.Sorted r
  valid : ∀ entry ∈ r, entry.2.check.isValid = true
  placed : ∀ entry ∈ r, entry.2.key = entry.1

theorem lawful_empty : Lawful [] :=
  ⟨.nil, fun _ h => absurd h List.not_mem_nil, fun _ h => absurd h List.not_mem_nil⟩

namespace Lawful

theorem offer (h : r.Lawful) (f : Flow) : (r.offer f).Lawful := by
  refine ⟨?_, fun entry hm => ?_, fun entry hm => ?_⟩
  · rw [offer_eq]
    split
    · exact Fields.sorted_insert _ _ h.sorted
    · exact h.sorted
  · rcases mem_offer hm with hm | ⟨hv, rfl⟩
    · exact h.valid entry hm
    · exact hv
  · rcases mem_offer hm with hm | ⟨-, rfl⟩
    · exact h.placed entry hm
    · rfl

theorem remove (h : r.Lawful) (tenant id : String) : (r.remove tenant id).Lawful :=
  ⟨h.sorted.filter _, fun entry hm => h.valid entry (List.mem_filter.1 hm).1,
    fun entry hm => h.placed entry (List.mem_filter.1 hm).1⟩

/-- A flow that is found has no defects. -/
theorem isValid_of_flow? (h : r.Lawful) {tenant id : String} {f : Flow}
    (hf : r.flow? tenant id = some f) : f.check.isValid = true :=
  h.valid _ (Fields.mem_of_get? hf)

/-- A flow is found under its own key only. -/
theorem key_of_flow? (h : r.Lawful) {tenant id : String} {f : Flow}
    (hf : r.flow? tenant id = some f) : f.key = Flow.keyOf tenant id :=
  h.placed _ (Fields.mem_of_get? hf)

/-- A flow that a text sets off is found under its id. -/
theorem flow?_of_select (h : r.Lawful) {tenant text : String} {f : Flow}
    (hf : r.select tenant text = some f) : r.flow? tenant f.id = some f := by
  have hm := (List.mem_filter.1 (best?_mem hf)).1
  obtain ⟨rfl, key, hentry⟩ := mem_ofTenant.1 hm
  obtain rfl : f.key = key := h.placed _ hentry
  exact h.sorted.get?_of_mem hentry

end Lawful

/-! ### Maps -/

/-- What it takes for a registry to be a map on some pairs of tenants and ids: under each of them it
finds what was accepted last and not removed since, it lists this and nothing else, what it refuses
changes nothing, and a change under one pair is not seen under another. What a removal reports is
whether something is found. -/
structure IsMapOn (S : Set (String × String)) : Prop where
  found : ∀ changes : List Change, (∀ ch ∈ changes, ch.pair ∈ S) → ∀ tenant id, (tenant, id) ∈ S →
    (changed changes).flow? tenant id = held changes (tenant, id)
  listed : ∀ changes : List Change, (∀ ch ∈ changes, ch.pair ∈ S) → ∀ tenant f,
    f ∈ (changed changes).ofTenant tenant ↔ f.tenant = tenant ∧ held changes f.pair = some f
  refuses : ∀ (r : Registry) f fault, r.register f = .error fault → r.change (.register f) = r
  spares : ∀ changes : List Change, (∀ ch ∈ changes, ch.pair ∈ S) → ∀ ch : Change, ch.pair ∈ S →
    ∀ tenant id, (tenant, id) ∈ S → ch.pair ≠ (tenant, id) →
      ((changed changes).change ch).flow? tenant id = (changed changes).flow? tenant id ∧
        ∀ f : Flow, f.pair = (tenant, id) →
          (f ∈ ((changed changes).change ch).ofTenant tenant ↔
            f ∈ (changed changes).ofTenant tenant)

/-- On pairs with different keys a registry is a map. -/
theorem isMapOn_of_apart (hS : Apart S) : IsMapOn S := by
  refine ⟨fun changes hc tenant id hp => (refines_changed hS hc).found (tenant, id) hp,
    fun changes hc tenant f => (refines_changed hS hc).mem_ofTenant,
    fun r f fault => change_of_error, fun changes hc ch hch tenant id hp hne => ?_⟩
  have hbefore := refines_changed hS hc
  have hafter := hbefore.change hS hch
  have hsame := Change.settles_of_ne hne
  refine ⟨?_, fun f hf => ?_⟩
  · rw [hafter.found (tenant, id) hp, hbefore.found (tenant, id) hp, hsame]
    rfl
  · rw [hafter.mem_ofTenant, hbefore.mem_ofTenant, hf, hsame]
    rfl

/-- A flow of a tenant that says hello. -/
def greeting (tenant id : String) : Flow :=
  { Flow.new tenant id "Saludo" "hola" with nodes := [.of "hola" (.message ⟨false⟩)] }

/-- The check does not look at whose the flow is and what it is called. -/
theorem isValid_greeting (tenant id : String) : (greeting tenant id).build.check.isValid = true := by
  have h : (greeting "" "").build.check.isValid = true := by decide +kernel
  exact h

/-- A flow without defects is found under every pair with its key, whatever its own pair is. -/
theorem flow?_changed_of_key {f : Flow} (hv : f.build.check.isValid = true) {tenant id : String}
    (hk : f.key = Flow.keyOf tenant id) :
    (changed [.register f]).flow? tenant id = some f.build := by
  show (Registry.offer [] f).flow? tenant id = _
  rw [offer_eq, if_pos hv, flow?, ← hk]
  exact get?_put [] f.build

/-- No registry is a map on two pairs with the same key. -/
theorem not_isMapOn {p q : String × String} (hp : p ∈ S) (hq : q ∈ S) (hne : p ≠ q)
    (hk : Flow.keyOf p.1 p.2 = Flow.keyOf q.1 q.2) : ¬IsMapOn S := by
  intro h
  obtain ⟨f, hf, hv⟩ : ∃ f : Flow, f.pair = p ∧ f.build.check.isValid = true :=
    ⟨greeting p.1 p.2, rfl, isValid_greeting p.1 p.2⟩
  subst hf
  have hfound := h.found [.register f] (by simpa [Change.pair] using hp) q.1 q.2 hq
  have hnone : held [.register f] q = none := by
    have hsettles : Change.settles q (.register f) = false := Change.settles_of_ne hne
    rw [show [Change.register f] = [] ++ [Change.register f] from rfl, held_append, hsettles]
    rfl
  cases (flow?_changed_of_key hv hk).symm.trans (hfound.trans hnone)

/-- **On some pairs of tenants and ids a registry is a map exactly when no two of them overlap.** -/
theorem isMapOn_iff (S : Set (String × String)) :
    IsMapOn S ↔ ∀ p ∈ S, ∀ q ∈ S, ¬Text.Overlap "/" p.1 p.2 q.1 q.2 := by
  constructor
  · intro h p hp q hq ho
    refine not_isMapOn hp hq (fun he => ho.ne (c := '/') rfl (congrArg Prod.fst he)) ?_ h
    exact (Text.joined_eq_joined_iff (c := '/') rfl).2 (.inr ho)
  · intro h
    refine isMapOn_of_apart fun p hp q hq hk => ?_
    rcases (Text.joined_eq_joined_iff (c := '/') rfl).1 hk with ⟨ht, hi⟩ | ho
    · exact Prod.ext ht hi
    · exact absurd ho (h p hp q hq)

/-- The flow `a/b` of `acme` is found as the flow `b` of `acme/a`, and removed as such. -/
theorem not_isMapOn_of_slash :
    let r := changed [.register (greeting "acme" "a/b")]
    r.flow? "acme/a" "b" = some (greeting "acme" "a/b").build ∧
      (r.change (.remove "acme/a" "b")).flow? "acme" "a/b" = none ∧ ¬IsMapOn Set.univ := by
  intro r
  refine ⟨flow?_changed_of_key (isValid_greeting _ _) rfl, Fields.get?_erase_self _ _, ?_⟩
  exact not_isMapOn (p := ("acme", "a/b")) (q := ("acme/a", "b")) trivial trivial (by decide)
    (by decide)

end Registry

end Dialogue
