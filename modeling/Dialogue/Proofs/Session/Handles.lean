import Dialogue.Proofs.Value.Fields
import Dialogue.Session.Locks
import Mathlib.Data.List.Nodup

/-!
# Handles to locks

A handle holds on to its lock whatever becomes of the table: were a lock forgotten too early, the next
one to ask would get a handle to another lock and not wait. What prevents this is the count. In the
table each lock counts the handles to it, so that a lock is in use while a single one is out, whether
or not its owner has come to queue yet.

* `Lock.Counts.lock_ne`: a lock that is not in use has no handle but the one of the table.
* `Locks.Serves`: every handle is to the lock that the table has under its key, and the locks of the
  table count their handles. Every operation keeps this.
* `Locks.Serves.length_guards_le`: a key has at most one guard.
-/

namespace Dialogue

/-- A handle to the lock of a key, with the number of that lock. -/
structure Handle where
  key : String
  who : Nat
  lock : Nat
  deriving DecidableEq, Repr

variable {hs hs' : List Handle} {h : Handle} {l : Lock} {n : Nat} {key : String}

/-- Without a handle the ones to other locks are the same. -/
theorem Handle.filter_erase_of_ne (hn : h.lock ≠ n) (hs : List Handle) :
    (hs.erase h).filter (·.lock == n) = hs.filter (·.lock == n) := by
  induction hs with
  | nil => rfl
  | cons g hs ih =>
    by_cases hg : g = h
    · subst hg
      rw [List.erase_cons_head, List.filter_cons_of_neg (by simpa using hn)]
    · rw [List.erase_cons_tail (by simpa using hg), List.filter_cons, List.filter_cons, ih]

/-! ### Counts -/

namespace Lock

/-- A lock counts the handles to it, one more for the table; nobody queues without one, or twice. -/
structure Counts (l : Lock) (n : Nat) (hs : List Handle) : Prop where
  handles : l.handles = hs.countP (·.lock == n) + 1
  nodup : l.queue.Nodup
  queue : ∀ who ∈ l.queue, ∃ h ∈ hs, h.lock = n ∧ h.who = who

namespace Counts

theorem new (hn : ∀ h ∈ hs, h.lock ≠ n) : Lock.new.Counts n hs := by
  have hzero : hs.countP (·.lock == n) = 0 :=
    List.countP_eq_zero.2 fun h hm => by simpa using hn h hm
  exact ⟨by rw [hzero]; rfl, .nil, nofun⟩

/-- Only the handles to a lock matter to it. -/
theorem of_filter_eq (hc : l.Counts n hs)
    (hf : hs'.filter (·.lock == n) = hs.filter (·.lock == n)) : l.Counts n hs' := by
  refine ⟨?_, hc.nodup, fun who hw => ?_⟩
  · rw [hc.handles, List.countP_eq_length_filter, List.countP_eq_length_filter, hf]
  · obtain ⟨h, hm, hn, rfl⟩ := hc.queue who hw
    have hm' : h ∈ hs'.filter (·.lock == n) := hf ▸ List.mem_filter.2 ⟨hm, by simpa using hn⟩
    exact ⟨h, (List.mem_filter.1 hm').1, hn, rfl⟩

theorem enter (hc : l.Counts n hs) (hm : h ∈ hs) (hn : h.lock = n) :
    (l.enter h.who).Counts n hs := by
  unfold Lock.enter
  split
  · exact hc
  · rename_i hnew
    refine ⟨hc.handles, List.nodup_append.2 ⟨hc.nodup, List.nodup_singleton _, ?_⟩, fun who hw => ?_⟩
    · intro a ha b hb he
      exact hnew (List.mem_singleton.1 hb ▸ he ▸ ha)
    rcases List.mem_append.1 hw with hw | hw
    · exact hc.queue who hw
    · exact ⟨h, hm, hn, (List.mem_singleton.1 hw).symm⟩

theorem attempt (hc : l.Counts n hs) (hm : h ∈ hs) (hn : h.lock = n) :
    (l.attempt h.who).Counts n hs := by
  unfold Lock.attempt
  split
  · exact hc.enter hm hn
  · exact hc

theorem leave (hc : l.Counts n hs) (who : Nat) : (l.leave who).Counts n hs :=
  ⟨hc.handles, hc.nodup.erase who, fun w hw => hc.queue w (List.mem_of_mem_erase hw)⟩

theorem clone (hc : l.Counts n hs) (hn : h.lock = n) : l.clone.Counts n (hs ++ [h]) := by
  refine ⟨?_, hc.nodup, fun who hw => ?_⟩
  · rw [Lock.clone, hc.handles, List.countP_append, List.countP_singleton, if_pos (by simpa using hn)]
  · obtain ⟨g, hg, hgn⟩ := hc.queue who hw
    exact ⟨g, List.mem_append_left _ hg, hgn⟩

/-- Whoever has left the queue may drop the handle. -/
theorem drop (hc : l.Counts n hs) (hm : h ∈ hs) (hn : h.lock = n) (hw : h.who ∉ l.queue) :
    l.drop.Counts n (hs.erase h) := by
  refine ⟨?_, hc.nodup, fun who hq => ?_⟩
  · rw [Lock.drop, hc.handles, (List.perm_cons_erase hm).countP_eq,
      List.countP_cons_of_pos (by simpa using hn)]
    rfl
  · obtain ⟨g, hg, hgn, rfl⟩ := hc.queue who hq
    have hne : g ≠ h := fun he => hw (he ▸ hq)
    exact ⟨g, (List.mem_erase_of_ne hne).2 hg, hgn, rfl⟩

/-- **A lock that is not in use has no handle but the one of the table.** -/
theorem lock_ne (hc : l.Counts n hs) (hu : l.inUse = false) (hm : h ∈ hs) : h.lock ≠ n := by
  have hcount : ¬1 < l.handles := by
    simp only [inUse, Bool.or_eq_false_iff, decide_eq_false_iff_not] at hu
    exact hu.1
  intro hn
  have hpos : 0 < hs.countP (·.lock == n) := List.countP_pos_iff.2 ⟨h, hm, by simpa using hn⟩
  have := hc.handles
  omega

end Counts

end Lock

/-! ### Tables of locks -/

namespace Locks

variable {ls ls' : Locks}

/-- Whether the owner of a handle holds the lock. -/
def holds (ls : Locks) (h : Handle) : Bool := (ls.made[h.lock]?).any (·.holder == some h.who)

/-- Whether the owner of a handle is in the queue of the lock. -/
def queues (ls : Locks) (h : Handle) : Bool := (ls.made[h.lock]?).any (·.queue.contains h.who)

/-- The guards of a key: those who hold the lock that they have a handle to. -/
def guards (ls : Locks) (hs : List Handle) (key : String) : List Handle :=
  hs.filter fun h => h.key == key && ls.holds h

theorem number?_ensure (ls : Locks) (key key' : String) :
    (ls.ensure key).number? key' =
      if key' = key then some (ls.numberOf key) else ls.number? key' := by
  unfold ensure numberOf
  cases hk : ls.number? key with
  | none =>
    by_cases he : key' = key
    · rw [he, if_pos rfl]
      exact Fields.get?_insert_self _ _ _
    · rw [if_neg he]
      exact Fields.get?_insert_of_ne he _ _
  | some n =>
    by_cases he : key' = key
    · rw [he, if_pos rfl]
      exact hk
    · rw [if_neg he]

theorem getElem?_modify (ls : Locks) (n m : Nat) (f : Lock → Lock) :
    (ls.modify n f).made[m]? = (ls.made[m]?).map fun l => if n = m then f l else l :=
  List.getElem?_modify f n ls.made m

theorem getElem?_modify_self (hl : ls.made[n]? = some l) (f : Lock → Lock) :
    (ls.modify n f).made[n]? = some (f l) := by
  rw [getElem?_modify, hl, Option.map_some, if_pos rfl]

theorem modify_modify (ls : Locks) (n : Nat) (f g : Lock → Lock) :
    (ls.modify n f).modify n g = ls.modify n (g ∘ f) :=
  congrArg (Locks.mk · ls.table) (List.modify_modify_eq f g n ls.made)

/-- Two changes that make the same of a lock are the same. -/
theorem modify_congr (hl : ls.made[n]? = some l) {f g : Lock → Lock} (hf : f l = g l) :
    ls.modify n f = ls.modify n g := by
  refine congrArg (Locks.mk · ls.table) (List.ext_getElem? fun m => ?_)
  rw [List.getElem?_modify, List.getElem?_modify]
  by_cases hm : n = m
  · subst hm
    simp [hl, hf]
  · simp [hm]

theorem modify_id (ls : Locks) (n : Nat) : ls.modify n id = ls :=
  congrArg (Locks.mk · ls.table) (List.modify_id n ls.made)

/-! ### Trying a lock with a new handle -/

section Trying

variable (hl : ls.made[h.lock]? = some l) (hq : h.who ∉ l.queue)

include hl hq

theorem holds_attempt :
    (ls.modify h.lock ((·.attempt h.who) ∘ Lock.clone)).holds h = l.isFree := by
  rw [holds, getElem?_modify_self hl, Option.any_some]
  exact Lock.holder_attempt (l := l.clone) hq

theorem queues_leave_attempt :
    (ls.modify h.lock ((·.leave h.who) ∘ (·.attempt h.who) ∘ Lock.clone)).queues h = false := by
  rw [queues, getElem?_modify_self hl, Option.any_some]
  show ((l.clone.attempt h.who).leave h.who).queue.contains h.who = false
  rw [Lock.leave_attempt (l := l.clone) hq]
  show l.queue.contains h.who = false
  simpa using hq

/-- The locks are as before when someone has had a handle, tried the lock, and gone away. -/
theorem modify_visit :
    (ls.modify h.lock ((·.leave h.who) ∘ (·.attempt h.who) ∘ Lock.clone)).modify h.lock
      Lock.drop = ls := by
  rw [modify_modify]
  refine (modify_congr hl ?_).trans (modify_id ls h.lock)
  show ((l.clone.attempt h.who).leave h.who).drop = l
  rw [Lock.leave_attempt (l := l.clone) hq]
  rfl

end Trying

/-- Every handle is to the lock that the table has under its key, no two keys share a lock, and the
locks of the table count their handles. Everyone has one handle. -/
structure Serves (ls : Locks) (hs : List Handle) : Prop where
  sorted : Fields.Sorted ls.table
  unique : ∀ {key key' n}, ls.number? key = some n → ls.number? key' = some n → key = key'
  counts : ∀ {key n}, ls.number? key = some n → ∃ l, ls.made[n]? = some l ∧ l.Counts n hs
  has : ∀ {h}, h ∈ hs → ls.number? h.key = some h.lock
  distinct : (hs.map (·.who)).Nodup

/-- All handles are to the same locks as before, and these are as before. -/
structure Keeps (hs : List Handle) (ls ls' : Locks) : Prop where
  number? : ∀ {h}, h ∈ hs → ls'.number? h.key = ls.number? h.key
  made : ∀ {h}, h ∈ hs → ls'.made[h.lock]? = ls.made[h.lock]?

namespace Keeps

theorem refl (hs : List Handle) (ls : Locks) : Keeps hs ls ls := ⟨fun _ => rfl, fun _ => rfl⟩

theorem trans {ls'' : Locks} (k : Keeps hs ls ls') (k' : Keeps hs ls' ls'') : Keeps hs ls ls'' :=
  ⟨fun hm => (k'.number? hm).trans (k.number? hm), fun hm => (k'.made hm).trans (k.made hm)⟩

theorem guards_eq (k : Keeps hs ls ls') (key : String) : ls'.guards hs key = ls.guards hs key := by
  refine List.filter_congr fun h hm => ?_
  rw [holds, holds, k.made hm]

end Keeps

namespace Serves

theorem none : Locks.none.Serves [] := ⟨.nil, nofun, nofun, nofun, .nil⟩

theorem number?_lt (hv : ls.Serves hs) (hn : ls.number? key = some n) : n < ls.made.length := by
  obtain ⟨l, hl, -⟩ := hv.counts hn
  exact (List.getElem?_eq_some_iff.1 hl).1

/-- The lock of a handle. -/
theorem lock (hv : ls.Serves hs) (hm : h ∈ hs) :
    ∃ l, ls.made[h.lock]? = some l ∧ l.Counts h.lock hs := hv.counts (hv.has hm)

/-! ### What operations keep -/

/-- A lock that is made anew has no handles yet. -/
theorem ensure (hv : ls.Serves hs) (key : String) : (ls.ensure key).Serves hs := by
  have hnumber := ls.number?_ensure key
  cases hk : ls.number? key with
  | some n =>
    rw [Locks.ensure, hk]
    exact hv
  | none =>
    rw [Locks.numberOf, hk, Option.getD_none] at hnumber
    have hmade : (ls.ensure key).made = ls.made ++ [.new] := by rw [Locks.ensure, hk]
    constructor
    case sorted =>
      rw [Locks.ensure, hk]
      exact Fields.sorted_insert _ _ hv.sorted
    case unique =>
      intro k k' n hn hn'
      rw [hnumber] at hn hn'
      split at hn <;> split at hn' <;> rename_i he he'
      · rw [he, he']
      · cases hn
        exact absurd (hv.number?_lt hn') (Nat.lt_irrefl _)
      · cases hn'
        exact absurd (hv.number?_lt hn) (Nat.lt_irrefl _)
      · exact hv.unique hn hn'
    case counts =>
      intro k n hn
      rw [hnumber] at hn
      rw [hmade]
      split at hn
      · cases hn
        refine ⟨.new, List.getElem?_concat_length, .new fun h hm he => ?_⟩
        exact Nat.lt_irrefl _ (he ▸ hv.number?_lt (hv.has hm))
      · rw [List.getElem?_append_left (hv.number?_lt hn)]
        exact hv.counts hn
    case has =>
      intro h hm
      have hne : h.key ≠ key := by
        rintro rfl
        exact Option.some_ne_none _ ((hv.has hm).symm.trans hk)
      rw [hnumber, if_neg hne]
      exact hv.has hm
    case distinct =>
      exact hv.distinct

/-- A change of one lock and of the handles to it. -/
theorem modify (hv : ls.Serves hs) {f : Lock → Lock}
    (hf : ∀ l, ls.made[n]? = some l → l.Counts n hs → (f l).Counts n hs')
    (hothers : ∀ m, n ≠ m → hs'.filter (·.lock == m) = hs.filter (·.lock == m))
    (has : ∀ h ∈ hs', ls.number? h.key = some h.lock) (distinct : (hs'.map (·.who)).Nodup) :
    (ls.modify n f).Serves hs' := by
  refine ⟨hv.sorted, hv.unique, fun {key m} hm => ?_, fun {h} hm => has h hm, distinct⟩
  obtain ⟨l, hl, hc⟩ := hv.counts hm
  rw [getElem?_modify, hl]
  by_cases he : n = m
  · subst he
    exact ⟨f l, congrArg some (if_pos rfl), hf l hl hc⟩
  · exact ⟨l, congrArg some (if_neg he), hc.of_filter_eq (hothers m he)⟩

/-- What the owner of a handle does at the lock. -/
theorem turn (hv : ls.Serves hs) {f : Lock → Lock}
    (hf : ∀ {l}, l.Counts n hs → (f l).Counts n hs) : (ls.modify n f).Serves hs :=
  hv.modify (fun _ _ hc => hf hc) (fun _ _ => rfl) (fun _ hm => hv.has hm) hv.distinct

/-- A handle is given out to someone who has none. -/
theorem clone (hv : ls.Serves hs) (key : String) {who : Nat} (hw : ∀ h ∈ hs, h.who ≠ who) :
    (ls.clone key).Serves (hs ++ [⟨key, who, ls.numberOf key⟩]) := by
  have hnumber : (ls.ensure key).number? key = some (ls.numberOf key) := by
    rw [number?_ensure, if_pos rfl]
  have he := hv.ensure key
  refine he.modify (fun l _ hc => hc.clone rfl) (fun m hm => ?_) (fun h hm => ?_) ?_
  · rw [List.filter_append, List.filter_cons_of_neg (by simpa using hm), List.filter_nil,
      List.append_nil]
  · rcases List.mem_append.1 hm with hm | hm
    · exact he.has hm
    · rw [List.mem_singleton.1 hm]
      exact hnumber
  · rw [List.map_append]
    refine List.nodup_append.2 ⟨hv.distinct, List.nodup_singleton who, fun a ha b hb => ?_⟩
    obtain ⟨h, hm, rfl⟩ := List.mem_map.1 ha
    rw [List.mem_singleton.1 hb]
    exact hw h hm

/-- Someone who is not in the queue drops the handle. -/
theorem drop (hv : ls.Serves hs) (hm : h ∈ hs) (hq : ls.queues h = false) :
    (ls.modify h.lock Lock.drop).Serves (hs.erase h) := by
  refine hv.modify (fun l hl hc => ?_) (fun m hne => Handle.filter_erase_of_ne hne hs)
    (fun g hg => hv.has (List.mem_of_mem_erase hg)) (hv.distinct.sublist (List.erase_sublist.map _))
  refine hc.drop hm rfl ?_
  rw [queues, hl] at hq
  simpa using hq

/-- Forgetting a lock that is in use does nothing, and no handle is to another one. -/
theorem forget_cases (hv : ls.Serves hs) (key : String) :
    ls.forget key = ls ∨ ∃ n, ls.number? key = some n ∧ (∀ h ∈ hs, h.lock ≠ n) ∧
      ls.forget key = ⟨ls.made.modify n Lock.drop, Fields.erase ls.table key⟩ := by
  unfold Locks.forget
  cases hk : ls.number? key with
  | none => exact .inl rfl
  | some n =>
    obtain ⟨l, hl, hc⟩ := hv.counts hk
    dsimp only
    rw [hl, Option.any_some]
    cases hu : l.inUse with
    | true => exact .inl rfl
    | false => exact .inr ⟨n, rfl, fun h hm => hc.lock_ne hu hm, rfl⟩

theorem forget (hv : ls.Serves hs) (key : String) :
    (ls.forget key).Serves hs ∧ Keeps hs ls (ls.forget key) := by
  rcases hv.forget_cases key with he | ⟨n, hk, hne, he⟩
  · rw [he]
    exact ⟨hv, .refl hs ls⟩
  · rw [he]
    have hother {k : String} (hkey : k ≠ key) : Fields.get? (Fields.erase ls.table key) k =
        ls.number? k := Fields.get?_erase_of_ne hkey ls.table
    have hnumber {k : String} {m : Nat}
        (hm : Fields.get? (Fields.erase ls.table key) k = some m) :
        k ≠ key ∧ ls.number? k = some m := by
      have hkey : k ≠ key := by
        rintro rfl
        rw [Fields.get?_erase_self] at hm
        cases hm
      exact ⟨hkey, (hother hkey).symm.trans hm⟩
    have hmade {m : Nat} (hm : n ≠ m) : (ls.made.modify n Lock.drop)[m]? = ls.made[m]? := by
      rw [List.getElem?_modify]
      simp [hm]
    -- The key of a handle is another one: the lock under this key has no handles.
    have hkeys {h : Handle} (hm : h ∈ hs) : h.key ≠ key := by
      rintro rfl
      exact hne h hm (Option.some_inj.1 ((hv.has hm).symm.trans hk))
    refine ⟨⟨hv.sorted.filter _, fun hn hn' => hv.unique (hnumber hn).2 (hnumber hn').2,
      fun {k m} hm => ?_, fun hm => (hother (hkeys hm)).trans (hv.has hm), hv.distinct⟩,
      fun hm => hother (hkeys hm), fun hm => hmade (hne _ hm).symm⟩
    obtain ⟨hkey, hm⟩ := hnumber hm
    have hnm : n ≠ m := fun he => hkey (hv.unique hm (he ▸ hk))
    obtain ⟨l, hl, hc⟩ := hv.counts hm
    exact ⟨l, (hmade hnm).trans hl, hc⟩

theorem forgetAll (hv : ls.Serves hs) (keys : List String) :
    (keys.foldl Locks.forget ls).Serves hs ∧ Keeps hs ls (keys.foldl Locks.forget ls) := by
  induction keys generalizing ls with
  | nil => exact ⟨hv, .refl hs ls⟩
  | cons key keys ih =>
    obtain ⟨hf, hk⟩ := hv.forget key
    obtain ⟨hf', hk'⟩ := ih hf
    exact ⟨hf', hk.trans hk'⟩

theorem keeps_ensure (hv : ls.Serves hs) (key : String) : Keeps hs ls (ls.ensure key) := by
  refine ⟨fun {h} hm => ?_, fun {h} hm => ?_⟩
  · rw [number?_ensure]
    split
    · rename_i he
      rw [numberOf, ← he, hv.has hm]
      rfl
    · rfl
  · unfold Locks.ensure
    split
    · rfl
    · exact List.getElem?_append_left (hv.number?_lt (hv.has hm))

theorem ensureAll {α : Type} (hv : ls.Serves hs) (entries : List (String × α)) :
    (entries.foldl (fun ls entry => ls.ensure entry.1) ls).Serves hs ∧
      Keeps hs ls (entries.foldl (fun ls entry => ls.ensure entry.1) ls) := by
  induction entries generalizing ls with
  | nil => exact ⟨hv, .refl hs ls⟩
  | cons entry entries ih =>
    obtain ⟨he, hk⟩ := ih (hv.ensure entry.1)
    exact ⟨he, (hv.keeps_ensure entry.1).trans hk⟩

/-! ### Guards -/

/-- A lock that is made is free, as the missing one was. -/
theorem isFree_ensure (hv : ls.Serves hs) (key key' : String) :
    (ls.ensure key).isFree key' = ls.isFree key' := by
  unfold isFree lock?
  cases hk : ls.number? key with
  | some n => rw [Locks.ensure, hk]
  | none =>
    rw [number?_ensure, numberOf, hk, Locks.ensure, hk]
    split
    · rename_i he
      rw [he, hk]
      simp [Lock.new, Lock.isFree, Lock.holder]
    · cases hk' : ls.number? key' with
      | none => rfl
      | some n => simp [List.getElem?_append_left (hv.number?_lt hk')]

/-- A lock is free when its key has no guard. -/
theorem isFree_eq (hv : ls.Serves hs) (key : String) :
    ls.isFree key = (ls.guards hs key).isEmpty := by
  rw [Bool.eq_iff_iff, List.isEmpty_iff, guards, List.filter_eq_nil_iff, isFree, lock?]
  constructor
  · intro hfree h hm hguard
    obtain ⟨rfl, hholds⟩ : h.key = key ∧ ls.holds h = true := by simpa using hguard
    obtain ⟨l, hl, -⟩ := hv.lock hm
    rw [hv.has hm, Option.bind_some, hl, Option.all_some, Lock.isFree] at hfree
    rw [holds, hl, Option.any_some] at hholds
    simp [Option.isNone_iff_eq_none.1 hfree] at hholds
  · intro hall
    cases hk : ls.number? key with
    | none => rfl
    | some n =>
      obtain ⟨l, hl, hc⟩ := hv.counts hk
      rw [Option.bind_some, hl, Option.all_some, Lock.isFree, Option.isNone_iff_eq_none]
      cases hh : l.holder with
      | none => rfl
      | some who =>
        -- Whoever holds the lock has a handle to it, which is for the same key.
        obtain ⟨h, hm, rfl, rfl⟩ := hc.queue who (List.mem_of_mem_head? hh)
        have hkey : h.key = key := hv.unique (hv.has hm) hk
        exact absurd (by simp [hkey, holds, hl, hh]) (hall h hm)

/-- **A key has at most one guard.** -/
theorem length_guards_le (hv : ls.Serves hs) (key : String) : (ls.guards hs key).length ≤ 1 := by
  have hone : (ls.guards hs key).Pairwise fun _ _ => False := by
    refine ((List.pairwise_map.1 hv.distinct).filter _).imp_of_mem fun {g g'} hg hg' hne => hne ?_
    obtain ⟨hm, hg⟩ := List.mem_filter.1 hg
    obtain ⟨hm', hg'⟩ := List.mem_filter.1 hg'
    obtain ⟨rfl, hholds⟩ : g.key = key ∧ ls.holds g = true := by simpa using hg
    obtain ⟨hkey, hholds'⟩ : g'.key = g.key ∧ ls.holds g' = true := by simpa using hg'
    -- Both have a handle to the lock under the key, and it has one holder.
    have hlock : g.lock = g'.lock :=
      Option.some_inj.1 ((hv.has hm).symm.trans (hkey ▸ hv.has hm'))
    obtain ⟨l, hl, -⟩ := hv.lock hm
    rw [holds, hl, Option.any_some, beq_iff_eq] at hholds
    rw [holds, ← hlock, hl, Option.any_some, beq_iff_eq] at hholds'
    exact Option.some_inj.1 (hholds.symm.trans hholds')
  match hg : ls.guards hs key with
  | [] => exact Nat.zero_le _
  | [_] => exact Nat.le_refl _
  | g :: g' :: _ =>
    rw [hg] at hone
    exact ((List.pairwise_cons.1 hone).1 g' List.mem_cons_self).elim

end Serves

end Locks

end Dialogue
