/-
  RigidFrames.Proofs.Links.Chain

  What can be said of following links, whatever the links are.

  `up` gives the link of each thing that has one.  `ancestor? up k i` is
  where `k` steps from `i` lead, and everything else is said through it:

    * `Ends up i`: the links from `i` come to an end (`ends_iff`);
    * `Above up i a`: `a` is met on the way;
    * `OnCycle up a`: the way from `a` leads back to `a`;
    * `Route up i l`: the way ends, and `l` is the way (`Route.nodup`,
      `Route.mem_iff`).

  A way that ends repeats nothing, so it is no longer than there are things
  (`Route.length_le`); a way that repeats something goes round for ever
  (`FirstOnCycle.of_repeat`).
-/
import Mathlib.Data.List.Nodup
import Mathlib.Data.List.Perm.Subperm
import Mathlib.Data.List.Range
import Mathlib.Logic.Function.Basic

namespace RigidFrames.Links

variable {ι : Type} {up : ι → Option ι}

/-- Where `k` links from `i` lead, if there are so many. -/
def ancestor? (up : ι → Option ι) : Nat → ι → Option ι
  | 0, i => some i
  | k + 1, i => (up i).bind (ancestor? up k)

/-- Following the links from `i` reaches something that has no link. -/
inductive Ends (up : ι → Option ι) : ι → Prop
  | root {i : ι} (h : up i = none) : Ends up i
  | step {i j : ι} (h : up i = some j) (ends : Ends up j) : Ends up i

/-- Following the links from `i` meets `a`; `i` itself is met at once. -/
def Above (up : ι → Option ι) (i a : ι) : Prop :=
  ∃ k, ancestor? up k i = some a

/-- Following the links from `a` comes back to `a`. -/
def OnCycle (up : ι → Option ι) (a : ι) : Prop :=
  ∃ k, ancestor? up (k + 1) a = some a

/-- The links from `i` end, and `l` is what they meet, `i` first. -/
inductive Route (up : ι → Option ι) : ι → List ι → Prop
  | root {i : ι} (h : up i = none) : Route up i [i]
  | step {i j : ι} {l : List ι} (h : up i = some j) (route : Route up j l) : Route up i (i :: l)

-- ============================================================================
-- Ancestors
-- ============================================================================

@[simp] theorem ancestor?_zero (i : ι) : ancestor? up 0 i = some i := rfl

theorem ancestor?_succ_of_none {i : ι} (h : up i = none) (k : Nat) :
    ancestor? up (k + 1) i = none := by
  simp [ancestor?, h]

theorem ancestor?_succ_of_some {i j : ι} (h : up i = some j) (k : Nat) :
    ancestor? up (k + 1) i = ancestor? up k j := by
  simp [ancestor?, h]

theorem ancestor?_add (k l : Nat) (i : ι) :
    ancestor? up (k + l) i = (ancestor? up k i).bind (ancestor? up l) := by
  induction k generalizing i with
  | zero => simp
  | succ k ih =>
    rw [Nat.add_right_comm]
    cases h : up i with
    | none => rw [ancestor?_succ_of_none h, ancestor?_succ_of_none h]; rfl
    | some j => rw [ancestor?_succ_of_some h, ancestor?_succ_of_some h, ih j]

theorem ancestor?_add_of_eq {k : Nat} {i a : ι} (h : ancestor? up k i = some a) (l : Nat) :
    ancestor? up (k + l) i = ancestor? up l a := by
  rw [ancestor?_add, h, Option.bind_some]

theorem ancestor?_succ {k : Nat} {i a : ι} (h : ancestor? up k i = some a) :
    ancestor? up (k + 1) i = up a := by
  rw [ancestor?_add_of_eq h]
  simp [ancestor?]

theorem Above.refl (i : ι) : Above up i i := ⟨0, rfl⟩

theorem Above.of_up {i j a : ι} (h : up i = some j) (above : Above up j a) : Above up i a := by
  obtain ⟨k, hk⟩ := above
  exact ⟨k + 1, by rw [ancestor?_succ_of_some h, hk]⟩

theorem Above.next {i a b : ι} (above : Above up i a) (h : up a = some b) : Above up i b := by
  obtain ⟨k, hk⟩ := above
  exact ⟨k + 1, by rw [ancestor?_succ hk, h]⟩

theorem Above.trans {i a b : ι} (ia : Above up i a) (ab : Above up a b) : Above up i b := by
  obtain ⟨k, hk⟩ := ia
  obtain ⟨l, hl⟩ := ab
  exact ⟨k + l, by rw [ancestor?_add_of_eq hk, hl]⟩

/-- What is met from `i` is `i` itself or is met from the link of `i`. -/
theorem above_iff {i a : ι} : Above up i a ↔ a = i ∨ ∃ j, up i = some j ∧ Above up j a := by
  refine ⟨?_, ?_⟩
  · rintro ⟨k, hk⟩
    cases k with
    | zero => exact .inl (Option.some.inj hk).symm
    | succ k =>
      cases h : up i with
      | none => rw [ancestor?_succ_of_none h] at hk; cases hk
      | some j => exact .inr ⟨j, rfl, k, by rwa [ancestor?_succ_of_some h] at hk⟩
  · rintro (rfl | ⟨j, h, above⟩)
    · exact .refl a
    · exact above.of_up h

-- ============================================================================
-- Ways that end
-- ============================================================================

theorem Ends.next {i j : ι} (ends : Ends up i) (h : up i = some j) : Ends up j := by
  cases ends with
  | root h' => rw [h'] at h; cases h
  | step h' ends => rw [h', Option.some.injEq] at h; exact h ▸ ends

theorem Ends.above {i a : ι} (ends : Ends up i) (above : Above up i a) : Ends up a := by
  obtain ⟨k, hk⟩ := above
  induction k generalizing i with
  | zero => cases hk; exact ends
  | succ k ih =>
    cases h : up i with
    | none => rw [ancestor?_succ_of_none h] at hk; cases hk
    | some j => exact ih (ends.next h) (by rwa [ancestor?_succ_of_some h] at hk)

theorem Ends.of_above {i a : ι} (above : Above up i a) (ends : Ends up a) : Ends up i := by
  obtain ⟨k, hk⟩ := above
  induction k generalizing i with
  | zero => cases hk; exact ends
  | succ k ih =>
    cases h : up i with
    | none => exact .root h
    | some j => exact .step h (ih (by rwa [ancestor?_succ_of_some h] at hk))

/-- The links end when some number of steps leads nowhere. -/
theorem ends_iff {i : ι} : Ends up i ↔ ∃ k, ancestor? up k i = none := by
  refine ⟨?_, ?_⟩
  · intro ends
    induction ends with
    | root h => exact ⟨1, ancestor?_succ_of_none h 0⟩
    | step h _ ih =>
      obtain ⟨k, hk⟩ := ih
      exact ⟨k + 1, by rw [ancestor?_succ_of_some h, hk]⟩
  · rintro ⟨k, hk⟩
    induction k generalizing i with
    | zero => cases hk
    | succ k ih =>
      cases h : up i with
      | none => exact .root h
      | some j => exact .step h (ih (by rwa [ancestor?_succ_of_some h] at hk))

theorem OnCycle.ancestor?_mul {a : ι} {p : Nat} (h : ancestor? up p a = some a) (m : Nat) :
    ancestor? up (m * p) a = some a := by
  induction m with
  | zero => simp
  | succ m ih => rw [Nat.succ_mul, ancestor?_add_of_eq ih, h]

theorem OnCycle.not_ends {a : ι} (cycle : OnCycle up a) : ¬ Ends up a := by
  obtain ⟨p, hp⟩ := cycle
  intro ends
  obtain ⟨k, hk⟩ := ends_iff.1 ends
  -- Going round often enough takes more steps than the way has.
  have round := ancestor?_mul hp k
  have far : k * (p + 1) = k + k * p := by rw [Nat.mul_succ, Nat.add_comm]
  rw [far, ancestor?_add, hk] at round
  cases round

/-- Links that all end can be recursed along. -/
theorem wellFounded_of_ends (ends : ∀ i, Ends up i) : WellFounded fun j i => up i = some j := by
  refine ⟨fun i => ?_⟩
  induction ends i with
  | root h => exact ⟨_, fun j hj => by rw [h] at hj; cases hj⟩
  | step h _ ih => exact ⟨_, fun j hj => by rw [h, Option.some.injEq] at hj; exact hj ▸ ih⟩

-- ============================================================================
-- Routes
-- ============================================================================

theorem Ends.exists_route {i : ι} (ends : Ends up i) : ∃ l, Route up i l := by
  induction ends with
  | root h => exact ⟨_, .root h⟩
  | step h _ ih =>
    obtain ⟨l, route⟩ := ih
    exact ⟨_, .step h route⟩

theorem Route.ends {i : ι} {l : List ι} (route : Route up i l) : Ends up i := by
  induction route with
  | root h => exact .root h
  | step h _ ih => exact .step h ih

theorem Route.mem_iff {i a : ι} {l : List ι} (route : Route up i l) : a ∈ l ↔ Above up i a := by
  induction route with
  | @root i h =>
    rw [List.mem_singleton, above_iff]
    simp [h]
  | @step i j l h _ ih =>
    rw [List.mem_cons, above_iff, ih]
    simp [h]

/-- A way that ends meets nothing twice: what is met again lies on a cycle. -/
theorem Route.nodup {i : ι} {l : List ι} (route : Route up i l) : l.Nodup := by
  induction route with
  | root h => exact List.nodup_singleton _
  | @step i j l h route ih =>
    refine List.nodup_cons.2 ⟨fun mem => ?_, ih⟩
    obtain ⟨k, hk⟩ := route.mem_iff.1 mem
    have cycle : OnCycle up i := ⟨k, by rw [ancestor?_succ_of_some h, hk]⟩
    exact cycle.not_ends (route.step h).ends

/-- Everything on a way but the last has a link. -/
theorem Route.exists_up {i a : ι} {l : List ι} (route : Route up i l) (mem : a ∈ l.dropLast) :
    ∃ b, up a = some b := by
  induction route with
  | root h => cases mem
  | @step i j l h route ih =>
    have more : l ≠ [] := by
      rintro rfl
      cases route
    rw [List.dropLast_cons_of_ne_nil more, List.mem_cons] at mem
    rcases mem with rfl | mem
    · exact ⟨j, h⟩
    · exact ih mem

/-- There are at most `n` distinct numbers below `n`. -/
theorem length_le_of_nodup {l : List Nat} (distinct : l.Nodup) {n : Nat} (lt : ∀ k ∈ l, k < n) :
    l.length ≤ n := by
  have below : l ⊆ List.range n := fun k mem => List.mem_range.2 (lt k mem)
  have most := (List.subperm_of_subset distinct below).length_le
  rwa [List.length_range] at most

/-- A way among `n` things has at most `n` of them. -/
theorem Route.length_le {i : ι} {l : List ι} (route : Route up i l) {n : Nat} (number : ι → Nat)
    (injective : ∀ a b, number a = number b → a = b) (lt : ∀ a, Above up i a → number a < n) :
    l.length ≤ n := by
  have distinct : (l.map number).Nodup := route.nodup.map fun a b => injective a b
  rw [← List.length_map number]
  apply length_le_of_nodup distinct
  intro k hk
  obtain ⟨a, ha, rfl⟩ := List.mem_map.1 hk
  exact lt a (route.mem_iff.1 ha)

-- ============================================================================
-- Ways that go round
-- ============================================================================

/-- `c` is the first thing on a cycle that is met from `s`. -/
def FirstOnCycle (up : ι → Option ι) (s c : ι) : Prop :=
  ∃ k, ancestor? up k s = some c ∧ OnCycle up c ∧
    ∀ j < k, ∀ a, ancestor? up j s = some a → ¬ OnCycle up a

theorem FirstOnCycle.not_ends {s c : ι} (first : FirstOnCycle up s c) : ¬ Ends up s := by
  obtain ⟨k, hk, cycle, -⟩ := first
  exact fun ends => cycle.not_ends (ends.above ⟨k, hk⟩)

theorem OnCycle.first {s : ι} (cycle : OnCycle up s) : FirstOnCycle up s s :=
  ⟨0, rfl, cycle, nofun⟩

theorem FirstOnCycle.unique {s c d : ι} (hc : FirstOnCycle up s c) (hd : FirstOnCycle up s d) :
    c = d := by
  obtain ⟨k, hk, cycle, before⟩ := hc
  obtain ⟨l, hl, cycle', before'⟩ := hd
  rcases Nat.lt_trichotomy k l with lt | rfl | gt
  · exact absurd cycle (before' k lt c hk)
  · exact Option.some.inj (hk.symm.trans hl)
  · exact absurd cycle' (before l gt d hl)

/-- From the first repetition on, the way meets only what it met between the two visits. -/
theorem ancestor?_periodic {s c : ι} {j k : Nat} (lt : j < k) (hj : ancestor? up j s = some c)
    (hk : ancestor? up k s = some c) (t : Nat) (ht : j ≤ t) :
    ∃ t', j ≤ t' ∧ t' < k ∧ ancestor? up t' s = ancestor? up t s := by
  induction t using Nat.strong_induction_on with
  | _ t ih =>
    by_cases h : t < k
    · exact ⟨t, ht, h, rfl⟩
    · obtain ⟨t', ge, lt', eq⟩ := ih (t - (k - j)) (by omega) (by omega)
      refine ⟨t', ge, lt', eq.trans ?_⟩
      have back : t - (k - j) = j + (t - k) := by omega
      have here : t = k + (t - k) := by omega
      rw [back, ancestor?_add_of_eq hj, here, ancestor?_add_of_eq hk]
      congr 1
      omega

/-- A way whose first `k` things differ and whose next one is the `j`-th again: the `j`-th is the
    first one on a cycle. -/
theorem FirstOnCycle.of_repeat {s c : ι} {j k : Nat} (lt : j < k)
    (hj : ancestor? up j s = some c) (hk : ancestor? up k s = some c)
    (distinct : ∀ p < k, ∀ q < k, ancestor? up p s = ancestor? up q s → p = q) :
    FirstOnCycle up s c := by
  refine ⟨j, hj, ⟨k - j - 1, ?_⟩, ?_⟩
  · have round : k = j + (k - j - 1 + 1) := by omega
    rwa [round, ancestor?_add_of_eq hj] at hk
  · rintro i hi a ha ⟨p, hp⟩
    -- Going round from `a` often enough passes the repetition, so `a` is met a second time.
    have again : ancestor? up (i + j * (p + 1)) s = some a := by
      rw [ancestor?_add_of_eq ha, OnCycle.ancestor?_mul hp]
    have late : j ≤ i + j * (p + 1) := by
      rw [Nat.mul_succ]
      omega
    obtain ⟨t, ge, lt', eq⟩ := ancestor?_periodic lt hj hk _ late
    have same := distinct i (by omega) t lt' (by rw [ha, eq, again])
    omega

-- ============================================================================
-- The same links under other names
-- ============================================================================

section

variable {κ : Type} {up' : κ → Option κ} {rename : ι → κ}

theorem ancestor?_map (same : ∀ i, up' (rename i) = (up i).map rename) (k : Nat) (i : ι) :
    ancestor? up' k (rename i) = (ancestor? up k i).map rename := by
  induction k generalizing i with
  | zero => rfl
  | succ k ih =>
    rw [ancestor?, ancestor?, same]
    cases up i with
    | none => rfl
    | some j => exact ih j

theorem ends_map_iff (same : ∀ i, up' (rename i) = (up i).map rename) (i : ι) :
    Ends up' (rename i) ↔ Ends up i := by
  simp only [ends_iff, ancestor?_map same, Option.map_eq_none_iff]

theorem onCycle_map_iff (same : ∀ i, up' (rename i) = (up i).map rename)
    (injective : Function.Injective rename) (a : ι) : OnCycle up' (rename a) ↔ OnCycle up a := by
  simp only [OnCycle, ancestor?_map same, Option.map_eq_some_iff, injective.eq_iff,
    exists_eq_right]

theorem firstOnCycle_map_iff (same : ∀ i, up' (rename i) = (up i).map rename)
    (injective : Function.Injective rename) (s c : ι) :
    FirstOnCycle up' (rename s) (rename c) ↔ FirstOnCycle up s c := by
  refine ⟨?_, ?_⟩
  · rintro ⟨k, hk, cycle, before⟩
    rw [ancestor?_map same, Option.map_eq_some_iff] at hk
    obtain ⟨d, hd, eq⟩ := hk
    refine ⟨k, injective eq ▸ hd, (onCycle_map_iff same injective c).1 cycle, fun j lt a ha => ?_⟩
    rw [← onCycle_map_iff same injective a]
    exact before j lt (rename a) (by rw [ancestor?_map same, ha, Option.map_some])
  · rintro ⟨k, hk, cycle, before⟩
    refine ⟨k, by rw [ancestor?_map same, hk, Option.map_some],
      (onCycle_map_iff same injective c).2 cycle, fun j lt b hb => ?_⟩
    rw [ancestor?_map same, Option.map_eq_some_iff] at hb
    obtain ⟨a, ha, rfl⟩ := hb
    rw [onCycle_map_iff same injective a]
    exact before j lt a ha

end

end RigidFrames.Links
