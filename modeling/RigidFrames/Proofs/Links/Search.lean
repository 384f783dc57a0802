/-
  RigidFrames.Proofs.Links.Search

  The search for a cycle decides whether all links end, and blames the right
  place if they do not.

  Walks begin at 0, 1, 2 and so on.  Before the walk from `s` the path is
  empty, no place is marked as on it, and those are done that are met from an
  earlier start; all of these end (`Explored`).  On the way a walk has passed
  distinct places, each the link of the one before, and has marked just those
  as on the path (`Passed`).  So a walk that meets a place that is done ends
  with it, and one that meets a place on the path has found the first one on a
  cycle (`walk_outcome`).  Clearing the path leaves the marks for the next walk
  (`Passed.explored`).

  `firstOnCycle?_eq_none_iff` and `firstOnCycle?_eq_some_iff` say what the
  search as a whole answers.
-/
import RigidFrames.Links
import RigidFrames.Proofs.Links.Chain
import Mathlib.Data.Option.Basic

namespace RigidFrames.Links

variable {up : Nat → Option Nat} {n : Nat}

/-- The links from each of the places below `n` stay below `n`. -/
def Closed (up : Nat → Option Nat) (n : Nat) : Prop :=
  ∀ i j, up i = some j → j < n

/-- `c` is to blame: the first place on a cycle that is met from the smallest place whose links do
    not end. -/
def Blamed (up : Nat → Option Nat) (n c : Nat) : Prop :=
  ∃ s < n, ¬ Ends up s ∧ (∀ t < s, Ends up t) ∧ FirstOnCycle up s c

/-- What is known before the walk from `s`. -/
structure Explored (up : Nat → Option Nat) (n s : Nat) (p : Progress) : Prop where
  size : p.marks.size = n
  path : p.path = #[]
  free : ∀ i : Nat, p.marks[i]? ≠ some .onPath
  done : ∀ i : Nat, p.marks[i]? = some .done ↔ ∃ t < s, Above up t i
  ends : ∀ t < s, Ends up t

/-- What the walk from `start` has done on its way. -/
structure Passed (up : Nat → Option Nat) (start : Nat) (old p : Progress) : Prop where
  trace : p.path.toList.map some = (List.range p.path.size).map (ancestor? up · start)
  nodup : p.path.toList.Nodup
  size : p.marks.size = old.marks.size
  marks : ∀ i : Nat, p.marks[i]? = if i ∈ p.path then some .onPath else old.marks[i]?

-- ============================================================================
-- Marks
-- ============================================================================

namespace Progress

theorem pass_getElem? {p : Progress} {here : Nat} (inside : here < p.marks.size) (i : Nat) :
    (p.pass here).marks[i]? = if i = here then some .onPath else p.marks[i]? := by
  rw [pass, Array.getElem?_setIfInBounds]
  by_cases eq : here = i
  · subst eq
    simp [inside]
  · simp [eq, Ne.symm eq]

theorem pass_size (p : Progress) (here : Nat) : (p.pass here).marks.size = p.marks.size :=
  Array.size_setIfInBounds

theorem pass_path (p : Progress) (here : Nat) :
    (p.pass here).path.toList = p.path.toList ++ [here] :=
  Array.toList_push

theorem settle_marks (p : Progress) : p.settle.marks =
    p.path.toList.foldl (fun marks i => marks.setIfInBounds i .done) p.marks :=
  Array.foldl_toList _ |>.symm

/-- Clearing the path touches the marks of the places on it. -/
theorem settle_getElem? (p : Progress) (i : Nat) : p.settle.marks[i]? =
    if i ∈ p.path then p.marks[i]?.map fun _ => .done else p.marks[i]? := by
  simp only [settle_marks, ← Array.mem_toList_iff]
  generalize p.path.toList = path, p.marks = marks
  induction path generalizing marks with
  | nil => rw [List.foldl_nil, if_neg List.not_mem_nil]
  | cons j path ih =>
    rw [List.foldl_cons, ih, Array.getElem?_setIfInBounds]
    by_cases first : j = i
    · subst first
      by_cases inside : j < marks.size <;> simp [inside]
    · simp [first, Ne.symm first]

theorem settle_size (p : Progress) : p.settle.marks.size = p.marks.size := by
  rw [settle_marks]
  generalize p.path.toList = path, p.marks = marks
  induction path generalizing marks with
  | nil => rfl
  | cons j path ih => rw [List.foldl_cons, ih, Array.size_setIfInBounds]

end Progress

-- ============================================================================
-- Places that a walk meets
-- ============================================================================

theorem Above.lt (closed : Closed up n) {i a : Nat} (hi : i < n) (above : Above up i a) :
    a < n := by
  obtain ⟨k, hk⟩ := above
  cases k with
  | zero => cases hk; exact hi
  | succ k =>
    rw [ancestor?_add] at hk
    obtain ⟨b, -, hb⟩ := Option.bind_eq_some_iff.1 hk
    exact closed b a (by rwa [ancestor?_succ (ancestor?_zero b)] at hb)

theorem Explored.initial : Explored up n 0 (.start n) where
  size := Array.size_replicate
  path := rfl
  free i mark := by simp [Progress.start, Array.getElem?_replicate] at mark
  done i := by simp [Progress.start, Array.getElem?_replicate]
  ends t lt := absurd lt (Nat.not_lt_zero t)

theorem Passed.initial (start : Nat) {old : Progress} (path : old.path = #[]) :
    Passed up start old old where
  trace := by rw [path]; rfl
  nodup := by rw [path]; exact List.nodup_nil
  size := rfl
  marks i := by simp [path]

section

variable {start here : Nat} {old p : Progress}

theorem Passed.mem_iff (passed : Passed up start old p) (i : Nat) :
    i ∈ p.path ↔ ∃ k < p.path.size, ancestor? up k start = some i := by
  have mem : i ∈ p.path ↔ some i ∈ p.path.toList.map some := by simp
  rw [mem, passed.trace, List.mem_map]
  simp only [List.mem_range]

theorem Passed.distinct (passed : Passed up start old p) (k : Nat) (hk : k < p.path.size) (l : Nat)
    (hl : l < p.path.size) (same : ancestor? up k start = ancestor? up l start) : k = l := by
  have nodup : ((List.range p.path.size).map (ancestor? up · start)).Nodup := by
    rw [← passed.trace]
    exact passed.nodup.map (Option.some_injective Nat)
  exact List.inj_on_of_nodup_map nodup (List.mem_range.2 hk) (List.mem_range.2 hl) same

/-- Passing one more place, not yet visited. -/
theorem Passed.push (passed : Passed up start old p)
    (at_here : ancestor? up p.path.size start = some here)
    (free : p.marks[here]? = some .unvisited) : Passed up start old (p.pass here) := by
  have inside : here < p.marks.size := (Array.getElem?_eq_some_iff.1 free).1
  have new : here ∉ p.path.toList := by
    intro mem
    rw [passed.marks here, if_pos (Array.mem_toList_iff.1 mem)] at free
    cases free
  refine ⟨?_, ?_, (p.pass_size here).trans passed.size, fun i => ?_⟩
  · rw [p.pass_path, List.map_append, passed.trace, Progress.pass, Array.size_push,
      List.range_succ, List.map_append, List.map_singleton, List.map_singleton, at_here]
  · rw [p.pass_path]
    exact List.nodup_append.2 ⟨passed.nodup, List.nodup_singleton here, fun i mem j last eq =>
      new (List.mem_singleton.1 last ▸ eq ▸ mem)⟩
  · have mem : i ∈ (p.pass here).path ↔ i ∈ p.path ∨ i = here := Array.mem_push
    rw [Progress.pass_getElem? inside, passed.marks i]
    by_cases last : i = here
    · rw [if_pos last, if_pos (mem.2 (.inr last))]
    · simp only [mem, last, or_false, if_false]

/-- What is met from `start` was passed, or is met from the place that comes next. -/
theorem Passed.mem_or_above (passed : Passed up start old p) {i : Nat} (above : Above up start i) :
    i ∈ p.path ∨ ∃ here, ancestor? up p.path.size start = some here ∧ Above up here i := by
  obtain ⟨k, hk⟩ := above
  by_cases lt : k < p.path.size
  · exact .inl ((passed.mem_iff i).2 ⟨k, lt, hk⟩)
  · have further : k = p.path.size + (k - p.path.size) := by omega
    rw [further, ancestor?_add] at hk
    obtain ⟨here, at_here, rest⟩ := Option.bind_eq_some_iff.1 hk
    exact .inr ⟨here, at_here, _, rest⟩

-- ============================================================================
-- Where a walk ends
-- ============================================================================

/-- A walk whose way ends, and that has passed all of the way that was not done before, leaves the
    marks for the next walk when its path is cleared. -/
theorem Passed.explored (explored : Explored up n start old) (passed : Passed up start old p)
    (ends : Ends up start)
    (all : ∀ i, Above up start i → i ∈ p.path ∨ ∃ t < start, Above up t i) :
    Explored up n (start + 1) p.settle := by
  have marks (i : Nat) : p.settle.marks[i]? =
      if i ∈ p.path then some .done else old.marks[i]? := by
    rw [p.settle_getElem?, passed.marks i]
    split <;> rfl
  refine ⟨p.settle_size.trans (passed.size.trans explored.size), rfl, fun i => ?_, fun i => ?_,
    fun t lt => ?_⟩
  · rw [marks i]
    split
    · exact nofun
    · exact explored.free i
  · rw [marks i]
    refine ⟨fun done => ?_, ?_⟩
    · split at done
      · next mem =>
        obtain ⟨k, -, hk⟩ := (passed.mem_iff i).1 mem
        exact ⟨start, Nat.lt_succ_self start, k, hk⟩
      · obtain ⟨t, lt, above⟩ := (explored.done i).1 done
        exact ⟨t, Nat.lt_succ_of_lt lt, above⟩
    · rintro ⟨t, lt, above⟩
      have old_or_new : i ∈ p.path ∨ ∃ t < start, Above up t i := by
        rcases Nat.lt_succ_iff_lt_or_eq.1 lt with lt | rfl
        · exact .inr ⟨t, lt, above⟩
        · exact all i above
      split
      · rfl
      · next not_mem => exact (explored.done i).2 (old_or_new.resolve_left not_mem)
  · rcases Nat.lt_succ_iff_lt_or_eq.1 lt with lt | rfl
    · exact explored.ends t lt
    · exact ends

/-- A walk comes back to the first place on a cycle, or leaves the marks for the next walk. -/
theorem walk_outcome (closed : Closed up n) (explored : Explored up n start old) (lt : start < n)
    {next : Option Nat} (passed : Passed up start old p)
    (at_next : ancestor? up p.path.size start = next) :
    match (walk up p next).cycle? with
    | some c => FirstOnCycle up start c
    | none => Explored up n (start + 1) (walk up p next).progress.settle := by
  fun_induction walk up p next with
  | case1 p =>
    have ends : Ends up start := ends_iff.2 ⟨_, at_next⟩
    refine passed.explored explored ends fun i above => ?_
    rcases passed.mem_or_above above with mem | ⟨here, at_here, -⟩
    · exact .inl mem
    · rw [at_next] at at_here
      cases at_here
  | case2 p here free ih =>
    refine ih (passed.push at_next free) ?_
    rw [Progress.pass, Array.size_push, ancestor?_succ at_next]
  | case3 p here own =>
    -- A place on the path is the walk's own, and was met before at a smaller distance.
    have mem : here ∈ p.path := by
      rw [passed.marks here] at own
      split at own
      · assumption
      · exact absurd own (explored.free here)
    obtain ⟨k, before, at_k⟩ := (passed.mem_iff here).1 mem
    exact .of_repeat before at_k at_next passed.distinct
  | case4 p here met =>
    -- A place that is done was met by an earlier walk, which came to an end.
    rw [passed.marks here] at met
    split at met
    · cases met
    · obtain ⟨t, lt_t, above_t⟩ := (explored.done here).1 met
      have ends : Ends up start := .of_above ⟨_, at_next⟩ ((explored.ends t lt_t).above above_t)
      refine passed.explored explored ends fun i above => ?_
      rcases passed.mem_or_above above with mem | ⟨_, at_here, above⟩
      · exact .inl mem
      · obtain rfl := Option.some.inj (at_next.symm.trans at_here)
        exact .inr ⟨t, lt_t, above_t.trans above⟩
  | case5 p here missing =>
    have inside : here < p.marks.size := by
      rw [passed.size, explored.size]
      exact Above.lt closed lt ⟨_, at_next⟩
    exact absurd missing (by simp [inside])

end

-- ============================================================================
-- The search
-- ============================================================================

theorem walkFrom_outcome (closed : Closed up n) {s : Nat} {p : Progress}
    (explored : Explored up n s p) (lt : s < n) :
    match walkFrom up p s with
    | .error c => FirstOnCycle up s c
    | .ok q => Explored up n (s + 1) q := by
  have at_start : ancestor? up p.path.size s = some s := by rw [explored.path]; rfl
  have outcome := walk_outcome closed explored lt (.initial s explored.path) at_start
  rw [walkFrom]
  cases back : (walk up p (some s)).cycle? with
  | some c => rwa [back] at outcome
  | none => rwa [back] at outcome

theorem search_nil (p : Progress) : search up [] p = .ok p := rfl

theorem search_cons (start : Nat) (starts : List Nat) (p : Progress) :
    search up (start :: starts) p = (walkFrom up p start).bind (search up starts) :=
  List.foldlM_cons

theorem search_append (starts more : List Nat) (p : Progress) :
    search up (starts ++ more) p = (search up starts p).bind (search up more) :=
  List.foldlM_append

/-- The search goes on with what the walks from the first `t` places leave behind. -/
theorem search_resumes {t : Nat} (le : t ≤ n) {p q : Progress}
    (run : search up (List.range t) p = .ok q) :
    search up (List.range n) p = search up (List.range' t (n - t)) q := by
  have parts : List.range' 0 t ++ List.range' (0 + t) (n - t) = List.range' 0 (t + (n - t)) :=
    List.range'_append_1
  rw [Nat.zero_add, Nat.add_sub_cancel' le, ← List.range_eq_range', ← List.range_eq_range'] at parts
  rw [← parts, search_append, run]
  rfl

theorem search_outcome (closed : Closed up n) :
    ∀ (m s : Nat) (p : Progress), Explored up n s p → s + m ≤ n →
      match search up (List.range' s m) p with
      | .error c => Blamed up n c
      | .ok q => Explored up n (s + m) q := by
  intro m
  induction m with
  | zero => exact fun s p explored _ => explored
  | succ m ih =>
    intro s p explored total
    have lt : s < n := by omega
    have outcome := walkFrom_outcome closed explored lt
    rw [List.range'_succ, search_cons]
    cases first : walkFrom up p s with
    | error c =>
      rw [first] at outcome
      exact ⟨s, lt, outcome.not_ends, explored.ends, outcome⟩
    | ok q =>
      rw [first] at outcome
      have rest := ih (s + 1) q outcome (by omega)
      rwa [Nat.succ_add_eq_add_succ] at rest

/-- What is known when the walks from the first `t` places have come to an end. -/
theorem explored_of_search (closed : Closed up n) {t : Nat} (le : t ≤ n) {p : Progress}
    (run : search up (List.range t) (.start n) = .ok p) : Explored up n t p := by
  have outcome := search_outcome closed t 0 _ .initial (by omega)
  rw [← List.range_eq_range', run] at outcome
  exact Nat.zero_add t ▸ outcome

theorem firstOnCycle?_outcome (closed : Closed up n) :
    match firstOnCycle? n up with
    | none => ∀ t < n, Ends up t
    | some c => Blamed up n c := by
  rw [firstOnCycle?]
  cases found : search up (List.range n) (.start n) with
  | error c =>
    have outcome := search_outcome closed n 0 _ .initial (Nat.le_of_eq (Nat.zero_add n))
    rwa [← List.range_eq_range', found] at outcome
  | ok p => exact (explored_of_search closed (Nat.le_refl n) found).ends

/-- What is to blame is met from the smallest place whose links do not end. -/
theorem Blamed.first_of_least {s c : Nat} (blamed : Blamed up n c) (stuck : ¬ Ends up s)
    (before : ∀ t < s, Ends up t) : FirstOnCycle up s c := by
  obtain ⟨t, -, stuck', before', first⟩ := blamed
  have same : s = t := by
    rcases Nat.lt_trichotomy s t with lt | eq | gt
    · exact absurd (before' s lt) stuck
    · exact eq
    · exact absurd (before t gt) stuck'
  exact same ▸ first

theorem Blamed.unique {c d : Nat} (hc : Blamed up n c) (hd : Blamed up n d) : c = d := by
  obtain ⟨s, -, stuck, before, first⟩ := hc
  exact first.unique (hd.first_of_least stuck before)

/-- The search finds nothing just when all links end. -/
theorem firstOnCycle?_eq_none_iff (closed : Closed up n) :
    firstOnCycle? n up = none ↔ ∀ t < n, Ends up t := by
  have outcome := firstOnCycle?_outcome closed
  cases h : firstOnCycle? n up with
  | none =>
    rw [h] at outcome
    exact ⟨fun _ => outcome, fun _ => rfl⟩
  | some c =>
    rw [h] at outcome
    obtain ⟨s, lt, stuck, -⟩ := outcome
    exact ⟨nofun, fun ends => absurd (ends s lt) stuck⟩

/-- The search finds the one place that is to blame. -/
theorem firstOnCycle?_eq_some_iff (closed : Closed up n) (c : Nat) :
    firstOnCycle? n up = some c ↔ Blamed up n c := by
  have outcome := firstOnCycle?_outcome closed
  cases h : firstOnCycle? n up with
  | none =>
    rw [h] at outcome
    refine ⟨nofun, ?_⟩
    rintro ⟨s, lt, stuck, -⟩
    exact absurd (outcome s lt) stuck
  | some d =>
    rw [h] at outcome
    refine ⟨?_, ?_⟩
    · rintro ⟨⟩
      exact outcome
    · exact fun blamed => by rw [outcome.unique blamed]

end RigidFrames.Links
