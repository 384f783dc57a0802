/-
  RigidFrames.Proofs.Links.Rounds

  The search for a cycle, look by look.

  `Looks` is a walk with a rule for each thing that a look at a mark can come
  to, the places that it passes and the number of its looks; `Rounds` strings
  the walks together as the search does, and clears the path behind each.
  Neither can go in two ways, and both come to what the search comes to
  (`Looks.eq_walk`, `Rounds.eq_search`).  There is no rule for a place without
  a mark; when the links stay among the places none is needed
  (`exists_rounds`).

  A walk passes places that nobody has visited (`Looks.free`), and all of its
  looks but one pass a place (`Looks.count`).  So a search among `n` places
  passes each of them at most once and looks at most `2 * n` times
  (`Rounds.free`, `Rounds.looks_le`).
-/
import RigidFrames.Proofs.Links.Search

namespace RigidFrames.Links

variable {up : Nat → Option Nat} {n : Nat}

/-- A walk that goes on at `next` passes these places, the first of them first, and looks at so many
    marks; then it leaves this trail behind. -/
inductive Looks (up : Nat → Option Nat) :
    Progress → Option Nat → List Nat → Nat → Trail → Prop
  | root {p : Progress} : Looks up p none [] 0 ⟨p, none⟩
  | pass {p : Progress} {here k : Nat} {passed : List Nat} {trail : Trail}
      (free : p.marks[here]? = some .unvisited)
      (rest : Looks up (p.pass here) (up here) passed k trail) :
      Looks up p (some here) (here :: passed) (k + 1) trail
  | own {p : Progress} {here : Nat} (met : p.marks[here]? = some .onPath) :
      Looks up p (some here) [] 1 ⟨p, some here⟩
  | settled {p : Progress} {here : Nat} (met : p.marks[here]? = some .done) :
      Looks up p (some here) [] 1 ⟨p, none⟩

/-- The walks from each of the starts in turn, up to the first that comes back to its own path, pass
    these places and look at so many marks; then the search ends like this. -/
inductive Rounds (up : Nat → Option Nat) :
    Progress → List Nat → List Nat → Nat → Except Nat Progress → Prop
  | finished {p : Progress} : Rounds up p [] [] 0 (.ok p)
  | stopped {p : Progress} {start k c : Nat} {starts passed : List Nat} {trail : Trail}
      (looks : Looks up p (some start) passed k trail) (back : trail.cycle? = some c) :
      Rounds up p (start :: starts) passed k (.error c)
  | ended {p : Progress} {start k l : Nat} {starts passed more : List Nat} {trail : Trail}
      {out : Except Nat Progress} (looks : Looks up p (some start) passed k trail)
      (arrived : trail.cycle? = none) (rest : Rounds up trail.progress.settle starts more l out) :
      Rounds up p (start :: starts) (passed ++ more) (k + l) out

-- ============================================================================
-- The walks are those of the search
-- ============================================================================

section

variable {p : Progress} {next : Option Nat} {passed passed' : List Nat} {k k' : Nat}
  {trail trail' : Trail}

theorem Looks.eq_walk (looks : Looks up p next passed k trail) : trail = walk up p next := by
  induction looks with
  | root => exact walk_none.symm
  | pass free _ ih => rw [ih, walk_of_unvisited free]
  | own met => rw [walk_of_onPath met]
  | settled met => rw [walk_of_done met]

theorem Looks.unique (looks : Looks up p next passed k trail)
    (looks' : Looks up p next passed' k' trail') : passed = passed' ∧ k = k' := by
  induction looks generalizing passed' k' trail' with
  | root => cases looks'; exact ⟨rfl, rfl⟩
  | pass free _ ih =>
    cases looks' with
    | pass _ rest =>
      obtain ⟨rfl, rfl⟩ := ih rest
      exact ⟨rfl, rfl⟩
    | own met | settled met => rw [free] at met; cases met
  | own met | settled met =>
    cases looks' with
    | pass free => rw [met] at free; cases free
    | own | settled => exact ⟨rfl, rfl⟩

end

section

variable {p : Progress} {starts passed passed' : List Nat} {k k' : Nat}
  {out out' : Except Nat Progress}

theorem Rounds.eq_search (run : Rounds up p starts passed k out) : out = search up starts p := by
  induction run with
  | finished => rw [search_nil]
  | stopped looks back =>
    rw [search_cons, walkFrom, ← looks.eq_walk, back]
    rfl
  | ended looks arrived _ ih =>
    rw [ih, search_cons, walkFrom, ← looks.eq_walk, arrived]
    rfl

theorem Rounds.unique (run : Rounds up p starts passed k out)
    (run' : Rounds up p starts passed' k' out') : passed = passed' ∧ k = k' := by
  induction run generalizing passed' k' out' with
  | finished => cases run'; exact ⟨rfl, rfl⟩
  | stopped looks back =>
    cases run' with
    | stopped looks' => exact looks.unique looks'
    | ended looks' arrived =>
      rw [looks.eq_walk, ← looks'.eq_walk, arrived] at back
      cases back
  | ended looks arrived _ ih =>
    cases run' with
    | stopped looks' back =>
      rw [looks.eq_walk, ← looks'.eq_walk, back] at arrived
      cases arrived
    | ended looks' _ rest =>
      obtain ⟨rfl, rfl⟩ := looks.unique looks'
      rw [looks.eq_walk, ← looks'.eq_walk] at ih
      obtain ⟨rfl, rfl⟩ := ih rest
      exact ⟨rfl, rfl⟩

end

/-- A walk that stays among the places goes by the rules. -/
theorem exists_looks (closed : Closed up n) {p : Progress} (size : p.marks.size = n)
    {next : Option Nat} (inside : ∀ i ∈ next, i < n) :
    ∃ passed k, Looks up p next passed k (walk up p next) := by
  fun_induction walk up p next with
  | case1 p => exact ⟨[], 0, .root⟩
  | case2 p here free ih =>
    obtain ⟨passed, k, rest⟩ := ih ((p.pass_size here).trans size) (closed here)
    exact ⟨here :: passed, k + 1, .pass free rest⟩
  | case3 p here own => exact ⟨[], 1, .own own⟩
  | case4 p here met => exact ⟨[], 1, .settled met⟩
  | case5 p here missing =>
    have lt : here < p.marks.size := size ▸ inside here rfl
    exact absurd missing (by simp [lt])

theorem Looks.size {p : Progress} {next : Option Nat} {passed : List Nat} {k : Nat} {trail : Trail}
    (looks : Looks up p next passed k trail) : trail.progress.marks.size = p.marks.size := by
  induction looks with
  | root | own | settled => rfl
  | @pass p here _ _ _ _ _ ih => exact ih.trans (p.pass_size here)

/-- The search goes by the rules. -/
theorem exists_rounds (closed : Closed up n) {p : Progress} (size : p.marks.size = n)
    {starts : List Nat} (inside : ∀ start ∈ starts, start < n) :
    ∃ passed k, Rounds up p starts passed k (search up starts p) := by
  induction starts generalizing p with
  | nil => exact ⟨[], 0, .finished⟩
  | cons start starts ih =>
    obtain ⟨first, later⟩ := List.forall_mem_cons.1 inside
    have inside : ∀ i ∈ some start, i < n := fun i eq => Option.some.inj eq ▸ first
    obtain ⟨passed, k, looks⟩ := exists_looks closed size inside
    rw [search_cons, walkFrom]
    cases back : (walk up p (some start)).cycle? with
    | some c => exact ⟨passed, k, .stopped looks back⟩
    | none =>
      have size' := ((Progress.settle_size _).trans looks.size).trans size
      obtain ⟨more, l, rest⟩ := ih size' later
      exact ⟨passed ++ more, k + l, .ended looks back rest⟩

-- ============================================================================
-- What the walks pass
-- ============================================================================

section

variable {p : Progress} {next : Option Nat} {passed : List Nat} {k : Nat} {trail : Trail}

/-- All looks of a walk but the last one pass a place. -/
theorem Looks.count (looks : Looks up p next passed k trail) : k ≤ passed.length + 1 := by
  induction looks with
  | root => exact Nat.zero_le _
  | pass _ _ ih => exact Nat.succ_le_succ ih
  | own | settled => exact Nat.le_refl 1

/-- The places passed are put on the path. -/
theorem Looks.path (looks : Looks up p next passed k trail) :
    trail.progress.path.toList = p.path.toList ++ passed := by
  induction looks with
  | root | own | settled => exact (List.append_nil _).symm
  | @pass p here _ _ _ _ _ ih => rw [ih, p.pass_path, List.append_assoc, List.singleton_append]

/-- A walk visits places, and never makes one unvisited. -/
theorem Looks.unvisited (looks : Looks up p next passed k trail) {i : Nat}
    (mark : trail.progress.marks[i]? = some .unvisited) : p.marks[i]? = some .unvisited := by
  induction looks with
  | root | own | settled => exact mark
  | pass free _ ih =>
    have later := ih mark
    rw [Progress.pass_getElem? (Array.getElem?_eq_some_iff.1 free).1] at later
    split at later
    · cases later
    · exact later

/-- A walk passes places that nobody has visited, and none of them twice. -/
theorem Looks.free (looks : Looks up p next passed k trail) :
    passed.Nodup ∧ ∀ i ∈ passed, p.marks[i]? = some .unvisited := by
  induction looks with
  | root | own | settled => exact ⟨List.nodup_nil, nofun⟩
  | @pass p here _ passed _ free _ ih =>
    have later (i : Nat) (mem : i ∈ passed) : i ≠ here ∧ p.marks[i]? = some .unvisited := by
      have mark := ih.2 i mem
      rw [Progress.pass_getElem? (Array.getElem?_eq_some_iff.1 free).1] at mark
      split at mark
      · cases mark
      · next other => exact ⟨other, mark⟩
    exact ⟨List.nodup_cons.2 ⟨fun mem => (later here mem).1 rfl, ih.1⟩,
      List.forall_mem_cons.2 ⟨free, fun i mem => (later i mem).2⟩⟩

end

section

variable {p : Progress} {starts passed : List Nat} {k : Nat} {out : Except Nat Progress}

/-- A search passes places that nobody has visited, and none of them twice. -/
theorem Rounds.free (run : Rounds up p starts passed k out) :
    passed.Nodup ∧ ∀ i ∈ passed, p.marks[i]? = some .unvisited := by
  induction run with
  | finished => exact ⟨List.nodup_nil, nofun⟩
  | stopped looks => exact looks.free
  | @ended p _ _ _ _ passed more trail _ looks _ _ ih =>
    -- What later walks pass is unvisited when the path of this one is cleared, so it was not on it.
    have later (i : Nat) (mem : i ∈ more) : i ∉ passed ∧ p.marks[i]? = some .unvisited := by
      have mark := ih.2 i mem
      rw [Progress.settle_getElem?] at mark
      split at mark
      · obtain ⟨_, -, done⟩ := Option.map_eq_some_iff.1 mark
        cases done
      · next off =>
        rw [← Array.mem_toList_iff, looks.path] at off
        exact ⟨fun mem => off (List.mem_append_right _ mem), looks.unvisited mark⟩
    refine ⟨List.nodup_append.2 ⟨looks.free.1, ih.1, fun i here j there eq => ?_⟩,
      List.forall_mem_append.2 ⟨looks.free.2, fun i mem => (later i mem).2⟩⟩
    exact (later j there).1 (eq ▸ here)

/-- Each walk looks in vain at most once. -/
theorem Rounds.count (run : Rounds up p starts passed k out) :
    k ≤ passed.length + starts.length := by
  induction run with
  | finished => exact Nat.zero_le _
  | stopped looks =>
    have one := looks.count
    rw [List.length_cons]
    omega
  | ended looks _ _ ih =>
    have one := looks.count
    rw [List.length_append, List.length_cons]
    omega

/-- The whole search looks at most twice as often as there are places. -/
theorem Rounds.looks_le (run : Rounds up (.start n) (List.range n) passed k out) : k ≤ 2 * n := by
  obtain ⟨nodup, free⟩ := run.free
  have places : ∀ i ∈ passed, i < n := by
    intro i mem
    obtain ⟨lt, -⟩ := Array.getElem?_eq_some_iff.1 (free i mem)
    rwa [Progress.start, Array.size_replicate] at lt
  have once : passed.length ≤ n := length_le_of_nodup nodup places
  have looks := run.count
  rw [List.length_range] at looks
  omega

end

end RigidFrames.Links
