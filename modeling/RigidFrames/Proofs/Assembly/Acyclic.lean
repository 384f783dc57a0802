/-
  RigidFrames.Proofs.Assembly.Acyclic

  The check for cycles, with its verdict and its work.

  Whatever the links among the frames are, the check comes to an end.  It
  blames the first frame on a cycle that is met from the first frame whose
  chain does not end, and it looks at no more than twice as many marks as
  there are frames.  Between two walks its path is empty, and just the frames
  are done that the walks so far have met (`checkAcyclic_blames`).
-/
import RigidFrames.Proofs.Assembly.Freezing
import RigidFrames.Proofs.Links.Rounds

namespace RigidFrames

open Links

variable {α : Type}

/-- Links that are frames' numbers stay among the frames. -/
theorem closed_of_parents {frames : Array (Frame FrameId α)}
    (inside : ∀ f ∈ frames, ∀ p, f.mount.parent? = some p → p.index < frames.size) :
    Closed (parentIndex? frames) frames.size := by
  intro i j up
  obtain ⟨p, link, rfl⟩ := Option.map_eq_some_iff.1 up
  obtain ⟨f, found, parent⟩ := Option.bind_eq_some_iff.1 link
  exact inside f (Array.mem_of_getElem? found) p parent

/-- The check passes just when every chain of parents ends.  If not, then from the first frame whose
    chain does not end it blames the first frame on a cycle.  The search that it makes can go in one
    way only and comes to an end; it puts no frame on the path twice and looks at most twice per
    frame.  When the walks from the first `t` frames have come to an end, the search goes on with
    an empty path; just the frames are done that these have above them, and none is on the path. -/
theorem checkAcyclic_blames {frames : Array (Frame FrameId α)}
    (inside : ∀ f ∈ frames, ∀ p, f.mount.parent? = some p → p.index < frames.size) :
    let up := parentIndex? frames
    let n := frames.size
    (checkAcyclic frames = .ok () ↔ ∀ i < n, Ends up i) ∧
    (∀ s < n, ¬ Ends up s → (∀ t < s, Ends up t) →
      ∃ c f, FirstOnCycle up s c ∧ (OnCycle up s → c = s) ∧ frames[c]? = some f ∧
        checkAcyclic frames = .error (.structural f.name .cycle)) ∧
    (∃ passed looks,
      (∀ passed' looks' out, Rounds up (.start n) (List.range n) passed' looks' out ↔
        passed' = passed ∧ looks' = looks ∧ out = search up (List.range n) (.start n)) ∧
      passed.Nodup ∧ looks ≤ 2 * n) ∧
    ∀ t ≤ n, ∀ p, search up (List.range t) (.start n) = .ok p →
      search up (List.range n) (.start n) = search up (List.range' t (n - t)) p ∧ p.path = #[] ∧
        ∀ i : Nat, p.marks[i]? ≠ some .onPath ∧
          (p.marks[i]? = some .done ↔ ∃ s < t, Above up s i) := by
  intro up n
  have closed : Closed up n := closed_of_parents inside
  refine ⟨checkAcyclic_eq_ok_iff closed, fun s lt stuck before => ?_, ?_, fun t le p run => ?_⟩
  · cases verdict : checkAcyclic frames with
    | ok =>
      have ends := (checkAcyclic_eq_ok_iff closed).1 verdict
      exact absurd (ends s lt) stuck
    | error fault =>
      obtain ⟨c, f, blamed, found, rfl⟩ := (checkAcyclic_eq_error_iff closed fault).1 verdict
      have first : FirstOnCycle up s c := blamed.first_of_least stuck before
      exact ⟨c, f, first, fun cycle => first.unique cycle.first, found, rfl⟩
  · obtain ⟨passed, looks, run⟩ := exists_rounds closed (p := .start n) Array.size_replicate
      fun start mem => List.mem_range.1 mem
    refine ⟨passed, looks, fun passed' looks' out => ⟨fun run' => ?_, ?_⟩, run.free.1, run.looks_le⟩
    · obtain ⟨rfl, rfl⟩ := run.unique run'
      exact ⟨rfl, rfl, run'.eq_search⟩
    · rintro ⟨rfl, rfl, rfl⟩
      exact run
  · have explored : Explored up n t p := explored_of_search closed le run
    exact ⟨search_resumes le run, explored.path, fun i => ⟨explored.free i, explored.done i⟩⟩

/-- Frames of which one hangs on the ring of the two others. -/
def ringFrames : Array (Frame FrameId Float) :=
  #[⟨groundName, .ground⟩, ⟨"tail", .attached ⟨3⟩ 1⟩, ⟨"left", .attached ⟨3⟩ 1⟩,
    ⟨"right", .attached ⟨2⟩ 1⟩]

/-- From the tail the ring is met at its right side, and that is blamed. -/
theorem checkAcyclic_blames_right :
    (∀ f ∈ ringFrames, ∀ p, f.mount.parent? = some p → p.index < ringFrames.size) ∧
    checkAcyclic ringFrames = .error (.structural "right" .cycle) := by
  have inside : ∀ f ∈ ringFrames, ∀ p, f.mount.parent? = some p → p.index < ringFrames.size := by
    intro f mem p parent
    simp only [ringFrames, List.mem_toArray, List.mem_cons, List.not_mem_nil, or_false] at mem
    rcases mem with rfl | rfl | rfl | rfl <;> cases parent <;> decide
  obtain ⟨-, blames, -⟩ := checkAcyclic_blames inside
  have blamed : Blamed (parentIndex? ringFrames) ringFrames.size 3 :=
    (firstOnCycle?_eq_some_iff (closed_of_parents inside) 3).1 (by decide +kernel)
  obtain ⟨s, lt, stuck, before, first⟩ := blamed
  obtain ⟨c, f, first', -, found, verdict⟩ := blames s lt stuck before
  obtain rfl : 3 = c := first.unique first'
  cases found
  exact ⟨inside, verdict⟩

end RigidFrames
