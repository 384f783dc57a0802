/-
  RigidFrames.Proofs.Query.Account

  What one access does to the counts.

  A model that keeps a memo hands in poses of frames that have none yet
  (`Novel`), so each count of the meter goes with a number of frames that are
  entered for the present version, a `Model.census`:

    * poses handed in, with all entered frames (`misses_census`);
    * look-ups that found their entry, with the entered roots: an evaluation
      that gets a pose has found an entry or entered its root (`hits_census`);
    * readings, with the entered frames that follow bodies: what was read is
      entered, or the evaluation has failed (`reads_census`).

  The balance of the last two is open while an evaluation is under way;
  `won` and `owed` say by how much.
-/
import RigidFrames.Proofs.Model.Ancestry
import RigidFrames.Proofs.Model.Representation
import RigidFrames.Proofs.Query.Entries
import Mathlib.Data.Finset.Card
import Mathlib.Data.Finset.Range

namespace RigidFrames

open Links Model

variable {α : Type} {m : Model α}

namespace Model

/-- The numbers of the frames. -/
def roster (m : Model α) : Finset FrameId :=
  (Finset.range m.size).image FrameId.mk

/-- The frame hangs on no other. -/
def isRoot (m : Model α) (i : FrameId) : Bool :=
  (m.parent? i).isNone

/-- How many frames of a kind have an entry for the version. -/
def census (m : Model α) (kind : FrameId → Bool) (μ : Meter α) (t : Stamp) : Nat :=
  (m.roster.filter fun i => kind i = true ∧ μ.Entered t i).card

theorem mem_roster {i : FrameId} : i ∈ m.roster ↔ i.index < m.size := by
  rw [roster, Finset.mem_image]
  refine ⟨?_, ?_⟩
  · rintro ⟨k, mem, rfl⟩
    exact Finset.mem_range.1 mem
  · exact fun lt => ⟨i.index, Finset.mem_range.2 lt, rfl⟩

theorem isRoot_of_follows {i : FrameId} (follows : m.follows i = true) : m.isRoot i = true := by
  obtain ⟨name, body, found⟩ := follows_iff.1 follows
  rw [isRoot, parent?_of_frame? found]
  rfl

end Model

namespace Walk

variable [Scalar α] {s : State α} {w : Walk α} {μ : Meter α} {target i : FrameId}
  {pending : List (FrameId × Pose α)}

/-- 1 if the evaluation is about to hand in the pose of a frame of the kind. -/
def handing (kind : FrameId → Bool) : Walk α → Nat
  | store i _ _ => if kind i then 1 else 0
  | _ => 0

/-- 1 if the evaluation is sure of its pose and has not entered the root for it just now. -/
def won (m : Model α) : Walk α → Nat
  | store i _ _ => if m.isRoot i then 0 else 1
  | done (.ok _) => 1
  | _ => 0

/-- 1 if the evaluation has read a body and no entry came of it. -/
def owed (m : Model α) : Walk α → Nat
  | store i _ _ => if m.follows i then 1 else 0
  | done (.error fault) => if fault.kind = .degenerate then 1 else 0
  | _ => 0

/-- Whatever the evaluation will hand in has no entry yet. -/
def Novel (μ : Meter α) (t : Stamp) : Walk α → Prop
  | look _ pending => ∀ e ∈ pending.head?, ¬ μ.Entered t e.1
  | read i _ _ _ | store i _ _ => ¬ μ.Entered t i
  | done _ => True

-- ============================================================================
-- What a look comes to
-- ============================================================================

/-- With a memo, a look finds an entry, which is counted, or there is none. -/
theorem step_look_memoised (memoise : m.settings.memoise = true) (s : State α) (i : FrameId)
    (pending : List (FrameId × Pose α)) (μ : Meter α) :
    (∃ x, (step m s (.look i pending) μ).1 = descend x pending ∧
      (step m s (.look i pending) μ).2.memo.hits = μ.memo.hits + 1 ∧
      (step m s (.look i pending) μ).2.reads = μ.reads) ∨
    (¬ μ.Entered s.stamp i ∧ step m s (.look i pending) μ = (climb m i pending, μ)) := by
  cases found : μ.memo.lookup? i s.stamp with
  | some x =>
    have fetched : fetch m s i μ =
        (some x, { μ with memo := { μ.memo with hits := μ.memo.hits + 1 } }) := by
      rw [fetch, if_pos memoise, PoseMemo.fetch, found]
    left
    rw [step, fetched]
    exact ⟨x, rfl, rfl, rfl⟩
  | none =>
    have fetched : fetch m s i μ = (none, μ) := by
      rw [fetch, if_pos memoise, PoseMemo.fetch, found]
    right
    refine ⟨?_, by rw [step, fetched]⟩
    rw [Meter.Entered, found]
    exact Bool.false_ne_true

/-- A look changes no entry. -/
theorem entered_look (memoise : m.settings.memoise = true) (past : μ.Past s.stamp)
    (j : FrameId) :
    (step m s (.look i pending) μ).2.Entered s.stamp j ↔ μ.Entered s.stamp j := by
  rw [entered_step memoise past j]
  exact or_iff_left nofun

-- ============================================================================
-- Only new poses are handed in
-- ============================================================================

theorem novel_climb (new : ¬ μ.Entered s.stamp i) : Novel μ s.stamp (climb m i pending) := by
  rw [climb]
  split
  · trivial
  · intro e mem
    cases mem
    exact new
  · exact new
  · exact new

theorem novel_receive (new : ¬ μ.Entered s.stamp i) (name : String) (body : BodyIndex)
    (read : Except (Fault α) (Pose α)) :
    Novel μ s.stamp (receive i name body pending read) := by
  cases read with
  | error fault => trivial
  | ok x =>
    rw [receive]
    split
    · exact new
    · trivial

theorem Novel.step {wf : m.WellFormed} (memoise : m.settings.memoise = true)
    (past : μ.Past s.stamp) (closed : Meter.Closed m μ s.stamp) (correct : Correct wf s target w)
    (novel : Novel μ s.stamp w) : Novel (step m s w μ).2 s.stamp (step m s w μ).1 := by
  cases correct with
  | done right => trivial
  | read climbed found => exact novel_receive novel _ _ _
  | @look i pending climbed =>
    rcases step_look_memoised memoise s i pending μ with ⟨x, down, -, -⟩ | ⟨new, up⟩
    · rw [down]
      cases climbed with
      | start => trivial
      | up climbed link =>
        have below := novel _ rfl
        exact fun entered => below ((entered_look memoise past _).1 entered)
    · rw [up]
      exact novel_climb new
  | @store i x pending climbed pose =>
    cases climbed with
    | start => trivial
    | @up j _ offset pending climbed link =>
      -- What hangs on a frame without an entry has none, and is another frame.
      have parent := parent?_of_link? link
      intro entered
      rcases (entered_step memoise past j).1 entered with old | ⟨y, others, eq⟩
      · exact novel (closed j i parent old)
      · cases eq
        have deeper := wf.depth_link parent
        omega

-- ============================================================================
-- Poses handed in
-- ============================================================================

/-- The census grows by the frame that is handed in. -/
theorem census_step (memoise : m.settings.memoise = true) (past : μ.Past s.stamp)
    (within : w.Within m) (novel : Novel μ s.stamp w) (kind : FrameId → Bool) :
    m.census kind (step m s w μ).2 s.stamp = m.census kind μ s.stamp + handing kind w := by
  have entered := fun j => entered_step (m := m) (s := s) (w := w) (μ := μ) memoise past j
  by_cases stores : ∃ i x pending, w = .store i x pending
  · obtain ⟨i, x, pending, rfl⟩ := stores
    have now (j : FrameId) : (step m s (.store i x pending) μ).2.Entered s.stamp j ↔
        μ.Entered s.stamp j ∨ j = i := by
      rw [entered j]
      refine or_congr_right ⟨?_, ?_⟩
      · rintro ⟨y, others, eq⟩
        cases eq
        rfl
      · rintro rfl
        exact ⟨x, pending, rfl⟩
    have here : i ∈ m.roster := mem_roster.2 within.1
    simp only [census, now, handing]
    cases same : kind i with
    | true =>
      have more : (m.roster.filter fun j => kind j = true ∧ (μ.Entered s.stamp j ∨ j = i)) =
          insert i (m.roster.filter fun j => kind j = true ∧ μ.Entered s.stamp j) := by
        ext j
        by_cases eq : j = i
        · subst eq
          simp [here, same]
        · simp [eq]
      have absent : i ∉ m.roster.filter fun j => kind j = true ∧ μ.Entered s.stamp j := by
        intro mem
        exact novel (Finset.mem_filter.1 mem).2.2
      rw [more, Finset.card_insert_of_notMem absent, if_pos rfl]
    | false =>
      rw [if_neg Bool.false_ne_true, Nat.add_zero]
      congr 1
      apply Finset.filter_congr
      intro j _
      by_cases eq : j = i
      · subst eq
        simp [same]
      · simp [eq]
  · have idle : handing kind w = 0 := by
      cases w with
      | look | read | done => rfl
      | store i x pending => exact absurd ⟨i, x, pending, rfl⟩ stores
    rw [idle, Nat.add_zero, census, census]
    congr 1
    apply Finset.filter_congr
    intro j _
    rw [entered j, or_iff_left fun ⟨x, pending, eq⟩ => stores ⟨j, x, pending, eq⟩]

/-- Every pose that is handed in enters a frame. -/
theorem misses_census (memoise : m.settings.memoise = true) (past : μ.Past s.stamp)
    (within : w.Within m) (novel : Novel μ s.stamp w) :
    (step m s w μ).2.memo.misses + m.census (fun _ => true) μ s.stamp =
      μ.memo.misses + m.census (fun _ => true) (step m s w μ).2 s.stamp := by
  have handed : handing (fun _ => true) w = cost 0 0 w := by cases w <;> rfl
  rw [misses_step memoise, census_step memoise past within novel, handed]
  omega

/-- A frame that is not entered has the entry that it had, of an older version or none. -/
theorem entries_step (memoise : m.settings.memoise = true) (past : μ.Past s.stamp) {j : FrameId}
    (not_now : ¬ (step m s w μ).2.Entered s.stamp j) :
    (step m s w μ).2.memo.entries[j]? = μ.memo.entries[j]? := by
  rcases step_memo m s w μ with ⟨i, x, pending, rfl, kept⟩ | ⟨-, same, -⟩
  · rw [entered_step memoise past j, not_or] at not_now
    have other : i ≠ j := by
      rintro rfl
      exact not_now.2 ⟨x, pending, rfl⟩
    rw [kept, keep, if_pos memoise, PoseMemo.store_getElem?, if_neg fun both => other both.1]
  · rw [same]

-- ============================================================================
-- Look-ups that found their entry
-- ============================================================================

theorem won_climb (m : Model α) (i : FrameId) (pending : List (FrameId × Pose α)) :
    won m (climb m i pending) = 0 := by
  rw [climb]
  split
  · rfl
  · rfl
  · next found =>
    have root : m.isRoot i = true := by
      rw [isRoot, parent?_of_frame? found]
      rfl
    rw [won, if_pos root]
  · rfl

theorem won_receive {name : String} {body : BodyIndex}
    (found : m.frame? i = some ⟨name, .grounded body⟩) (read : Except (Fault α) (Pose α)) :
    won m (receive i name body pending read) = 0 := by
  cases read with
  | error fault => rfl
  | ok x =>
    rw [receive]
    split
    · rw [won, if_pos (isRoot_of_follows (follows_iff.2 ⟨name, body, found⟩))]
    · rfl

theorem Climbed.won_descend (climbed : Climbed m target i pending) (x : Pose α) :
    won m (Walk.descend x pending) = 1 := by
  cases climbed with
  | start => rfl
  | up climbed link =>
    have hung := parent?_of_link? link
    rw [Walk.descend, won, isRoot, hung]
    rfl

/-- An access that finds an entry, or enters a root, makes sure of a pose. -/
theorem hits_census {wf : m.WellFormed} (memoise : m.settings.memoise = true)
    (past : μ.Past s.stamp) (within : w.Within m) (novel : Novel μ s.stamp w)
    (correct : Correct wf s target w) :
    (step m s w μ).2.memo.hits + m.census m.isRoot (step m s w μ).2 s.stamp + won m w =
      μ.memo.hits + m.census m.isRoot μ s.stamp + won m (step m s w μ).1 := by
  rw [census_step memoise past within novel]
  cases correct with
  | done right => rfl
  | @read i name body pending climbed found =>
    have unsure : won m (step m s (.read i name body pending) μ).1 = 0 := won_receive found _
    rw [unsure]
    rfl
  | @look i pending climbed =>
    rcases step_look_memoised memoise s i pending μ with ⟨x, down, hits, -⟩ | ⟨-, up⟩
    · rw [down, hits, climbed.won_descend]
      simp only [handing, won]
      omega
    · rw [up, won_climb]
      rfl
  | @store i x pending climbed pose =>
    have hits : (step m s (.store i x pending) μ).2.memo.hits = μ.memo.hits := by
      show (keep m s i x μ).memo.hits = μ.memo.hits
      rw [keep, if_pos memoise]
      exact PoseMemo.store_hits μ.memo i s.stamp x
    have sure : won m (step m s (.store i x pending) μ).1 = 1 := climbed.won_descend x
    rw [hits, sure]
    simp only [handing, won]
    split <;> omega

-- ============================================================================
-- Readings
-- ============================================================================

theorem owed_climb (m : Model α) (i : FrameId) (pending : List (FrameId × Pose α)) :
    owed m (climb m i pending) = 0 := by
  rw [climb]
  split
  · rfl
  · rfl
  · next found =>
    have still : m.follows i = false := by
      rw [follows, found]
      rfl
    rw [owed, still]
    rfl
  · rfl

/-- A body that is there is read for a new entry or for nothing. -/
theorem owed_receive {name : String} {body : BodyIndex}
    (found : m.frame? i = some ⟨name, .grounded body⟩) (x : Pose α) :
    owed m (receive i name body pending (.ok x)) = 1 := by
  rw [receive]
  split
  · rw [owed, if_pos (follows_iff.2 ⟨name, body, found⟩)]
  · rfl

theorem Climbed.owed_descend (climbed : Climbed m target i pending) (x : Pose α) :
    owed m (Walk.descend x pending) = 0 := by
  cases climbed with
  | start => rfl
  | @up j _ offset pending climbed link =>
    obtain ⟨name, found⟩ := link?_eq_some_iff.1 link
    have still : m.follows j = false := by
      rw [follows, found]
      rfl
    rw [Walk.descend, owed, still]
    rfl

/-- Each reading enters a frame that follows a body, or goes into a failure. -/
theorem reads_census {wf : m.WellFormed} (memoise : m.settings.memoise = true)
    (past : μ.Past s.stamp) (within : w.Within m) (novel : Novel μ s.stamp w)
    (supplied : m.Supplied s) (correct : Correct wf s target w) :
    (step m s w μ).2.reads + m.census m.follows μ s.stamp + owed m w =
      μ.reads + m.census m.follows (step m s w μ).2 s.stamp + owed m (step m s w μ).1 := by
  rw [census_step memoise past within novel]
  cases correct with
  | done right => rfl
  | @read i name body pending climbed found =>
    obtain ⟨x, read⟩ := supplied found
    have used : owed m (step m s (.read i name body pending) μ).1 = 1 := by
      show owed m (receive i name body pending (s.bodyPose body)) = 1
      rw [read]
      exact owed_receive found x
    rw [used]
    show μ.reads + 1 + _ + 0 = _
    simp only [handing]
    omega
  | @look i pending climbed =>
    rcases step_look_memoised memoise s i pending μ with ⟨x, down, -, reads⟩ | ⟨-, up⟩
    · rw [down, reads, climbed.owed_descend]
      rfl
    · rw [up, owed_climb]
      rfl
  | @store i x pending climbed pose =>
    have reads : (step m s (.store i x pending) μ).2.reads = μ.reads := by
      show (keep m s i x μ).reads = μ.reads
      rw [keep, if_pos memoise]
    have settled : owed m (step m s (.store i x pending) μ).1 = 0 := climbed.owed_descend x
    rw [reads, settled]
    exact Nat.add_assoc _ _ _

end Walk
end RigidFrames
