/-
  RigidFrames.Proofs.Snapshot.Interleaving

  Many evaluations at once on one unchanged snapshot.

  A `Crowd` is some evaluations and the meter that they share; a schedule says
  whose turn it is, one access at a time.  Whatever the schedule, each
  evaluation answers what it would answer alone on an empty memo, and the memo
  grows from the roots downwards.  In the end it has gained just the chains of
  the frames that could be evaluated.

  The counts need one more idea.  Two evaluations may both compute a frame, so
  the poses handed in are more than the frames gained; but each evaluation
  hands in no more than its own chain, and `due` is what it may still hand in.
-/
import RigidFrames.Proofs.Snapshot.Run
import Mathlib.Algebra.BigOperators.Fin

namespace RigidFrames

open Links Walk

variable {α : Type}

/-- Evaluations under way at the same time, and the meter that they share. -/
structure Crowd (n : Nat) (α : Type) where
  walks : Fin n → Walk α
  meter : Meter α

namespace Crowd

variable {n : Nat}

/-- Everybody is about to begin. -/
def start (targets : Fin n → FrameId) (μ : Meter α) : Crowd n α :=
  ⟨fun k => .look (targets k) [], μ⟩

/-- Evaluation `k` makes its next access. -/
def step [Scalar α] (m : Model α) (s : State α) (c : Crowd n α) (k : Fin n) : Crowd n α :=
  ⟨Function.update c.walks k (Walk.step m s (c.walks k) c.meter).1,
    (Walk.step m s (c.walks k) c.meter).2⟩

/-- The evaluations make their accesses in the order of the schedule. -/
def run [Scalar α] (m : Model α) (s : State α) (c : Crowd n α) (schedule : List (Fin n)) :
    Crowd n α :=
  schedule.foldl (step m s) c

/-- Evaluation `k` has ended with a pose. -/
def succeeded (c : Crowd n α) (k : Fin n) : Bool :=
  match c.walks k with
  | .done (.ok _) => true
  | _ => false

/-- All evaluations have ended. -/
def Finished (c : Crowd n α) : Prop :=
  ∀ k, ∃ answer, c.walks k = .done answer

end Crowd

/-- The frames that have an entry for the version afterwards and had none before. -/
def Model.gained (m : Model α) (t : Stamp) (before after : Meter α) : Finset Nat :=
  (Finset.range m.size).filter fun k => after.Entered t ⟨k⟩ ∧ ¬ before.Entered t ⟨k⟩

-- ============================================================================
-- What one access adds
-- ============================================================================

namespace Walk

variable [Scalar α] {m : Model α} {wf : m.WellFormed} {s : State α} {target i : FrameId}
  {w : Walk α} {μ : Meter α}

/-- How many poses the evaluation hands in from now on, at most. -/
def due (wf : m.WellFormed) (s : State α) (target : FrameId) (w : Walk α) : Nat :=
  if (wf.groundPose s target).isOk then left 0 0 m w else 0

theorem due_step (memoise : m.settings.memoise = true) (correct : Correct wf s target w) :
    (step m s w μ).2.memo.misses + due wf s target (step m s w μ).1 ≤
      μ.memo.misses + due wf s target w := by
  rw [misses_step memoise, due, due]
  by_cases ok : (wf.groundPose s target).isOk = true
  · rw [if_pos ok, if_pos ok]
    have spent := left_step 0 0 wf s w μ
    omega
  · -- Without a pose for the target nothing is ever handed in.
    have free : cost 0 0 w = 0 := by
      cases w with
      | look | read | done => rfl
      | store i x pending => exact absurd correct.store_inv.1 ok
    rw [if_neg ok, if_neg ok, free]

/-- An access gains one frame at most, and only by handing in a pose. -/
theorem gained_step (memoise : m.settings.memoise = true) (past : μ.Past s.stamp)
    (before : Meter α) (w : Walk α) :
    (m.gained s.stamp before (step m s w μ).2).card ≤
      (m.gained s.stamp before μ).card + cost 0 0 w := by
  have entered := fun j => entered_step (w := w) (s := s) memoise past j
  by_cases stores : ∃ i x pending, w = .store i x pending
  · obtain ⟨i, x, pending, rfl⟩ := stores
    have inside : m.gained s.stamp before (step m s (.store i x pending) μ).2 ⊆
        insert i.index (m.gained s.stamp before μ) := by
      intro k mem
      rw [Model.gained, Finset.mem_filter] at mem
      obtain ⟨lt, now, new⟩ := mem
      rw [Finset.mem_insert]
      rcases (entered ⟨k⟩).1 now with old | ⟨y, others, eq⟩
      · right
        rw [Model.gained, Finset.mem_filter]
        exact ⟨lt, old, new⟩
      · left
        cases eq
        rfl
    calc (m.gained s.stamp before (step m s (.store i x pending) μ).2).card
        ≤ (insert i.index (m.gained s.stamp before μ)).card := Finset.card_le_card inside
      _ ≤ (m.gained s.stamp before μ).card + 1 := Finset.card_insert_le _ _
  · have same : m.gained s.stamp before (step m s w μ).2 = m.gained s.stamp before μ := by
      apply Finset.filter_congr
      intro k _
      have unmoved : (step m s w μ).2.Entered s.stamp ⟨k⟩ ↔ μ.Entered s.stamp ⟨k⟩ := by
        rw [entered ⟨k⟩]
        apply or_iff_left
        rintro ⟨x, pending, eq⟩
        exact stores ⟨_, x, pending, eq⟩
      rw [unmoved]
    rw [same]
    exact Nat.le_add_right _ _

end Walk

-- ============================================================================
-- Every schedule
-- ============================================================================

/-- A sum in which one term has changed. -/
theorem sum_change {n : Nat} {f g : Fin n → Nat} (k : Fin n) (same : ∀ j, j ≠ k → g j = f j) :
    ∑ j, g j + f k = ∑ j, f j + g k := by
  have others : ∑ j ∈ Finset.univ.erase k, g j = ∑ j ∈ Finset.univ.erase k, f j :=
    Finset.sum_congr rfl fun j mem => same j (Finset.ne_of_mem_erase mem)
  rw [← Finset.add_sum_erase _ f (Finset.mem_univ k),
    ← Finset.add_sum_erase _ g (Finset.mem_univ k), others]
  omega

namespace Crowd

variable [Scalar α] {n : Nat} {m : Model α}

theorem step_walks_self (s : State α) (c : Crowd n α) (k : Fin n) :
    (c.step m s k).walks k = (Walk.step m s (c.walks k) c.meter).1 :=
  Function.update_self ..

theorem step_walks_of_ne (s : State α) (c : Crowd n α) {j k : Fin n} (idle : j ≠ k) :
    (c.step m s k).walks j = c.walks j :=
  Function.update_of_ne idle ..

/-- What holds at every moment, for evaluations of `targets` that found the meter `before`. -/
structure Sound (wf : m.WellFormed) (view : Stamp → State α) (s : State α) (before : Meter α)
    (targets : Fin n → FrameId) (c : Crowd n α) : Prop where
  shared : Shared wf view s c.meter
  engaged : ∀ k, Engaged wf s c.meter (targets k) (c.walks k)
  kept : ∀ i, before.Entered s.stamp i → c.meter.Entered s.stamp i
  only : ∀ i, c.meter.Entered s.stamp i → before.Entered s.stamp i ∨
    ∃ k, (wf.groundPose s (targets k)).isOk = true ∧ Above m.parent? (targets k) i
  lower : before.memo.misses + (m.gained s.stamp before c.meter).card ≤ c.meter.memo.misses
  upper : c.meter.memo.misses + ∑ k, due wf s (targets k) (c.walks k) ≤
    before.memo.misses + ∑ k, due wf s (targets k) (.look (targets k) [])

section

variable {wf : m.WellFormed} {view : Stamp → State α} {s : State α} {before : Meter α}
  {targets : Fin n → FrameId}

/-- In a turn only evaluation `k` has less due, and by as much as it hands in. -/
theorem due_turn (memoise : m.settings.memoise = true) {c : Crowd n α} (k : Fin n)
    (correct : Correct wf s (targets k) (c.walks k)) :
    (c.step m s k).meter.memo.misses + ∑ j, due wf s (targets j) ((c.step m s k).walks j) ≤
      c.meter.memo.misses + ∑ j, due wf s (targets j) (c.walks j) := by
  have mine := due_step (μ := c.meter) memoise correct
  have others : ∀ j, j ≠ k →
      due wf s (targets j) ((c.step m s k).walks j) = due wf s (targets j) (c.walks j) := by
    intro j idle
    rw [step_walks_of_ne s c idle]
  have sums := sum_change k others
  rw [step_walks_self] at sums
  show (Walk.step m s (c.walks k) c.meter).2.memo.misses + _ ≤ _
  omega

theorem Sound.start (shared : Shared wf view s before) :
    Sound wf view s before targets (start targets before) where
  shared := shared
  engaged k := ⟨.look .start, trivial⟩
  kept i entered := entered
  only i entered := .inl entered
  lower := by
    have none : m.gained s.stamp before before = ∅ := by
      apply Finset.filter_false_of_mem
      exact fun k _ both => both.2 both.1
    show before.memo.misses + (m.gained s.stamp before before).card ≤ before.memo.misses
    rw [none, Finset.card_empty]
    omega
  upper := Nat.le_refl _

theorem Sound.step (memoise : m.settings.memoise = true) (here : view s.stamp = s)
    {c : Crowd n α} (sound : Sound wf view s before targets c) (k : Fin n) :
    Sound wf view s before targets (c.step m s k) := by
  obtain ⟨shared, engaged, kept, only, lower, upper⟩ := sound
  have entered := fun i => entered_step (w := c.walks k) memoise shared.past i
  refine ⟨shared.step memoise here (engaged k), fun j => ?_, fun i old => ?_, fun i now => ?_,
    ?_, ?_⟩
  · by_cases turn : j = k
    · subst turn
      rw [step_walks_self]
      exact (engaged j).step memoise shared here
    · rw [step_walks_of_ne s c turn]
      exact (engaged j).wait memoise shared (c.walks k)
  · exact (entered i).2 (.inl (kept i old))
  · rcases (entered i).1 now with old | ⟨x, pending, stores⟩
    · exact only i old
    · have correct := (engaged k).correct
      rw [stores] at correct
      exact .inr ⟨k, correct.store_inv⟩
  · have gain := gained_step memoise shared.past before (c.walks k)
    have spent := misses_step (s := s) (w := c.walks k) (μ := c.meter) memoise
    show before.memo.misses + _ ≤ (Walk.step m s (c.walks k) c.meter).2.memo.misses
    rw [spent]
    exact (Nat.add_le_add_left gain _).trans (by omega)
  · exact (due_turn memoise k (engaged k).correct).trans upper

theorem Sound.run (memoise : m.settings.memoise = true) (here : view s.stamp = s)
    {c : Crowd n α} (sound : Sound wf view s before targets c) (schedule : List (Fin n)) :
    Sound wf view s before targets (c.run m s schedule) := by
  induction schedule generalizing c with
  | nil => exact sound
  | cons k schedule ih => exact ih (sound.step memoise here k)

end

-- ============================================================================
-- The end
-- ============================================================================

/-- An evaluation that has its turn often enough ends, whatever the others do. -/
theorem left_run (wf : m.WellFormed) (s : State α) (c : Crowd n α) (schedule : List (Fin n))
    (k : Fin n) :
    left 1 1 m ((c.run m s schedule).walks k) ≤ left 1 1 m (c.walks k) - schedule.count k := by
  induction schedule generalizing c with
  | nil => exact Nat.le_refl _
  | cons j schedule ih =>
    have rest := ih (c.step m s j)
    show left 1 1 m (((c.step m s j).run m s schedule).walks k) ≤ _
    by_cases turn : k = j
    · subst turn
      have mine := left_pred wf s (c.walks k) c.meter
      rw [step_walks_self] at rest
      rw [List.count_cons_self]
      omega
    · rw [step_walks_of_ne s c turn] at rest
      rwa [List.count_cons_of_ne (Ne.symm turn)]

theorem run_finished (wf : m.WellFormed) (s : State α) {targets : Fin n → FrameId}
    (lt : ∀ k, (targets k).index < m.size) (μ : Meter α) {schedule : List (Fin n)}
    (fair : ∀ k, m.walkBound ≤ schedule.count k) :
    ((start targets μ).run m s schedule).Finished := by
  intro k
  have spent := left_run wf s (start targets μ) schedule k
  have most : left 1 1 m ((start targets μ).walks k) ≤ m.walkBound := wf.left_look_le (lt k)
  have enough := fair k
  exact done_of_left (m := m) (by omega)

section

variable {wf : m.WellFormed} {view : Stamp → State α} {s : State α} {before : Meter α}
  {targets : Fin n → FrameId} {c : Crowd n α}

theorem Sound.answer (sound : Sound wf view s before targets c) {k : Fin n}
    {answer : Except (Fault α) (Pose α)} (ended : c.walks k = .done answer) :
    answer = wf.groundPose s (targets k) := by
  have correct := (sound.engaged k).correct
  rw [ended] at correct
  cases correct with
  | done right => exact right

/-- Of finished evaluations just those have succeeded whose targets have a pose. -/
theorem Sound.succeeded_eq (sound : Sound wf view s before targets c) (finished : c.Finished)
    (k : Fin n) : c.succeeded k = (wf.groundPose s (targets k)).isOk := by
  obtain ⟨answer, ended⟩ := finished k
  rw [← sound.answer ended, succeeded, ended]
  cases answer <;> rfl

theorem Sound.entered_iff (sound : Sound wf view s before targets c) (finished : c.Finished)
    (i : FrameId) : c.meter.Entered s.stamp i ↔ before.Entered s.stamp i ∨
      ∃ k, c.succeeded k = true ∧ Above m.parent? (targets k) i := by
  refine ⟨?_, ?_⟩
  · intro entered
    rcases sound.only i entered with old | ⟨k, ok, above⟩
    · exact .inl old
    · exact .inr ⟨k, (sound.succeeded_eq finished k).trans ok, above⟩
  · rintro (old | ⟨k, ok, above⟩)
    · exact sound.kept i old
    · -- The target was entered with the answer, and what is above it before it.
      have anchored := (sound.engaged k).anchored
      have target : c.meter.Entered s.stamp (targets k) := by
        rw [succeeded] at ok
        split at ok
        · next ended =>
          rw [ended] at anchored
          exact anchored
        · cases ok
      exact sound.shared.closed.above above target

theorem Sound.misses_le (sound : Sound wf view s before targets c) (finished : c.Finished) :
    c.meter.memo.misses ≤
      before.memo.misses + ∑ k with c.succeeded k = true, (m.depth (targets k) + 1) := by
  have most := sound.upper
  have chains : ∑ k, due wf s (targets k) (.look (targets k) []) =
      ∑ k with c.succeeded k = true, (m.depth (targets k) + 1) := by
    rw [Finset.sum_filter]
    apply Finset.sum_congr rfl
    intro k _
    rw [due, sound.succeeded_eq finished k]
    simp only [left, List.length_nil, Nat.zero_add, Nat.one_mul, Nat.add_zero]
  rw [chains] at most
  omega

end

end Crowd

/-- Evaluations at the same time on one snapshot agree with evaluations one by one. -/
theorem interleavings_agree [Scalar α] {m : Model α} (frozen : m.Frozen)
    (memoise : m.settings.memoise = true) (actions : List (Action α))
    (consistent : ∀ a ∈ actions, a.Consistent m) {n : Nat} (targets : Fin n → Node α)
    (about : ∀ k, (targets k).model = m) (schedule : List (Fin n)) :
    let s := (Snapshot.ofModel m).run actions
    let c := (Crowd.start (fun k => (targets k).id) s.meter).run m s.state schedule
    -- what has ended has the answer that it would have alone
    (∀ k answer, c.walks k = .done answer →
      answer = (((targets k).groundPose s.state).ask .empty).1) ∧
    -- the entries are right, and with a frame its parent is entered
    (∀ i x, c.meter.memo.lookup? i s.stamp = some x →
      frozen.wellFormed.groundPose s.state i = .ok x) ∧
    Meter.Closed m c.meter s.stamp ∧
    -- in the end the chains of what could be evaluated have been added, and each counted once at
    -- least and once for each evaluation at most
    (c.Finished →
      (∀ i, c.meter.Entered s.stamp i ↔ s.meter.Entered s.stamp i ∨
        ∃ k, c.succeeded k = true ∧ Above m.parent? (targets k).id i) ∧
      s.memo.misses + (m.gained s.stamp s.meter c.meter).card ≤ c.meter.memo.misses ∧
      c.meter.memo.misses ≤
        s.memo.misses + ∑ k with c.succeeded k = true, ((targets k).depth + 1)) := by
  intro s c
  have wf := frozen.wellFormed
  have coherent : Snapshot.Coherent wf s := Snapshot.run_coherent wf consistent
  obtain ⟨own, past, view, here, faithful⟩ := coherent
  have closed : Meter.Closed m s.meter s.stamp := Snapshot.run_closed wf memoise consistent
  have begun : Crowd.Sound wf view s.state s.meter (fun k => (targets k).id)
      (Crowd.start (fun k => (targets k).id) s.meter) := .start ⟨faithful, past, closed⟩
  have sound : Crowd.Sound wf view s.state s.meter (fun k => (targets k).id) c :=
    begun.run memoise here schedule
  have known := sound.shared.faithful.known (s := s.state) here
  refine ⟨fun k answer ended => ?_, known, sound.shared.closed,
    fun finished => ⟨sound.entered_iff finished, sound.lower, ?_⟩⟩
  · have alone := Model.WellFormed.node_ask (s := s.state) (μ := .empty) here own (about k)
      (Faithful.empty wf view)
    exact (sound.answer ended).trans alone.1.symm
  · have most := sound.misses_le finished
    have depths : ∀ k, m.depth (targets k).id = (targets k).depth := by
      intro k
      rw [Node.depth, about k]
    simp only [depths] at most
    exact most

/-- Two evaluations of the marker take turns until both have ended. -/
theorem interleavings_agree_marker :
    let s := (Snapshot.ofModel Model.markerModel).run [.setPose ⟨0⟩ (.ofTranslation ⟨1, 0, 0⟩)]
    let c := (Crowd.start (fun _ : Fin 2 => Model.markerNode.id) s.meter).run Model.markerModel
      s.state [0, 1, 0, 1, 0, 1, 0, 1, 0, 1, 0, 1, 0, 1]
    c.Finished ∧
    (∀ i, c.meter.Entered s.stamp i ↔ s.meter.Entered s.stamp i ∨
      ∃ k, c.succeeded k = true ∧ Above Model.markerModel.parent? Model.markerNode.id i) ∧
    s.memo.misses + (Model.markerModel.gained s.stamp s.meter c.meter).card ≤
      c.meter.memo.misses ∧
    c.meter.memo.misses ≤
      s.memo.misses + ∑ k with c.succeeded k = true, (Model.markerNode.depth + 1) := by
  intro s c
  have finished : c.Finished := by
    apply Crowd.run_finished Model.markerModel_frozen.wellFormed
    · exact fun _ => by decide
    · decide
  have agree := interleavings_agree Model.markerModel_frozen rfl
    [.setPose ⟨0⟩ (.ofTranslation ⟨1, 0, 0⟩)]
    (fun a mem => by rw [List.mem_singleton.1 mem]; trivial) (fun _ : Fin 2 => Model.markerNode)
    (fun _ => rfl) [0, 1, 0, 1, 0, 1, 0, 1, 0, 1, 0, 1, 0, 1]
  exact ⟨finished, agree.2.2.2 finished⟩

end RigidFrames
