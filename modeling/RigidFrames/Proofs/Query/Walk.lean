/-
  RigidFrames.Proofs.Query.Walk

  What one step of an evaluation does, and what a whole evaluation comes to.

  Between its steps an evaluation stands somewhere on the way from the frame
  it was asked for to the root (`Climbed`), holding a pose that is right or
  nothing at all (`Walk.Correct`).  A step keeps this for any memo that tells
  the truth about the present version, and it keeps the memo truthful about
  all versions (`Faithful`).  Nothing is said about who filled the memo, so the
  same two lemmas serve a query by itself and many evaluations at once.

  Each access takes its weight from what is left to do (`left_step`), so the
  bound in `Model.evaluate` is never felt (`evaluate_keeps`).
-/
import RigidFrames.Proofs.Query.Reference
import RigidFrames.Query.Ground

namespace RigidFrames

open Links Model

variable {α : Type} {m : Model α}

namespace Walk

-- ============================================================================
-- Accesses to the memo
-- ============================================================================

theorem fetch_fst (m : Model α) (s : State α) (i : FrameId) (μ : Meter α) :
    (fetch m s i μ).1 = if m.settings.memoise then μ.memo.lookup? i s.stamp else none := by
  rw [fetch]
  split
  · exact PoseMemo.fetch_fst μ.memo i s.stamp
  · rfl

theorem fetch_entries (m : Model α) (s : State α) (i : FrameId) (μ : Meter α) :
    (fetch m s i μ).2.memo.entries = μ.memo.entries := by
  rw [fetch]
  split
  · exact PoseMemo.fetch_entries μ.memo i s.stamp
  · rfl

theorem fetch_misses (m : Model α) (s : State α) (i : FrameId) (μ : Meter α) :
    (fetch m s i μ).2.memo.misses = μ.memo.misses := by
  rw [fetch]
  split
  · exact PoseMemo.fetch_misses μ.memo i s.stamp
  · rfl

/-- After a look the evaluation goes down, from a pose that the memo holds, or further up. -/
theorem step_look [Scalar α] (m : Model α) (s : State α) (i : FrameId)
    (pending : List (FrameId × Pose α)) (μ : Meter α) :
    (∃ x, μ.memo.lookup? i s.stamp = some x ∧
      (step m s (.look i pending) μ).1 = descend x pending) ∨
    (step m s (.look i pending) μ).1 = climb m i pending := by
  rw [step]
  split
  · next x _ fetched =>
    have found := fetch_fst m s i μ
    rw [fetched] at found
    split at found
    · exact .inl ⟨x, found.symm, rfl⟩
    · cases found
  · exact .inr rfl

/-- A look leaves what its access to the memo leaves. -/
theorem step_look_meter [Scalar α] (m : Model α) (s : State α) (i : FrameId)
    (pending : List (FrameId × Pose α)) (μ : Meter α) :
    (step m s (.look i pending) μ).2 = (fetch m s i μ).2 := by
  rw [step]
  split <;> simp_all

/-- An entry found after a store was there before, or is the one just handed in. -/
theorem keep_lookup? {s : State α} {i j : FrameId} {t : Stamp} {x y : Pose α} {μ : Meter α}
    (found : (keep m s i x μ).memo.lookup? j t = some y) :
    μ.memo.lookup? j t = some y ∨ (j = i ∧ t = s.stamp ∧ y = x) := by
  rw [keep] at found
  split at found
  · rw [PoseMemo.lookup?_eq_some_iff, PoseMemo.store_getElem?] at found
    split at found
    · next same =>
      obtain ⟨rfl, -⟩ := same
      cases found
      exact .inr ⟨rfl, rfl, rfl⟩
    · exact .inl ((PoseMemo.lookup?_eq_some_iff _ _ _ _).2 found)
  · exact .inl found

theorem lookup?_congr {c d : PoseMemo α} (same : c.entries = d.entries) (i : FrameId) (t : Stamp) :
    c.lookup? i t = d.lookup? i t := by
  rw [PoseMemo.lookup?, PoseMemo.lookup?, same]

/-- Only stores change the entries of the memo and the number of poses handed in. -/
theorem step_memo [Scalar α] (m : Model α) (s : State α) (w : Walk α) (μ : Meter α) :
    (∃ i x pending, w = .store i x pending ∧ (step m s w μ).2 = keep m s i x μ) ∨
    ((∀ i x pending, w ≠ .store i x pending) ∧
      (step m s w μ).2.memo.entries = μ.memo.entries ∧
      (step m s w μ).2.memo.misses = μ.memo.misses) := by
  cases w with
  | store i x pending => exact .inl ⟨i, x, pending, rfl, rfl⟩
  | read | done => exact .inr ⟨nofun, rfl, rfl⟩
  | look i pending =>
    rw [step_look_meter]
    exact .inr ⟨nofun, fetch_entries m s i μ, fetch_misses m s i μ⟩

-- ============================================================================
-- Where an evaluation stands
-- ============================================================================

/-- `pending` is the way down from `i` to `target`, the frame next to `i` first. -/
inductive Climbed (m : Model α) (target : FrameId) : FrameId → List (FrameId × Pose α) → Prop
  | start : Climbed m target target []
  | up {i p : FrameId} {offset : Pose α} {pending : List (FrameId × Pose α)}
      (climbed : Climbed m target i pending) (link : m.link? i = some (p, offset)) :
      Climbed m target p ((i, offset) :: pending)

theorem Climbed.above {target i : FrameId} {pending : List (FrameId × Pose α)}
    (climbed : Climbed m target i pending) : Above m.parent? target i := by
  induction climbed with
  | start => exact .refl target
  | up _ link ih => exact ih.next (parent?_of_link? link)

theorem Climbed.error [Scalar α] {wf : m.WellFormed} {s : State α} {target i : FrameId}
    {pending : List (FrameId × Pose α)} (climbed : Climbed m target i pending) {fault : Fault α}
    (failed : wf.groundPose s i = .error fault) : wf.groundPose s target = .error fault := by
  induction climbed with
  | start => exact failed
  | up _ link ih =>
    apply ih
    rw [wf.groundPose_of_link s link, failed]
    rfl

/-- The evaluation of `target` is where it should be, and the pose that it holds is right. -/
inductive Correct [Scalar α] (wf : m.WellFormed) (s : State α) (target : FrameId) : Walk α → Prop
  | look {i : FrameId} {pending : List (FrameId × Pose α)} (climbed : Climbed m target i pending) :
      Correct wf s target (.look i pending)
  | read {i : FrameId} {name : String} {body : BodyIndex} {pending : List (FrameId × Pose α)}
      (climbed : Climbed m target i pending) (found : m.frame? i = some ⟨name, .grounded body⟩) :
      Correct wf s target (.read i name body pending)
  | store {i : FrameId} {x : Pose α} {pending : List (FrameId × Pose α)}
      (climbed : Climbed m target i pending) (pose : wf.groundPose s i = .ok x) :
      Correct wf s target (.store i x pending)
  | done {answer : Except (Fault α) (Pose α)} (right : answer = wf.groundPose s target) :
      Correct wf s target (.done answer)

section

variable [Scalar α] {wf : m.WellFormed} {s : State α} {target i : FrameId}
  {pending : List (FrameId × Pose α)}

theorem Climbed.descend (climbed : Climbed m target i pending) {x : Pose α}
    (pose : wf.groundPose s i = .ok x) : Correct wf s target (descend x pending) := by
  cases climbed with
  | start => exact .done pose.symm
  | up climbed link =>
    apply Correct.store climbed
    rw [wf.groundPose_of_link s link, pose]
    rfl

theorem Climbed.climb (climbed : Climbed m target i pending) :
    Correct wf s target (climb m i pending) := by
  rw [Walk.climb]
  split
  · next found => exact .done (climbed.error (wf.groundPose_of_none s found)).symm
  · next found => exact .look (climbed.up (link?_eq_some_iff.2 ⟨_, found⟩))
  · next found => exact .store climbed (wf.groundPose_of_ground s found)
  · next found => exact .read climbed found

theorem Climbed.receive (climbed : Climbed m target i pending) {name : String} {body : BodyIndex}
    (found : m.frame? i = some ⟨name, .grounded body⟩) :
    Correct wf s target (receive i name body pending (s.bodyPose body)) := by
  have pose := wf.groundPose_of_grounded s found
  rw [rootPose] at pose
  cases read : s.bodyPose body with
  | error fault =>
    rw [read] at pose
    exact .done (climbed.error pose).symm
  | ok x =>
    simp only [read] at pose
    rw [Walk.receive]
    split
    · next finite =>
      rw [if_pos finite] at pose
      exact .store climbed pose
    · next notFinite =>
      rw [if_neg notFinite] at pose
      exact .done (climbed.error pose).symm

/-- A step keeps an evaluation right, if the memo is right about the present version. -/
theorem Correct.step {w : Walk α} (correct : Correct wf s target w) {μ : Meter α}
    (known : ∀ j x, μ.memo.lookup? j s.stamp = some x → wf.groundPose s j = .ok x) :
    Correct wf s target (step m s w μ).1 := by
  cases correct with
  | @look i pending climbed =>
    rcases step_look m s i pending μ with ⟨x, found, down⟩ | up
    · rw [down]
      exact climbed.descend (known i x found)
    · rw [up]
      exact climbed.climb
  | read climbed found => exact climbed.receive found
  | store climbed pose => exact climbed.descend pose
  | done right => exact .done right

theorem Climbed.isOk (climbed : Climbed m target i pending) :
    (wf.groundPose s target).isOk = (wf.groundPose s i).isOk := by
  induction climbed with
  | start => rfl
  | up _ link ih => rw [ih, wf.groundPose_isOk_link s (parent?_of_link? link)]

/-- A frame that is handed in is on the chain of the target, and the target has a pose. -/
theorem Correct.store_inv {x : Pose α} (correct : Correct wf s target (.store i x pending)) :
    (wf.groundPose s target).isOk = true ∧ Above m.parent? target i := by
  cases correct with
  | store climbed pose =>
    refine ⟨?_, climbed.above⟩
    have same : (wf.groundPose s target).isOk = (wf.groundPose s i).isOk := climbed.isOk
    rw [same, pose]
    rfl

end

-- ============================================================================
-- A memo that tells the truth
-- ============================================================================

/-- What the memo says for a version is right for the state that `view` gives for it. -/
def Faithful [Scalar α] (wf : m.WellFormed) (view : Stamp → State α) (c : PoseMemo α) : Prop :=
  ∀ i t x, c.lookup? i t = some x → wf.groundPose (view t) i = .ok x

theorem Faithful.empty [Scalar α] (wf : m.WellFormed) (view : Stamp → State α) :
    Faithful wf view .empty := by
  intro i t x found
  rw [PoseMemo.lookup?_empty] at found
  cases found

theorem Faithful.clear [Scalar α] {wf : m.WellFormed} {view : Stamp → State α} (c : PoseMemo α) :
    Faithful wf view c.clear := by
  intro i t x found
  rw [PoseMemo.lookup?_clear] at found
  cases found

/-- A truthful memo is right about the present version. -/
theorem Faithful.known [Scalar α] {wf : m.WellFormed} {view : Stamp → State α} {s : State α}
    (here : view s.stamp = s) {c : PoseMemo α} (faithful : Faithful wf view c) (i : FrameId)
    (x : Pose α) (found : c.lookup? i s.stamp = some x) : wf.groundPose s i = .ok x := by
  have pose := faithful i s.stamp x found
  rwa [here] at pose

theorem Faithful.step [Scalar α] {wf : m.WellFormed} {view : Stamp → State α} {s : State α}
    (here : view s.stamp = s) {target : FrameId} {w : Walk α} (correct : Correct wf s target w)
    {μ : Meter α} (faithful : Faithful wf view μ.memo) :
    Faithful wf view (step m s w μ).2.memo := by
  intro j t y found
  rcases step_memo m s w μ with ⟨i, x, pending, rfl, kept⟩ | ⟨-, same, -⟩
  · rw [kept] at found
    rcases keep_lookup? found with old | ⟨rfl, rfl, rfl⟩
    · exact faithful j t y old
    · -- Only a pose that is right is ever handed in.
      cases correct with
      | store _ pose => rwa [here]
  · rw [lookup?_congr same] at found
    exact faithful j t y found

-- ============================================================================
-- How long an evaluation takes
-- ============================================================================

/-- The weight of the next access, if looks weigh `c`, readings `r` and stores 1. -/
def cost (c r : Nat) : Walk α → Nat
  | look _ _ => c
  | read _ _ _ _ => r
  | store _ _ _ => 1
  | done _ => 0

/-- The weight at most of all accesses left: a look and a store for each frame of the chain above,
    one reading, and a store for each frame passed. -/
def left (c r : Nat) (m : Model α) : Walk α → Nat
  | look i pending => (c + 1) * m.depth i + (c + r + 1 + pending.length)
  | read _ _ _ pending => r + 1 + pending.length
  | store _ _ pending => 1 + pending.length
  | done _ => 0

section

variable [Scalar α] (c r : Nat)

theorem left_descend (m : Model α) (x : Pose α) (pending : List (FrameId × Pose α)) :
    left c r m (descend x pending) = pending.length := by
  cases pending with
  | nil => rfl
  | cons e pending => exact Nat.add_comm 1 pending.length

theorem left_climb (wf : m.WellFormed) (i : FrameId) (pending : List (FrameId × Pose α)) :
    left c r m (climb m i pending) + c ≤
      (c + 1) * m.depth i + (c + r + 1 + pending.length) := by
  rw [climb]
  split
  · show 0 + c ≤ _
    omega
  · next parent offset found =>
    have deeper : m.depth i = m.depth parent + 1 := wf.depth_link (parent?_of_attached found)
    rw [deeper, Nat.mul_succ]
    simp only [left, List.length_cons]
    omega
  · simp only [left]
    omega
  · simp only [left]
    omega

theorem left_receive (m : Model α) (i : FrameId) (name : String) (body : BodyIndex)
    (pending : List (FrameId × Pose α)) (read : Except (Fault α) (Pose α)) :
    left c r m (receive i name body pending read) ≤ 1 + pending.length := by
  cases read with
  | error => exact Nat.zero_le _
  | ok x =>
    rw [receive]
    split
    · exact Nat.le_refl _
    · exact Nat.zero_le _

/-- An access takes its weight from what is left. -/
theorem left_step (wf : m.WellFormed) (s : State α) (w : Walk α) (μ : Meter α) :
    left c r m (step m s w μ).1 + cost c r w ≤ left c r m w := by
  cases w with
  | look i pending =>
    show left c r m _ + c ≤ (c + 1) * m.depth i + (c + r + 1 + pending.length)
    rcases step_look m s i pending μ with ⟨x, -, down⟩ | up
    · rw [down, left_descend]
      omega
    · rw [up]
      exact left_climb c r wf i pending
  | read i name body pending =>
    have further := left_receive c r m i name body pending (s.bodyPose body)
    show left c r m (receive i name body pending (s.bodyPose body)) + r ≤ r + 1 + pending.length
    omega
  | store i x pending =>
    have further := left_descend c r m x pending
    show left c r m (descend x pending) + 1 ≤ 1 + pending.length
    omega
  | done answer => exact Nat.le_refl _

end

/-- With every access one less is left. -/
theorem left_pred [Scalar α] (wf : m.WellFormed) (s : State α) (w : Walk α) (μ : Meter α) :
    left 1 1 m (step m s w μ).1 ≤ left 1 1 m w - 1 := by
  have spent := Nat.le_sub_of_add_le (left_step 1 1 wf s w μ)
  cases w with
  | look | read | store => exact spent
  | done answer => exact Nat.le_refl _

theorem done_of_left {w : Walk α} (none : left 1 1 m w = 0) : ∃ answer, w = .done answer := by
  cases w with
  | done answer => exact ⟨answer, rfl⟩
  | look | read | store =>
    simp only [left] at none
    omega

theorem run_done [Scalar α] (wf : m.WellFormed) (s : State α) {fuel : Nat} {w : Walk α}
    (enough : left 1 1 m w ≤ fuel) (μ : Meter α) :
    ∃ answer, (run m s fuel w μ).1 = .done answer := by
  induction fuel generalizing w μ with
  | zero => exact done_of_left (Nat.le_zero.1 enough)
  | succ fuel ih =>
    have next : left 1 1 m (step m s w μ).1 ≤ fuel :=
      (left_pred wf s w μ).trans (Nat.sub_le_of_le_add enough)
    cases w with
    | done answer => exact ⟨answer, rfl⟩
    | look | read | store => exact ih next _

/-- What every step keeps is kept by a run. -/
theorem run_keeps [Scalar α] {s : State α} {P : Walk α → Meter α → Prop}
    (keeps : ∀ w μ, P w μ → P (step m s w μ).1 (step m s w μ).2) (fuel : Nat) {w : Walk α}
    {μ : Meter α} (start : P w μ) : P (run m s fuel w μ).1 (run m s fuel w μ).2 := by
  induction fuel generalizing w μ with
  | zero => exact start
  | succ fuel ih =>
    cases w with
    | done answer => exact start
    | look | read | store => exact ih (keeps _ μ start)

end Walk

namespace Model

open Walk

theorem WellFormed.left_look_le (wf : m.WellFormed) {i : FrameId} (lt : i.index < m.size) :
    left 1 1 m (.look i [] : Walk α) ≤ m.walkBound := by
  have shallow := wf.depth_lt lt
  simp only [left, walkBound, List.length_nil]
  omega

/-- The bound is large enough for the machine to come to its answer. -/
theorem WellFormed.evaluate_run [Scalar α] (wf : m.WellFormed) (s : State α) {i : FrameId}
    (lt : i.index < m.size) (μ : Meter α) : run m s m.walkBound (.look i []) μ =
      (.done ((m.evaluate s i).ask μ).1, ((m.evaluate s i).ask μ).2) := by
  obtain ⟨answer, ended⟩ := run_done wf s (wf.left_look_le lt) μ
  rcases ran : run m s m.walkBound (.look i []) μ with ⟨w, μ'⟩
  rw [ran] at ended
  obtain rfl : w = .done answer := ended
  simp only [evaluate, Query.ask, ExceptT.run_mk, StateT.run, ran]

/-- An evaluation ends with an answer, and what every step keeps holds at the end. -/
theorem WellFormed.evaluate_keeps [Scalar α] (wf : m.WellFormed) {s : State α}
    {P : Walk α → Meter α → Prop} (keeps : ∀ w μ, P w μ → P (step m s w μ).1 (step m s w μ).2)
    {i : FrameId} (lt : i.index < m.size) {μ : Meter α} (start : P (.look i []) μ) :
    P (.done ((m.evaluate s i).ask μ).1) ((m.evaluate s i).ask μ).2 := by
  have kept := run_keeps keeps m.walkBound start
  rwa [wf.evaluate_run s lt μ] at kept

/-- With a truthful memo an evaluation answers the reference and leaves a truthful memo. -/
theorem WellFormed.evaluate_ask [Scalar α] (wf : m.WellFormed) {view : Stamp → State α}
    {s : State α} (here : view s.stamp = s) {i : FrameId} (lt : i.index < m.size) {μ : Meter α}
    (faithful : Faithful wf view μ.memo) :
    ((m.evaluate s i).ask μ).1 = wf.groundPose s i ∧
      Faithful wf view ((m.evaluate s i).ask μ).2.memo := by
  have ended := wf.evaluate_keeps (s := s)
    (P := fun w μ => Correct wf s i w ∧ Faithful wf view μ.memo) ?_ lt ⟨.look .start, faithful⟩
  · obtain ⟨correct, faithful⟩ := ended
    cases correct with
    | done right => exact ⟨right, faithful⟩
  · rintro w μ ⟨correct, faithful⟩
    exact ⟨correct.step (faithful.known here), faithful.step here correct⟩

end Model
end RigidFrames
