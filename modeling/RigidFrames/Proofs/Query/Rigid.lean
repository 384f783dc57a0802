/-
  RigidFrames.Proofs.Query.Rigid

  Ground poses of a model whose offsets are rigid.

  A climb multiplies offsets from the frame upwards, an evaluation from the
  root downwards.  Among motions the two come to the same: whatever is known
  at the start of a climb is a factor on the right of its account
  (`climb_offsets`).  So a frame has a fixed motion in its base
  (`WellFormed.mounting`), and its ground pose is that of the base times this
  motion (`groundPose_of_base`).
-/
import RigidFrames.Proofs.Geometry.Motion
import RigidFrames.Proofs.Model.Ancestry
import RigidFrames.Proofs.Query.Reference

namespace RigidFrames

/-- A rigid offset passes the check of every positive tolerance. -/
theorem Pose.IsRigid.fits {offset : Pose ℝ} (rigid : offset.IsRigid) {tolerance : ℝ}
    (positive : 0 < tolerance) : offset.Fits tolerance := by
  refine ⟨rfl, ?_⟩
  have none : |offset.rotation.norm - 1| = 0 := by rw [rigid, sub_self, abs_zero]
  show decide (tolerance < |offset.rotation.norm - 1|) = false
  rw [none]
  exact decide_eq_false (not_lt.2 positive.le)

namespace Model

/-- All offsets of the model are rigid. -/
def RigidOffsets (m : Model ℝ) : Prop :=
  ∀ i p offset, m.link? i = some (p, offset) → offset.IsRigid

variable {m : Model ℝ} {i p : FrameId}

theorem rigidOffsets_iff : m.RigidOffsets ↔
    ∀ f ∈ m.frames, ∀ p offset, f.mount = .attached p offset → offset.IsRigid := by
  refine ⟨?_, ?_⟩
  · rintro rigid ⟨name, mount⟩ mem p offset rfl
    obtain ⟨k, found⟩ := Array.mem_iff_getElem?.1 mem
    exact rigid ⟨k⟩ p offset (link?_eq_some_iff.2 ⟨name, found⟩)
  · intro rigid i p offset link
    obtain ⟨name, found⟩ := link?_eq_some_iff.1 link
    exact rigid _ (Array.mem_of_getElem? found) p offset rfl

/-- The check of the offsets has nothing to say about rigid ones. -/
theorem RigidOffsets.allFit (rigid : m.RigidOffsets) {tolerance : ℝ} (positive : 0 < tolerance) :
    AllFit tolerance m.frames :=
  fun f mem p offset mount => (rigidOffsets_iff.1 rigid f mem p offset mount).fits positive

-- ============================================================================
-- The way up
-- ============================================================================

/-- What a climb starts with stays the last factor of the product that it ends with. -/
theorem WellFormed.climb_offsets (wf : m.WellFormed) (rigid : m.RigidOffsets) (i : FrameId) :
    ∃ y : Motion, ∀ x : Motion,
      (m.climb (fun x offset => offset * x) m.size i x.pose).2 = (y * x).pose := by
  induction wf.ends i with
  | root h =>
    refine ⟨1, fun x => ?_⟩
    rw [climb_of_root _ h, one_mul]
  | @step i j h _ ih =>
    obtain ⟨offset, link⟩ := exists_link?_of_parent? h
    obtain ⟨y, above⟩ := ih
    let x₀ : Motion := ⟨offset, rigid i j offset link⟩
    refine ⟨y * x₀, fun x => ?_⟩
    -- The rest of the climb starts with the offset already multiplied to `x`.
    rw [wf.climb_link _ link, mul_assoc]
    exact above (x₀ * x)

theorem WellFormed.inBase_isRigid (wf : m.WellFormed) (rigid : m.RigidOffsets) (i : FrameId) :
    (m.inBase i).IsRigid := by
  obtain ⟨y, above⟩ := wf.climb_offsets rigid i
  rw [inBase, show (1 : Pose ℝ) = (1 : Motion).pose from rfl, above]
  exact (y * 1).rigid

/-- The transform from a frame to its base, as a motion. -/
noncomputable def WellFormed.mounting (wf : m.WellFormed) (rigid : m.RigidOffsets) (i : FrameId) :
    Motion :=
  ⟨m.inBase i, wf.inBase_isRigid rigid i⟩

theorem WellFormed.mounting_root (wf : m.WellFormed) (rigid : m.RigidOffsets)
    (root : m.parent? i = none) : wf.mounting rigid i = 1 := by
  apply Motion.ext
  show m.inBase i = 1
  rw [inBase, climb_of_root _ root]

theorem WellFormed.mounting_link (wf : m.WellFormed) (rigid : m.RigidOffsets) {offset : Pose ℝ}
    (link : m.link? i = some (p, offset)) :
    wf.mounting rigid i = wf.mounting rigid p * ⟨offset, rigid i p offset link⟩ := by
  obtain ⟨y, above⟩ := wf.climb_offsets rigid p
  let x₀ : Motion := ⟨offset, rigid i p offset link⟩
  have parent : wf.mounting rigid p = y * 1 := Motion.ext (above 1)
  have child : wf.mounting rigid i = y * (x₀ * 1) := by
    apply Motion.ext
    show m.inBase i = _
    rw [inBase, wf.climb_link _ link]
    exact above (x₀ * 1)
  rw [parent, child, mul_one, mul_one]

-- ============================================================================
-- The way down
-- ============================================================================

/-- The ground pose of a frame is that of its base times its motion in the base. -/
theorem WellFormed.groundPose_of_base (wf : m.WellFormed) (rigid : m.RigidOffsets) (s : State ℝ)
    {b : Motion} (base : wf.groundPose s (m.base i) = .ok b.pose) :
    wf.groundPose s i = .ok (b * wf.mounting rigid i).pose := by
  induction wf.ends i with
  | root h =>
    rw [base_of_root h] at base
    rw [base, wf.mounting_root rigid h, mul_one]
  | @step i j h _ ih =>
    obtain ⟨offset, link⟩ := exists_link?_of_parent? h
    rw [wf.base_link h] at base
    rw [wf.groundPose_of_link s link, ih base, wf.mounting_link rigid link, ← mul_assoc]
    rfl

-- ============================================================================
-- Ground poses from the motions of the bodies
-- ============================================================================

/-- Each body of the model is where `bodies` says. -/
def Supplies (m : Model ℝ) (s : State ℝ) (bodies : BodyIndex → Motion) : Prop :=
  ∀ body, body.index < m.bodies → s.bodyPose body = .ok (bodies body).pose

/-- Where a root is: where the body is that it follows, or at the origin. -/
noncomputable def rootMotion (m : Model ℝ) (bodies : BodyIndex → Motion) (i : FrameId) : Motion :=
  ((m.frame? i).bind (·.mount.body?)).elim 1 bodies

/-- Where a frame is relative to ground. -/
noncomputable def WellFormed.groundMotion (wf : m.WellFormed) (rigid : m.RigidOffsets)
    (bodies : BodyIndex → Motion) (i : FrameId) : Motion :=
  m.rootMotion bodies (m.base i) * wf.mounting rigid i

theorem rootMotion_of_grounded (bodies : BodyIndex → Motion) {name : String} {body : BodyIndex}
    (found : m.frame? i = some ⟨name, .grounded body⟩) : m.rootMotion bodies i = bodies body := by
  rw [rootMotion, found]
  rfl

theorem rootMotion_of_not_follows (bodies : BodyIndex → Motion) (free : m.follows i = false) :
    m.rootMotion bodies i = 1 := by
  rw [follows, Option.isSome_eq_false_iff, Option.isNone_iff_eq_none] at free
  rw [rootMotion, free, Option.elim_none]

theorem WellFormed.root_cases (wf : m.WellFormed) (lt : i.index < m.size)
    (root : m.parent? i = none) : i = .ground ∨ m.follows i = true := by
  obtain ⟨f, found⟩ : ∃ f, m.frame? i = some f := ⟨_, Array.getElem?_eq_getElem lt⟩
  obtain ⟨name, _ | body | ⟨p, offset⟩⟩ := f
  · exact .inl (wf.only_ground i _ found rfl)
  · exact .inr (follows_iff.2 ⟨name, body, found⟩)
  · rw [parent?_of_attached found] at root
    cases root

/-- With one body moved only the root that follows it is elsewhere. -/
theorem WellFormed.rootMotion_mulSingle (wf : m.WellFormed) {name : String} {body : BodyIndex}
    (found : m.frame? i = some ⟨name, .grounded body⟩) (x : Motion) (j : FrameId) :
    m.rootMotion (Pi.mulSingle body x) j = if j = i then x else 1 := by
  split
  · next same =>
    subst same
    rw [rootMotion_of_grounded _ found, Pi.mulSingle_eq_same]
  · next other =>
    cases follows : m.follows j with
    | false => exact rootMotion_of_not_follows _ follows
    | true =>
      obtain ⟨name', body', found'⟩ := follows_iff.1 follows
      have distinct : body' ≠ body := by
        rintro rfl
        exact other (wf.eq_of_body found' found)
      rw [rootMotion_of_grounded _ found', Pi.mulSingle_eq_of_ne distinct]

theorem WellFormed.groundPose_root (wf : m.WellFormed) {s : State ℝ} {bodies : BodyIndex → Motion}
    (supplied : m.Supplies s bodies) (lt : i.index < m.size) (root : m.parent? i = none) :
    wf.groundPose s i = .ok (m.rootMotion bodies i).pose := by
  rcases wf.root_cases lt root with rfl | follows
  · rw [wf.groundPose_of_ground s wf.ground, rootMotion, wf.ground]
    rfl
  · obtain ⟨name, body, found⟩ := follows_iff.1 follows
    rw [wf.groundPose_of_grounded s found, rootMotion_of_grounded bodies found, rootPose,
      supplied body (wf.body_lt found)]
    rfl

/-- The ground pose of a frame, given the motions of the bodies. -/
theorem WellFormed.groundPose_eq_ok (wf : m.WellFormed) (rigid : m.RigidOffsets) {s : State ℝ}
    {bodies : BodyIndex → Motion} (supplied : m.Supplies s bodies) (lt : i.index < m.size) :
    wf.groundPose s i = .ok (wf.groundMotion rigid bodies i).pose := by
  have inside : (m.base i).index < m.size := wf.above_lt lt (wf.above_base i)
  have root := wf.groundPose_root supplied inside (wf.parent?_base i)
  exact wf.groundPose_of_base rigid s root

theorem WellFormed.groundMotion_ground (wf : m.WellFormed) (rigid : m.RigidOffsets)
    (bodies : BodyIndex → Motion) : wf.groundMotion rigid bodies .ground = 1 := by
  have root : m.parent? .ground = none := parent?_of_frame? wf.ground
  have free : m.follows .ground = false := by
    rw [follows, wf.ground]
    rfl
  rw [groundMotion, base_of_root root, rootMotion_of_not_follows bodies free,
    wf.mounting_root rigid root, one_mul]

-- ============================================================================
-- A small model
-- ============================================================================

/-- A shift along the third axis and a turn about it. -/
noncomputable def kneeOffset : Pose ℝ :=
  ⟨⟨0, 0, 1⟩, ⟨0, 0, 3 / 5, 4 / 5⟩⟩

theorem kneeOffset_isRigid : kneeOffset.IsRigid := by
  rw [Pose.isRigid_iff, Quaternion.normSq_def, kneeOffset]
  norm_num

/-- Calls that make a model of a thigh that follows a body and a shank that is fixed to it. -/
noncomputable def kneeCalls : List (Call ℝ) :=
  [.addGrounded "thigh", .addAttached "shank" ⟨1⟩ kneeOffset]

/-- The model that these calls make. -/
noncomputable def kneeModel : Model ℝ where
  number := ⟨1⟩
  settings := .standard
  frames := #[⟨groundName, .ground⟩, ⟨"thigh", .grounded ⟨0⟩⟩,
    ⟨"shank", .attached ⟨1⟩ kneeOffset⟩]
  ids := (Assembly.built kneeCalls).ids
  bodies := 1

/-- A frame of this model. -/
noncomputable def kneeNode (k : Fin 3) : Node ℝ :=
  ⟨kneeModel, ⟨k⟩, k.isLt⟩

theorem kneeModel_rigidOffsets : kneeModel.RigidOffsets := by
  rw [rigidOffsets_iff]
  intro f mem p offset mount
  simp only [kneeModel, List.mem_toArray, List.mem_cons, List.not_mem_nil, or_false] at mem
  rcases mem with rfl | rfl | rfl
  · cases mount
  · cases mount
  · cases mount
    exact kneeOffset_isRigid

theorem freeze_kneeCalls (r : Registry) :
    ((Assembly.built kneeCalls).freeze r).answer = .ok { kneeModel with number := r.next } := by
  have positive : (0 : ℝ) < 1e-9 := by norm_num
  refine Assembly.freeze_of_built rfl ?_ (decide_eq_true positive)
    (kneeModel_rigidOffsets.allFit positive) (of_decide_eq_true rfl)
  simp [kneeModel, kneeCalls, Assembly.built_eq_run, groundName]

theorem kneeModel_frozen : kneeModel.Frozen :=
  ⟨kneeCalls, .empty, freeze_kneeCalls .empty⟩

end Model
end RigidFrames
