/-
  RigidFrames.Proofs.Query.Reference

  What the ground pose of a frame is, said without a memo and without a walk.

  `WellFormed.groundPose` recurses along the links of a well-formed model.
  Everything that queries answer is compared with it.  A frame fares as its
  root does: the pose exists for all frames of a rigid group or for none
  (`groundPose_isOk_link`).
-/
import RigidFrames.Proofs.Model.WellFormed
import RigidFrames.State

namespace RigidFrames.Model

open Links

variable {α : Type} {m : Model α}

theorem parent?_of_attached {i p : FrameId} {name : String} {offset : Pose α}
    (found : m.frame? i = some ⟨name, .attached p offset⟩) : m.parent? i = some p :=
  parent?_of_link? (link?_eq_some_iff.2 ⟨name, found⟩)

/-- The pose of a body as a root takes it: refused unless all components are finite. -/
def rootPose [Scalar α] (s : State α) (name : String) (body : BodyIndex) :
    Except (Fault α) (Pose α) :=
  match s.bodyPose body with
  | .error fault => .error fault
  | .ok x => if x.isFinite then .ok x else .error (.degenerate name (.bodyNotFinite body))

theorem rootPose_of_ok [Scalar α] {s : State α} {body : BodyIndex} {x : Pose α}
    (pose : s.bodyPose body = .ok x) (name : String) : rootPose s name body =
      if x.isFinite then .ok x else .error (.degenerate name (.bodyNotFinite body)) := by
  rw [rootPose, pose]

/-- A root takes the pose of its body as it is. -/
theorem bodyPose_of_rootPose [Scalar α] {s : State α} {name : String} {body : BodyIndex}
    {x : Pose α} (pose : rootPose s name body = .ok x) : s.bodyPose body = .ok x := by
  cases read : s.bodyPose body with
  | error fault =>
    rw [rootPose, read] at pose
    cases pose
  | ok y =>
    rw [rootPose_of_ok read] at pose
    split at pose
    · exact pose
    · cases pose

/-- The state knows the poses of all bodies that frames of the model follow. -/
def Supplied (m : Model α) (s : State α) : Prop :=
  ∀ {i : FrameId} {name : String} {body : BodyIndex},
    m.frame? i = some ⟨name, .grounded body⟩ → ∃ x, s.bodyPose body = .ok x

/-- The ground pose of a frame: the identity for the ground frame, the pose of its body for a
    frame that follows one, and the parent's pose times the offset for an attached frame. -/
def WellFormed.groundPose [Scalar α] (wf : m.WellFormed) (s : State α) (i : FrameId) :
    Except (Fault α) (Pose α) :=
  match _found : m.frame? i with
  | none => .error (.unknownFrame (.numberedIn i m.number))
  | some ⟨_, .ground⟩ => .ok 1
  | some ⟨name, .grounded body⟩ => rootPose s name body
  | some ⟨_, .attached parent offset⟩ => (wf.groundPose s parent).map (· * offset)
termination_by (wellFounded_of_ends wf.ends).wrap i
decreasing_by exact parent?_of_attached _found

section

variable [Scalar α] (wf : m.WellFormed) (s : State α) {i p : FrameId} {name : String}

theorem WellFormed.groundPose_of_none (found : m.frame? i = none) :
    wf.groundPose s i = .error (.unknownFrame (.numberedIn i m.number)) := by
  rw [groundPose]
  split <;> simp_all

/-- Only frames of the model have a ground pose. -/
theorem WellFormed.lt_of_groundPose {s : State α} {x : Pose α}
    (pose : wf.groundPose s i = .ok x) : i.index < m.size := by
  cases found : m.frame? i with
  | none =>
    rw [wf.groundPose_of_none s found] at pose
    cases pose
  | some f => exact frame?_lt found

theorem WellFormed.groundPose_of_ground (found : m.frame? i = some ⟨name, .ground⟩) :
    wf.groundPose s i = .ok 1 := by
  rw [groundPose]
  split <;> simp_all

theorem WellFormed.groundPose_of_grounded {body : BodyIndex}
    (found : m.frame? i = some ⟨name, .grounded body⟩) :
    wf.groundPose s i = rootPose s name body := by
  rw [groundPose]
  split <;> simp_all

/-- A frame that follows a body is where the body is. -/
theorem WellFormed.groundPose_of_body {body : BodyIndex} {x : Pose α}
    (found : m.frame? i = some ⟨name, .grounded body⟩) (pose : s.bodyPose body = .ok x)
    (finite : x.isFinite = true) : wf.groundPose s i = .ok x := by
  rw [wf.groundPose_of_grounded s found, rootPose_of_ok pose, if_pos finite]

theorem WellFormed.groundPose_of_link {offset : Pose α} (link : m.link? i = some (p, offset)) :
    wf.groundPose s i = (wf.groundPose s p).map (· * offset) := by
  obtain ⟨name, found⟩ := link?_eq_some_iff.1 link
  rw [groundPose]
  split <;> simp_all

/-- A frame fixed to one that follows a body moves with the body. -/
theorem WellFormed.groundPose_of_fixed {offset x : Pose α} {body : BodyIndex}
    (link : m.link? i = some (p, offset)) (found : m.frame? p = some ⟨name, .grounded body⟩)
    (pose : s.bodyPose body = .ok x) (finite : x.isFinite = true) :
    wf.groundPose s i = .ok (x * offset) := by
  rw [wf.groundPose_of_link s link, wf.groundPose_of_body s found pose finite]
  rfl

theorem WellFormed.groundPose_isOk_link (parent : m.parent? i = some p) :
    (wf.groundPose s i).isOk = (wf.groundPose s p).isOk := by
  obtain ⟨offset, link⟩ := exists_link?_of_parent? parent
  rw [wf.groundPose_of_link s link]
  cases wf.groundPose s p <;> rfl

/-- Of a state only the poses of the bodies matter. -/
theorem WellFormed.groundPose_congr {s s' : State α} (same : s.bodyPose = s'.bodyPose)
    (i : FrameId) : wf.groundPose s i = wf.groundPose s' i := by
  induction wf.ends i with
  | @root i h =>
    cases found : m.frame? i with
    | none => rw [wf.groundPose_of_none s found, wf.groundPose_of_none s' found]
    | some f =>
      obtain ⟨name, _ | body | ⟨p, offset⟩⟩ := f
      · rw [wf.groundPose_of_ground s found, wf.groundPose_of_ground s' found]
      · rw [wf.groundPose_of_grounded s found, wf.groundPose_of_grounded s' found, rootPose,
          rootPose, same]
      · rw [parent?_of_attached found] at h
        cases h
  | @step i j h _ ih =>
    obtain ⟨offset, link⟩ := exists_link?_of_parent? h
    rw [wf.groundPose_of_link s link, wf.groundPose_of_link s' link, ih]

end

end RigidFrames.Model
