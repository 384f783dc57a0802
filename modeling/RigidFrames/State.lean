/-
  RigidFrames.State

  What frames need to know of a simulation: which model it moves, the version
  it is at, and where each body is.  Between two changes of the version the
  pose of a body must stay the same; the library relies on it and cannot
  check it.
-/
import RigidFrames.Fault
import RigidFrames.Geometry.Pose

namespace RigidFrames

/-- The view that queries have of a state. -/
structure State (α : Type) where
  model : ModelId
  stamp : Stamp
  /-- The pose of a body relative to ground. -/
  bodyPose : BodyIndex → Except (Fault α) (Pose α)

namespace State

variable {α : Type}

/-- A state with the listed poses.  A body beyond them is answered by what `missing` says. -/
def ofPoses (model : ModelId) (stamp : Stamp) (poses : Array (Pose α))
    (missing : BodyIndex → StateFault) : State α where
  model := model
  stamp := stamp
  bodyPose body :=
    match poses[body.index]? with
    | some x => .ok x
    | none => .error (.invalidState (missing body))

/-- A state that lists some poses and knows of no other body. -/
def listed (model : ModelId) (stamp : Stamp) (poses : Array (Pose α)) : State α :=
  ofPoses model stamp poses .poseMissing

end State
end RigidFrames
