/-
  RigidFrames.Snapshot

  A state held in memory: a pose for each body of one model, a version that
  every change raises, and the memo of the ground poses computed so far.
-/
import RigidFrames.Model
import RigidFrames.Query
import RigidFrames.State

namespace RigidFrames

/-- A state of one model. -/
structure Snapshot (α : Type) where
  model : ModelId
  stamp : Stamp
  poses : Array (Pose α)
  meter : Meter α

namespace Snapshot

variable {α : Type}

/-- A state of the model with every body at the origin. -/
def ofModel [Scalar α] (m : Model α) : Snapshot α :=
  ⟨m.number, .initial, Array.replicate m.bodies 1, .empty⟩

/-- The view that queries have of the state. -/
def state (s : Snapshot α) : State α :=
  .ofPoses s.model s.stamp s.poses fun body => .bodyOutOfRange body s.model s.poses.size

/-- The pose of a body. -/
def bodyPose (s : Snapshot α) (body : BodyIndex) : Except (Fault α) (Pose α) :=
  s.state.bodyPose body

/-- Moves a body; a body that does not exist is refused and changes nothing. -/
def setPose (s : Snapshot α) (body : BodyIndex) (x : Pose α) :
    Except (Fault α) Unit × Snapshot α :=
  if body.index < s.poses.size then
    (.ok (), { s with poses := s.poses.setIfInBounds body.index x, stamp := s.stamp.next })
  else
    (.error (.invalidState (.bodyOutOfRange body s.model s.poses.size)), s)

/-- Marks the state as changed. -/
def touch (s : Snapshot α) : Snapshot α :=
  { s with stamp := s.stamp.next }

/-- The poses computed so far. -/
def memo (s : Snapshot α) : PoseMemo α :=
  s.meter.memo

/-- Forgets the ground poses computed so far. -/
def clear (s : Snapshot α) : Snapshot α :=
  { s with meter.memo := s.memo.clear }

/-- Puts a question to the state; what it computed stays in the memo. -/
def ask {β : Type} (s : Snapshot α) (q : State α → Query α β) :
    Except (Fault α) β × Snapshot α :=
  let (answer, meter) := (q s.state).ask s.meter
  (answer, { s with meter })

end Snapshot
end RigidFrames
