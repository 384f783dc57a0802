/-
  RigidFrames.Query.Pairwise

  Questions about two frames: the transform from one to the other, and what
  becomes of points and directions under it.
-/
import RigidFrames.Query.Ground

namespace RigidFrames

namespace Node

variable {α : Type} [Scalar α]

/-- The transform from the frame to ground. -/
def groundPose (s : State α) (f : Node α) : Query α (Pose α) :=
  f.model.groundPose s f.id

/-- The transform from `f` to `a`, by way of ground. -/
def between (s : State α) (f a : Node α) : Query α (Pose α) := do
  if f.sameModel a then
    let x ← f.groundPose s
    let y ← a.groundPose s
    pure (y.inverse * x)
  else throw .foreignFrame

/-- The direction `v`, given in `f`, as seen from `a`.  Only the rotation acts: for velocities
    and forces, not for places. -/
def expressVector (s : State α) (v : Vec3 α) (f a : Node α) : Query α (Vec3 α) := do
  let x ← f.between s a
  pure (x.actVector v)

/-- The place `p`, given in `f`, as seen from `a`. -/
def locate (s : State α) (p : Vec3 α) (f a : Node α) : Query α (Vec3 α) := do
  let x ← f.between s a
  pure (x.actPoint p)

end Node
end RigidFrames
