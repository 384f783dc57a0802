/-
  RigidFrames.Frame

  Frames and what each of them hangs on.  While a model is being assembled an
  attached frame may still lack its parent; in a frozen model it has one.
  The two stages are one type, with `Option FrameId` and with `FrameId` as
  the type of links.
-/
import RigidFrames.Geometry.Pose
import RigidFrames.Identity

namespace RigidFrames

/-- What a frame hangs on. -/
inductive Mount (Link α : Type) where
  /-- Nothing: the frame is the fixed reference of its model. -/
  | ground
  /-- A moving body, whose pose the state supplies. -/
  | grounded (body : BodyIndex)
  /-- Another frame, rigidly; `offset` takes quantities from this frame to the parent. -/
  | attached (parent : Link) (offset : Pose α)
  deriving BEq, DecidableEq, Inhabited

namespace Mount

variable {Link α : Type}

/-- The link to the parent, which only attached frames have. -/
def parent? : Mount Link α → Option Link
  | attached parent _ => some parent
  | _ => none

/-- The body that the frame follows, if it follows one. -/
def body? : Mount Link α → Option BodyIndex
  | grounded body => some body
  | _ => none

/-- Whether the frame is the base of its own rigid group.  Attached frames only add a fixed
    offset to their parent and never are. -/
def isBase : Mount Link α → Bool
  | attached _ _ => false
  | _ => true

/-- Equality of mounts, offsets compared as transforms. -/
def sameMount [Scalar α] [BEq α] [BEq Link] : Mount Link α → Mount Link α → Bool
  | ground, ground => true
  | grounded a, grounded b => a == b
  | attached p x, attached q y => p == q && x.sameTransform y
  | _, _ => false

end Mount

/-- A frame: a name and what it hangs on. -/
structure Frame (Link α : Type) where
  name : String
  mount : Mount Link α
  deriving BEq, DecidableEq, Inhabited

/-- The name of the frame that every model starts with. -/
def groundName : String := "ground"

end RigidFrames
