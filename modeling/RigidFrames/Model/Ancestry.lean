/-
  RigidFrames.Model.Ancestry

  What the links of a model say without a state: how deep a frame hangs, the
  base that it is rigidly fixed to, and the fixed transforms within one rigid
  group.  All of it is one walk towards the root.
-/
import RigidFrames.Model

namespace RigidFrames

variable {α : Type}

namespace Model

/-- Follows at most `fuel` links from frame `i` towards its root, taking each offset into
    account by `step`; gives the frame reached and the account. -/
def climb {β : Type} (m : Model α) (step : β → Pose α → β) : Nat → FrameId → β → FrameId × β
  | 0, i, b => (i, b)
  | fuel + 1, i, b =>
    match m.link? i with
    | none => (i, b)
    | some (parent, offset) => m.climb step fuel parent (step b offset)

/-- Number of links between a frame and its root.  A chain without repetition has fewer links
    than the model has frames. -/
def depth (m : Model α) (i : FrameId) : Nat :=
  (m.climb (fun n _ => n + 1) m.size i 0).2

/-- The root of a frame: the ground frame, or one that follows a body.  A frame never moves
    relative to its base. -/
def base (m : Model α) (i : FrameId) : FrameId :=
  (m.climb (fun b _ => b) m.size i ()).1

/-- The transform from a frame to its base, the offsets multiplied from the frame upwards. -/
def inBase [Scalar α] (m : Model α) (i : FrameId) : Pose α :=
  (m.climb (fun x offset => offset * x) m.size i 1).2

end Model

namespace Node

/-- Number of links between the frame and its root. -/
def depth (n : Node α) : Nat :=
  n.model.depth n.id

/-- The frame that this one is rigidly fixed to and that hangs on no other. -/
def base? (n : Node α) : Option (Node α) :=
  n.model.node? (n.model.base n.id)

/-- The transform from the frame to its base. -/
def inBase [Scalar α] (n : Node α) : Pose α :=
  n.model.inBase n.id

/-- The transform from `f` to `a` if they are fixed to each other, whatever the state; none
    for frames with different bases or of different models. -/
def fixedBetween [Scalar α] (f a : Node α) : Option (Pose α) :=
  if f.sameModel a && f.model.base f.id == a.model.base a.id then
    some (a.inBase.inverse * f.inBase)
  else none

end Node
end RigidFrames
