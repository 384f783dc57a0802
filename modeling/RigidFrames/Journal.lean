/-
  RigidFrames.Journal

  What the library reports while a model is assembled and frozen, as values.
  An operation returns the events that it wrote; one that is refused while
  assembling writes none.
-/
import RigidFrames.Fault

namespace RigidFrames

/-- Something worth reporting. -/
inductive Event (α : Type) where
  | frameAdded (name : String) (id : FrameId)
  | parentSet (frame : String) (parent : FrameId)
  /-- The model was frozen with settings that keep no ground poses. -/
  | memoDisabled (model : ModelId)
  | frozen (model : ModelId) (frames bodies : Nat)
  | rejected (fault : Fault α)
  deriving BEq, DecidableEq, Inhabited

end RigidFrames
