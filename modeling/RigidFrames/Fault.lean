/-
  RigidFrames.Fault

  What can go wrong, as causes and not as sentences.  The sentences are in
  `RigidFrames.Fault.Wording`.

  Faults also arrive from outside the library, from a program that supplies
  its own states, say.  Such a program has reasons of its own, so each kind
  of fault that has a reason can also carry a stated one.
-/
import RigidFrames.Identity

namespace RigidFrames

/-- What can be wrong with the way frames hang together. -/
inductive WiringFault where
  /-- The name is taken. -/
  | duplicateName
  /-- The parent is no frame of the model. -/
  | strangeParent (parent : FrameId)
  /-- The frame is not an attached one. -/
  | takesNoParent
  /-- An attached frame still lacks its parent. -/
  | parentMissing
  /-- The frame lies on a cycle of parents. -/
  | cycle
  | stated (reason : String)
  deriving DecidableEq, Inhabited

/-- What can be wrong with a transform that should be rigid. -/
inductive DegeneracyFault (α : Type) where
  | offsetNotFinite
  /-- The rotation of the offset has a norm too far from one. -/
  | offsetNorm (norm : α)
  | bodyNotFinite (body : BodyIndex)
  | stated (reason : String)
  deriving BEq, DecidableEq, Inhabited

/-- What can be wrong with a state. -/
inductive StateFault where
  /-- The state is one of `state`, the frames are of `frames`. -/
  | otherModel (state frames : ModelId)
  /-- The model has only so many bodies. -/
  | bodyOutOfRange (body : BodyIndex) (model : ModelId) (bodies : Nat)
  /-- The state supplies no pose for the body. -/
  | poseMissing (body : BodyIndex)
  | stated (reason : String)
  deriving DecidableEq, Inhabited

/-- How a frame that does not exist was asked for. -/
inductive Sought where
  | named (name : String)
  | numbered (id : FrameId)
  | numberedIn (id : FrameId) (model : ModelId)
  deriving DecidableEq, Inhabited

/-- What can be wrong with settings. -/
inductive SettingsFault (α : Type) where
  /-- The tolerance is no positive number. -/
  | tolerance (value : α)
  /-- The text is no settings document. -/
  | malformed
  /-- The file with the settings cannot be read. -/
  | unreadable (path reason : String)
  | stated (reason : String)
  deriving BEq, DecidableEq, Inhabited

/-- Everything that the library refuses to do, with the cause. -/
inductive Fault (α : Type) where
  | structural (frame : String) (cause : WiringFault)
  | invalidState (cause : StateFault)
  | degenerate (frame : String) (cause : DegeneracyFault α)
  | unknownFrame (sought : Sought)
  /-- A pairwise query was asked of frames of two models. -/
  | foreignFrame
  | invalidSettings (cause : SettingsFault α)
  deriving BEq, DecidableEq, Inhabited

/-- The kinds of faults. -/
inductive FaultKind where
  | structural
  | invalidState
  | degenerate
  | unknownFrame
  | foreignFrame
  | invalidSettings
  deriving DecidableEq, Inhabited

namespace Fault

variable {α : Type}

/-- Which kind a fault is of. -/
def kind : Fault α → FaultKind
  | structural _ _ => .structural
  | invalidState _ => .invalidState
  | degenerate _ _ => .degenerate
  | unknownFrame _ => .unknownFrame
  | foreignFrame => .foreignFrame
  | invalidSettings _ => .invalidSettings

/-- The frame that the fault blames, by name. -/
def frame? : Fault α → Option String
  | structural frame _ => some frame
  | degenerate frame _ => some frame
  | _ => none

end Fault
end RigidFrames
