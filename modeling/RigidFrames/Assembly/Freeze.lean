/-
  RigidFrames.Assembly.Freeze

  From an assembly to a model.

  The settings are checked first, then each frame by itself in the order of
  addition, then the links for cycles; the first complaint is the answer.  A
  registry numbers the models, and only those that were frozen.
-/
import RigidFrames.Assembly
import RigidFrames.Links
import RigidFrames.Model

namespace RigidFrames

variable {α : Type}

/-- How many models have been frozen so far. -/
structure Registry where
  issued : Nat
  deriving DecidableEq, Inhabited

namespace Registry

/-- Nothing has been frozen yet. -/
def empty : Registry := ⟨0⟩

/-- The number of the next model; models count from 1. -/
def next (r : Registry) : ModelId :=
  ⟨r.issued + 1⟩

end Registry

/-! ## Checks -/

/-- The settings serve. -/
def Settings.check [Scalar α] (s : Settings α) : Except (Fault α) Unit :=
  if s.isValid then .ok () else .error (.invalidSettings (.tolerance s.tolerance))

/-- The offset of the frame `name` is finite and its rotation has norm one, within `tolerance`. -/
def Pose.checkOffset [Scalar α] (tolerance : α) (name : String) (offset : Pose α) :
    Except (Fault α) Unit :=
  if offset.isFinite then
    let norm := offset.rotation.norm
    if Scalar.lt tolerance (Scalar.abs (norm - 1)) then
      .error (.degenerate name (.offsetNorm norm))
    else .ok ()
  else .error (.degenerate name .offsetNotFinite)

/-- The frame with its parent link made final. -/
def Frame.seal [Scalar α] (tolerance : α) (f : Frame (Option FrameId) α) :
    Except (Fault α) (Frame FrameId α) :=
  match f.mount with
  | .ground => .ok ⟨f.name, .ground⟩
  | .grounded body => .ok ⟨f.name, .grounded body⟩
  | .attached none _ => .error (.structural f.name .parentMissing)
  | .attached (some parent) offset => do
    offset.checkOffset tolerance f.name
    .ok ⟨f.name, .attached parent offset⟩

/-- The parent of a frame given by number, as a number. -/
def parentIndex? (frames : Array (Frame FrameId α)) (k : Nat) : Option Nat :=
  (frames[k]?.bind (·.mount.parent?)).map (·.index)

/-- Every chain of parents ends. -/
def checkAcyclic (frames : Array (Frame FrameId α)) : Except (Fault α) Unit :=
  match (Links.firstOnCycle? frames.size (parentIndex? frames)).bind (frames[·]?) with
  | some f => .error (.structural f.name .cycle)
  | none => .ok ()

namespace Assembly

/-- The frames in their final form, if they make up a model. -/
def sealFrames [Scalar α] (a : Assembly α) : Except (Fault α) (Array (Frame FrameId α)) := do
  a.settings.check
  let frames ← a.frames.mapM (·.seal a.settings.tolerance)
  checkAcyclic frames
  .ok frames

/-! ## Freezing -/

/-- What freezing answers. -/
structure Frozen (α : Type) where
  answer : Except (Fault α) (Model α)
  registry : Registry
  log : List (Event α)

/-- Turns the assembly into a model with the registry's next number, or says why it is none. -/
def freeze [Scalar α] (a : Assembly α) (r : Registry) : Frozen α :=
  match a.sealFrames with
  | .error fault => ⟨.error fault, r, [.rejected fault]⟩
  | .ok frames =>
    let m : Model α := ⟨r.next, a.settings, frames, a.ids, a.bodies⟩
    let report := [.frozen m.number m.size m.bodies]
    ⟨.ok m, ⟨r.issued + 1⟩,
      if a.settings.memoise then report else .memoDisabled m.number :: report⟩

end Assembly
end RigidFrames
