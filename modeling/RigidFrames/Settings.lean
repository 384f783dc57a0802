/-
  RigidFrames.Settings

  The two choices that hold for a whole model.
-/
import RigidFrames.Scalar

namespace RigidFrames

/-- Settings of a model. -/
structure Settings (α : Type) where
  /-- Keep ground poses once computed, per version of the state. -/
  memoise : Bool
  /-- How far the norm of a rotation may be from one. -/
  tolerance : α
  deriving BEq, DecidableEq, Inhabited

namespace Settings

variable {α : Type} [Scalar α]

/-- What holds where nothing else is said. -/
def standard : Settings α :=
  ⟨true, 1e-9⟩

/-- The tolerance is a positive number. -/
def isValid (s : Settings α) : Bool :=
  Scalar.isFinite s.tolerance && Scalar.lt 0 s.tolerance

end Settings
end RigidFrames
