/-
  RigidFrames.Identity

  The numbers by which frames, bodies, models and versions of a state are
  told apart.  Each kind has a type of its own, so a body number cannot be
  taken for a frame number.
-/

namespace RigidFrames

/-- Number of a frame within its model, in the order of addition; the ground frame is 0. -/
structure FrameId where
  index : Nat
  deriving DecidableEq, Hashable, Inhabited, Ord

/-- Number of a moving body, whose pose a state supplies. -/
structure BodyIndex where
  index : Nat
  deriving DecidableEq, Hashable, Inhabited

/-- Number of a frozen model.  A state made for one model is refused by every other. -/
structure ModelId where
  number : Nat
  deriving DecidableEq, Hashable, Inhabited

/-- Version of a state, raised by every change. -/
structure Stamp where
  version : Nat
  deriving DecidableEq, Hashable, Inhabited

namespace FrameId

/-- The frame that every model starts with. -/
def ground : FrameId := ⟨0⟩

/-- How messages write a frame number. -/
def text (i : FrameId) : String :=
  s!"FrameId({i.index})"

end FrameId

/-- How messages write a model number. -/
def ModelId.text (m : ModelId) : String :=
  s!"model#{m.number}"

namespace Stamp

/-- The version of a new state. -/
def initial : Stamp := ⟨0⟩

/-- The version after a change. -/
def next (s : Stamp) : Stamp :=
  ⟨s.version + 1⟩

instance : LT Stamp := ⟨fun a b => a.version < b.version⟩

instance (a b : Stamp) : Decidable (a < b) :=
  inferInstanceAs (Decidable (a.version < b.version))

end Stamp
end RigidFrames
