/-
  RigidFrames.Geometry.Vec3

  Points and directions in space.  The order in which a sum is taken is part
  of each definition: over doubles another order gives other last digits.
-/
import RigidFrames.Scalar

namespace RigidFrames

/-- Three coordinates: a point or a direction. -/
@[ext] structure Vec3 (α : Type) where
  x : α
  y : α
  z : α
  deriving BEq, DecidableEq, Inhabited

namespace Vec3

variable {α : Type} [Scalar α]

instance : Zero (Vec3 α) := ⟨⟨0, 0, 0⟩⟩
instance : Add (Vec3 α) := ⟨fun a b => ⟨a.x + b.x, a.y + b.y, a.z + b.z⟩⟩
instance : Sub (Vec3 α) := ⟨fun a b => ⟨a.x - b.x, a.y - b.y, a.z - b.z⟩⟩
instance : Neg (Vec3 α) := ⟨fun a => ⟨-a.x, -a.y, -a.z⟩⟩

/-- The vector with each coordinate multiplied by `s`. -/
def scale (a : Vec3 α) (s : α) : Vec3 α :=
  ⟨a.x * s, a.y * s, a.z * s⟩

/-- Inner product, summed from the first coordinate on. -/
def dot (a b : Vec3 α) : α :=
  a.x * b.x + a.y * b.y + a.z * b.z

/-- Vector product. -/
def cross (a b : Vec3 α) : Vec3 α :=
  ⟨a.y * b.z - a.z * b.y, a.z * b.x - a.x * b.z, a.x * b.y - a.y * b.x⟩

/-- No coordinate is infinite or "not a number". -/
def isFinite (a : Vec3 α) : Bool :=
  Scalar.isFinite a.x && Scalar.isFinite a.y && Scalar.isFinite a.z

/-- The coordinates in order. -/
def toList (a : Vec3 α) : List α :=
  [a.x, a.y, a.z]

end Vec3
end RigidFrames
