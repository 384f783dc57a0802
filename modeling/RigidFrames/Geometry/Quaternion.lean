/-
  RigidFrames.Geometry.Quaternion

  Rotations as quaternions.  A rotation is meant to have norm one, but the
  type does not force it: the product never renormalises and the conjugate
  stands for the inverse, so a quaternion of another norm scales as well.
-/
import RigidFrames.Geometry.Vec3

namespace RigidFrames

/-- A quaternion with vector part (i, j, k) and scalar part w. -/
@[ext] structure Quaternion (α : Type) where
  i : α
  j : α
  k : α
  w : α
  deriving BEq, DecidableEq, Inhabited

namespace Quaternion

variable {α : Type} [Scalar α]

instance : One (Quaternion α) := ⟨⟨0, 0, 0, 1⟩⟩

/-- Product of quaternions: `a * b` turns by `b` first and by `a` second. -/
instance : Mul (Quaternion α) := ⟨fun a b =>
  ⟨a.w * b.i + a.i * b.w + a.j * b.k - a.k * b.j,
   a.w * b.j - a.i * b.k + a.j * b.w + a.k * b.i,
   a.w * b.k + a.i * b.j - a.j * b.i + a.k * b.w,
   a.w * b.w - a.i * b.i - a.j * b.j - a.k * b.k⟩⟩

instance : Neg (Quaternion α) := ⟨fun a => ⟨-a.i, -a.j, -a.k, -a.w⟩⟩

/-- The vector part. -/
def axial (a : Quaternion α) : Vec3 α :=
  ⟨a.i, a.j, a.k⟩

/-- The conjugate, which is the inverse rotation of a unit quaternion. -/
def conj (a : Quaternion α) : Quaternion α :=
  ⟨-a.i, -a.j, -a.k, a.w⟩

/-- Sum of the squares of the components, taken in two pairs. -/
def normSq (a : Quaternion α) : α :=
  (a.i * a.i + a.k * a.k) + (a.j * a.j + a.w * a.w)

/-- Length of the quaternion, one for a rotation. -/
def norm (a : Quaternion α) : α :=
  Scalar.sqrt a.normSq

/-- The vector `v` turned by `a`, as `v + 2w(u × v) + 2u × (u × v)` with `u` the vector part. -/
def rotate (a : Quaternion α) (v : Vec3 α) : Vec3 α :=
  let c := (a.axial.cross v).scale (1 + 1)
  c.scale a.w + a.axial.cross c + v

/-- No component is infinite or "not a number". -/
def isFinite (a : Quaternion α) : Bool :=
  Scalar.isFinite a.i && Scalar.isFinite a.j && Scalar.isFinite a.k && Scalar.isFinite a.w

/-- Equality of rotations: a quaternion and its negative turn every vector alike. -/
def sameRotation [BEq α] (a b : Quaternion α) : Bool :=
  a == b || a == -b

/-- The components in order. -/
def toList (a : Quaternion α) : List α :=
  [a.i, a.j, a.k, a.w]

end Quaternion
end RigidFrames
