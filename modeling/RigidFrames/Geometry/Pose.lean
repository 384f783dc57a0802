/-
  RigidFrames.Geometry.Pose

  Rigid transforms.  A pose `X_AB` takes quantities given in frame B to
  frame A; `X_CB * X_BA` is `X_CA`, the outer one first.
-/
import RigidFrames.Geometry.Quaternion

namespace RigidFrames

/-- A rotation followed by a translation. -/
@[ext] structure Pose (α : Type) where
  translation : Vec3 α
  rotation : Quaternion α
  deriving BEq, DecidableEq, Inhabited

namespace Pose

variable {α : Type} [Scalar α]

instance : One (Pose α) := ⟨⟨0, 1⟩⟩

/-- Composition of poses; the rotation of the result is not renormalised. -/
instance : Mul (Pose α) := ⟨fun a b =>
  ⟨a.translation + a.rotation.rotate b.translation, a.rotation * b.rotation⟩⟩

/-- The pose that shifts by `t` and does not turn. -/
def ofTranslation (t : Vec3 α) : Pose α :=
  ⟨t, 1⟩

/-- The inverse of a pose whose rotation has norm one. -/
def inverse (a : Pose α) : Pose α :=
  ⟨a.rotation.conj.rotate (-a.translation), a.rotation.conj⟩

/-- Where the point `p` is after the transform. -/
def actPoint (a : Pose α) (p : Vec3 α) : Vec3 α :=
  a.rotation.rotate p + a.translation

/-- What becomes of the direction `v`: only the rotation acts. -/
def actVector (a : Pose α) (v : Vec3 α) : Vec3 α :=
  a.rotation.rotate v

/-- No component is infinite or "not a number". -/
def isFinite (a : Pose α) : Bool :=
  a.translation.isFinite && a.rotation.isFinite

/-- Equality of transforms: equal translations, and rotations that turn alike. -/
def sameTransform [BEq α] (a b : Pose α) : Bool :=
  a.translation == b.translation && a.rotation.sameRotation b.rotation

end Pose
end RigidFrames
