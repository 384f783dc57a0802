/-
  RigidFrames.Proofs.Geometry.Isometry

  What rigid poses keep.

  The inner product of two vectors is the scalar part of the product of the two
  as quaternions, up to the sign (`Quaternion.mul_ofVec_w`), and conjugation by
  a quaternion of norm one leaves scalar parts alone
  (`Quaternion.conj_w`).  So a rigid pose keeps inner products of directions,
  and with them lengths, and distances of points.
-/
import RigidFrames.Proofs.Geometry.Motion

namespace RigidFrames

-- ============================================================================
-- Vectors
-- ============================================================================

namespace Vec3

theorem sub_def (a b : Vec3 ℝ) : a - b = ⟨a.x - b.x, a.y - b.y, a.z - b.z⟩ := rfl

theorem dot_def (a b : Vec3 ℝ) : a.dot b = a.x * b.x + a.y * b.y + a.z * b.z := rfl

/-- Length of a direction; the distance of two points is that of their difference. -/
noncomputable def length (a : Vec3 ℝ) : ℝ :=
  Scalar.sqrt (a.dot a)

protected theorem add_sub_add_right (a b c : Vec3 ℝ) : a + c - (b + c) = a - b := by
  ext <;> simp only [add_def, sub_def] <;> ring

end Vec3

-- ============================================================================
-- Turning
-- ============================================================================

namespace Quaternion

theorem rotate_sub (a : Quaternion ℝ) (v v' : Vec3 ℝ) :
    a.rotate (v - v') = a.rotate v - a.rotate v' := by
  ext <;> simp only [rotate_def, Vec3.sub_def] <;> ring

theorem mul_ofVec_w (v v' : Vec3 ℝ) : (ofVec v * ofVec v').w = -v.dot v' := by
  simp only [mul_def, ofVec, Vec3.dot_def]
  ring

/-- Conjugation multiplies the scalar part by the square of the norm. -/
theorem conj_w (a b : Quaternion ℝ) : (a * b * a.conj).w = a.normSq * b.w := by
  simp only [mul_def, conj, normSq_def]
  ring

/-- Inner products do not change when both vectors are turned. -/
theorem dot_rotate {a : Quaternion ℝ} (unit : a.normSq = 1) (v v' : Vec3 ℝ) :
    (a.rotate v).dot (a.rotate v') = v.dot v' := by
  have product : ofVec (a.rotate v) * ofVec (a.rotate v') = a * (ofVec v * ofVec v') * a.conj := by
    calc ofVec (a.rotate v) * ofVec (a.rotate v')
        = a * ofVec v * (a.conj * a) * ofVec v' * a.conj := by
          rw [← conj_ofVec unit, ← conj_ofVec unit]
          simp only [mul_assoc]
      _ = a * (ofVec v * ofVec v') * a.conj := by
          rw [conj_mul_self unit, mul_one]
          simp only [mul_assoc]
  have scalar := congrArg Quaternion.w product
  rw [conj_w, unit, one_mul, mul_ofVec_w, mul_ofVec_w] at scalar
  exact neg_injective scalar

end Quaternion

-- ============================================================================
-- Rigid poses
-- ============================================================================

namespace Pose

variable {x y : Pose ℝ}

theorem actPoint_eq (x : Pose ℝ) (p : Vec3 ℝ) : x.actPoint p = x.actVector p + x.translation :=
  rfl

/-- Points move apart as directions do. -/
theorem actPoint_sub (x : Pose ℝ) (p q : Vec3 ℝ) :
    x.actPoint p - x.actPoint q = x.actVector (p - q) := by
  rw [actPoint_eq, actPoint_eq, Vec3.add_sub_add_right]
  exact (x.rotation.rotate_sub p q).symm

theorem actVector_one (v : Vec3 ℝ) : (1 : Pose ℝ).actVector v = v :=
  Quaternion.rotate_one v

theorem IsRigid.actVector_mul (hx : x.IsRigid) (hy : y.IsRigid) (v : Vec3 ℝ) :
    (x * y).actVector v = x.actVector (y.actVector v) :=
  Quaternion.rotate_mul (isRigid_iff.1 hx) (isRigid_iff.1 hy) v

theorem IsRigid.dot_actVector (hx : x.IsRigid) (v w : Vec3 ℝ) :
    (x.actVector v).dot (x.actVector w) = v.dot w :=
  Quaternion.dot_rotate (isRigid_iff.1 hx) v w

theorem IsRigid.length_actVector (hx : x.IsRigid) (v : Vec3 ℝ) :
    (x.actVector v).length = v.length := by
  rw [Vec3.length, hx.dot_actVector, Vec3.length]

theorem IsRigid.length_actPoint_sub (hx : x.IsRigid) (p q : Vec3 ℝ) :
    (x.actPoint p - x.actPoint q).length = (p - q).length := by
  rw [actPoint_sub, hx.length_actVector]

end Pose

end RigidFrames
