/-
  RigidFrames.Proofs.Geometry.Motion

  Poses over the real numbers, and the rigid ones among them as a group.

  A quaternion of norm one turns a vector by conjugation
  (`Quaternion.conj_ofVec`); that is where the norm is needed, and why
  turning twice is turning by the product.  With it the poses of norm one,
  the `Motion`s, are a group under the product and the inverse that the
  library computes, and statements about chains of poses become statements
  about products in a group.
-/
import Mathlib.Algebra.Group.MinimalAxioms
import Mathlib.Analysis.SpecialFunctions.Sqrt
import Mathlib.Tactic.LinearCombination
import Mathlib.Tactic.Ring
import RigidFrames.Geometry.Pose

namespace RigidFrames

/-- Exact numbers: no operation is rounded, and every number is finite. -/
noncomputable instance : Scalar ℝ where
  sqrt := Real.sqrt
  abs x := |x|
  lt a b := decide (a < b)
  isFinite _ := true

-- ============================================================================
-- Vectors
-- ============================================================================

namespace Vec3

variable (a b : Vec3 ℝ)

theorem zero_def : (0 : Vec3 ℝ) = ⟨0, 0, 0⟩ := rfl

theorem add_def : a + b = ⟨a.x + b.x, a.y + b.y, a.z + b.z⟩ := rfl

theorem neg_def : -a = ⟨-a.x, -a.y, -a.z⟩ := rfl

protected theorem add_assoc (a b c : Vec3 ℝ) : a + b + c = a + (b + c) := by
  simp only [add_def, mk.injEq]
  refine ⟨?_, ?_, ?_⟩ <;> ring

protected theorem add_comm : a + b = b + a := by
  ext <;> simp only [add_def] <;> ring

protected theorem zero_add : 0 + a = a := by
  ext <;> simp only [add_def, zero_def] <;> ring

protected theorem neg_add_cancel : -a + a = 0 := by
  ext <;> simp only [add_def, neg_def, zero_def] <;> ring

end Vec3

-- ============================================================================
-- Quaternions
-- ============================================================================

namespace Quaternion

theorem one_def : (1 : Quaternion ℝ) = ⟨0, 0, 0, 1⟩ := rfl

theorem mul_def (a b : Quaternion ℝ) : a * b =
    ⟨a.w * b.i + a.i * b.w + a.j * b.k - a.k * b.j,
     a.w * b.j - a.i * b.k + a.j * b.w + a.k * b.i,
     a.w * b.k + a.i * b.j - a.j * b.i + a.k * b.w,
     a.w * b.w - a.i * b.i - a.j * b.j - a.k * b.k⟩ := rfl

theorem normSq_def (a : Quaternion ℝ) :
    a.normSq = (a.i * a.i + a.k * a.k) + (a.j * a.j + a.w * a.w) := rfl

/-- The coordinates of a turned vector. -/
theorem rotate_def (a : Quaternion ℝ) (v : Vec3 ℝ) : a.rotate v =
    ⟨(a.j * v.z - a.k * v.y) * (1 + 1) * a.w +
        (a.j * ((a.i * v.y - a.j * v.x) * (1 + 1)) - a.k * ((a.k * v.x - a.i * v.z) * (1 + 1))) +
        v.x,
     (a.k * v.x - a.i * v.z) * (1 + 1) * a.w +
        (a.k * ((a.j * v.z - a.k * v.y) * (1 + 1)) - a.i * ((a.i * v.y - a.j * v.x) * (1 + 1))) +
        v.y,
     (a.i * v.y - a.j * v.x) * (1 + 1) * a.w +
        (a.i * ((a.k * v.x - a.i * v.z) * (1 + 1)) - a.j * ((a.j * v.z - a.k * v.y) * (1 + 1))) +
        v.z⟩ := rfl

noncomputable instance : Monoid (Quaternion ℝ) where
  mul_assoc a b c := by ext <;> simp only [mul_def] <;> ring
  one_mul a := by ext <;> simp only [mul_def, one_def] <;> ring
  mul_one a := by ext <;> simp only [mul_def, one_def] <;> ring

/-- The squares of the norms multiply. -/
theorem normSq_mul (a b : Quaternion ℝ) : (a * b).normSq = a.normSq * b.normSq := by
  simp only [normSq_def, mul_def]
  ring

theorem normSq_conj (a : Quaternion ℝ) : a.conj.normSq = a.normSq := by
  simp only [normSq_def, conj]
  ring

theorem norm_eq_one_iff (a : Quaternion ℝ) : a.norm = 1 ↔ a.normSq = 1 :=
  Real.sqrt_eq_one

theorem conj_mul (a b : Quaternion ℝ) : (a * b).conj = b.conj * a.conj := by
  ext <;> simp only [mul_def, conj] <;> ring

theorem conj_mul_self {a : Quaternion ℝ} (unit : a.normSq = 1) : a.conj * a = 1 := by
  rw [normSq_def] at unit
  ext <;> simp only [mul_def, conj, one_def]
  · ring
  · ring
  · ring
  · linear_combination unit

/-- A vector as a quaternion without scalar part. -/
def ofVec (v : Vec3 ℝ) : Quaternion ℝ :=
  ⟨v.x, v.y, v.z, 0⟩

theorem ofVec_injective : Function.Injective ofVec := by
  intro v v' same
  rw [ofVec, ofVec, mk.injEq] at same
  obtain ⟨x, y, z, -⟩ := same
  exact Vec3.ext x y z

/-- A quaternion of norm one turns a vector by conjugation. -/
theorem conj_ofVec {a : Quaternion ℝ} (unit : a.normSq = 1) (v : Vec3 ℝ) :
    a * ofVec v * a.conj = ofVec (a.rotate v) := by
  rw [normSq_def] at unit
  ext <;> simp only [mul_def, conj, ofVec, rotate_def]
  · linear_combination v.x * unit
  · linear_combination v.y * unit
  · linear_combination v.z * unit
  · ring

theorem rotate_one (v : Vec3 ℝ) : (1 : Quaternion ℝ).rotate v = v := by
  ext <;> simp only [rotate_def, one_def] <;> ring

theorem rotate_add (a : Quaternion ℝ) (v v' : Vec3 ℝ) :
    a.rotate (v + v') = a.rotate v + a.rotate v' := by
  ext <;> simp only [rotate_def, Vec3.add_def] <;> ring

theorem rotate_neg (a : Quaternion ℝ) (v : Vec3 ℝ) : a.rotate (-v) = -a.rotate v := by
  ext <;> simp only [rotate_def, Vec3.neg_def] <;> ring

/-- Turning by a product is turning by one factor after the other. -/
theorem rotate_mul {a b : Quaternion ℝ} (ha : a.normSq = 1) (hb : b.normSq = 1) (v : Vec3 ℝ) :
    (a * b).rotate v = a.rotate (b.rotate v) := by
  have both : (a * b).normSq = 1 := by rw [normSq_mul, ha, hb, one_mul]
  apply ofVec_injective
  calc ofVec ((a * b).rotate v)
      = a * b * ofVec v * (a * b).conj := (conj_ofVec both v).symm
    _ = a * (b * ofVec v * b.conj) * a.conj := by simp only [conj_mul, mul_assoc]
    _ = a * ofVec (b.rotate v) * a.conj := by rw [conj_ofVec hb]
    _ = ofVec (a.rotate (b.rotate v)) := conj_ofVec ha _

end Quaternion

-- ============================================================================
-- Poses
-- ============================================================================

namespace Pose

/-- The rotation has norm one. -/
def IsRigid (x : Pose ℝ) : Prop :=
  x.rotation.norm = 1

theorem isRigid_iff {x : Pose ℝ} : x.IsRigid ↔ x.rotation.normSq = 1 :=
  x.rotation.norm_eq_one_iff

theorem one_def : (1 : Pose ℝ) = ⟨0, 1⟩ := rfl

theorem mul_def (x y : Pose ℝ) : x * y =
    ⟨x.translation + x.rotation.rotate y.translation, x.rotation * y.rotation⟩ := rfl

theorem isRigid_ofTranslation (t : Vec3 ℝ) : (ofTranslation t).IsRigid := by
  rw [isRigid_iff]
  show (1 : Quaternion ℝ).normSq = 1
  rw [Quaternion.normSq_def, Quaternion.one_def]
  ring

theorem IsRigid.one : (1 : Pose ℝ).IsRigid :=
  isRigid_ofTranslation 0

theorem IsRigid.mul {x y : Pose ℝ} (hx : x.IsRigid) (hy : y.IsRigid) : (x * y).IsRigid := by
  rw [isRigid_iff] at hx hy ⊢
  show (x.rotation * y.rotation).normSq = 1
  rw [Quaternion.normSq_mul, hx, hy, one_mul]

theorem IsRigid.inverse {x : Pose ℝ} (hx : x.IsRigid) : x.inverse.IsRigid := by
  rw [isRigid_iff] at hx ⊢
  show x.rotation.conj.normSq = 1
  rw [Quaternion.normSq_conj, hx]

theorem IsRigid.mul_assoc {a b : Pose ℝ} (ha : a.IsRigid) (hb : b.IsRigid) (c : Pose ℝ) :
    a * b * c = a * (b * c) := by
  rw [isRigid_iff] at ha hb
  simp only [mul_def, mk.injEq]
  refine ⟨?_, Semigroup.mul_assoc ..⟩
  rw [Quaternion.rotate_mul ha hb, Quaternion.rotate_add, Vec3.add_assoc]

protected theorem one_mul (x : Pose ℝ) : 1 * x = x := by
  rw [mul_def, one_def]
  ext1
  · show 0 + (1 : Quaternion ℝ).rotate x.translation = x.translation
    rw [Quaternion.rotate_one, Vec3.zero_add]
  · exact MulOneClass.one_mul x.rotation

theorem IsRigid.actPoint_mul {x y : Pose ℝ} (hx : x.IsRigid) (hy : y.IsRigid) (p : Vec3 ℝ) :
    (x * y).actPoint p = x.actPoint (y.actPoint p) := by
  rw [isRigid_iff] at hx hy
  show (x.rotation * y.rotation).rotate p + (x.translation + x.rotation.rotate y.translation) =
    x.rotation.rotate (y.rotation.rotate p + y.translation) + x.translation
  rw [Quaternion.rotate_mul hx hy, Quaternion.rotate_add, Vec3.add_assoc,
    Vec3.add_comm x.translation]

theorem actPoint_one (p : Vec3 ℝ) : (1 : Pose ℝ).actPoint p = p := by
  show (1 : Quaternion ℝ).rotate p + 0 = p
  rw [Quaternion.rotate_one, Vec3.add_comm, Vec3.zero_add]

theorem IsRigid.inverse_mul_self {x : Pose ℝ} (hx : x.IsRigid) : x.inverse * x = 1 := by
  rw [isRigid_iff] at hx
  rw [mul_def, one_def]
  ext1
  · show x.rotation.conj.rotate (-x.translation) + x.rotation.conj.rotate x.translation = 0
    rw [Quaternion.rotate_neg, Vec3.neg_add_cancel]
  · exact Quaternion.conj_mul_self hx

end Pose

-- ============================================================================
-- Motions
-- ============================================================================

/-- A rigid pose. -/
@[ext] structure Motion where
  pose : Pose ℝ
  rigid : pose.IsRigid

namespace Motion

noncomputable instance : Mul Motion := ⟨fun a b => ⟨a.pose * b.pose, a.rigid.mul b.rigid⟩⟩

noncomputable instance : One Motion := ⟨⟨1, .one⟩⟩

noncomputable instance : Inv Motion := ⟨fun a => ⟨a.pose.inverse, a.rigid.inverse⟩⟩

/-- The motions are a group under the product and the inverse of poses. -/
noncomputable instance : Group Motion :=
  .ofLeftAxioms
    (fun a b c => Motion.ext (a.rigid.mul_assoc b.rigid c.pose))
    (fun a => Motion.ext a.pose.one_mul)
    (fun a => Motion.ext a.rigid.inverse_mul_self)

/-- Motions move points. -/
noncomputable instance : MulAction Motion (Vec3 ℝ) where
  smul g p := g.pose.actPoint p
  one_smul := Pose.actPoint_one
  mul_smul a b := a.rigid.actPoint_mul b.rigid

/-- A shift of length one. -/
noncomputable def shift : Motion :=
  ⟨.ofTranslation ⟨1, 0, 0⟩, Pose.isRigid_ofTranslation _⟩

theorem shift_smul_ne (p : Vec3 ℝ) : shift • p ≠ p := by
  intro same
  have moved : ((1 : Quaternion ℝ).rotate p + ⟨1, 0, 0⟩).x = p.x := congrArg Vec3.x same
  rw [Quaternion.rotate_one] at moved
  exact absurd (add_eq_left.1 moved) one_ne_zero

end Motion

end RigidFrames
