/-
  RigidFrames.Geometry.Rotation

  Rotations given by an axis and an angle or by a rotation vector, and the
  three angles of a rotation.  These need trigonometry, so they are for
  doubles only.
-/
import RigidFrames.Geometry.Pose

namespace RigidFrames

/-- A quarter turn, in radians. -/
def quarterTurn : Float := 1.5707963267948966

/-- Distance from one to the next double. -/
def unitSpacing : Float := 2.220446049250313e-16

namespace Quaternion

/-- Rotation by `angle` radians about `axis`; the axis need not have length one.
    An axis without a positive square norm (zero, too short to square, or not a
    number) gives no rotation. -/
def ofAxisAngle (axis : Vec3 Float) (angle : Float) : Quaternion Float :=
  let n2 := axis.dot axis
  if 0 < n2 then
    let n := n2.sqrt
    let s := (angle / 2).sin
    ⟨axis.x / n * s, axis.y / n * s, axis.z / n * s, (angle / 2).cos⟩
  else 1

/-- Rotation about the direction of `v` by its length.  A vector shorter than the
    spacing of doubles gives no rotation. -/
def ofRotationVector (v : Vec3 Float) : Quaternion Float :=
  let h : Vec3 Float := ⟨v.x / 2, v.y / 2, v.z / 2⟩
  let n2 := h.dot h
  if n2 ≤ unitSpacing * unitSpacing then 1
  else
    let n := n2.sqrt
    let s := n.sin / n
    ⟨h.x * s, h.y * s, h.z * s, n.cos⟩

/-- Roll, pitch and yaw of a rotation.  Where the pitch is a quarter turn the yaw is
    taken as zero. -/
def eulerAngles (q : Quaternion Float) : Vec3 Float :=
  let ww := q.w * q.w
  let ii := q.i * q.i
  let jj := q.j * q.j
  let kk := q.k * q.k
  let ij := q.i * q.j * 2
  let wk := q.w * q.k * 2
  let wj := q.w * q.j * 2
  let ik := q.i * q.k * 2
  let jk := q.j * q.k * 2
  let wi := q.w * q.i * 2
  let m20 := ik - wj
  if m20.abs < 1 then
    let pitch := -m20.asin
    let c := pitch.cos
    ⟨Float.atan2 ((wi + jk) / c) ((ww - ii - jj + kk) / c), pitch,
     Float.atan2 ((wk + ij) / c) ((ww + ii - jj - kk) / c)⟩
  else if m20 ≤ -1 then
    ⟨Float.atan2 (ij - wk) (wj + ik), quarterTurn, 0⟩
  else
    ⟨Float.atan2 (-(ij - wk)) (-(wj + ik)), -quarterTurn, 0⟩

end Quaternion

namespace Pose

/-- The pose that turns by `angle` about `axis` and does not shift. -/
def ofAxisAngle (axis : Vec3 Float) (angle : Float) : Pose Float :=
  ⟨0, Quaternion.ofAxisAngle axis angle⟩

/-- The pose that shifts by `t` and turns by the rotation vector `v`. -/
def ofRotationVector (t v : Vec3 Float) : Pose Float :=
  ⟨t, Quaternion.ofRotationVector v⟩

end Pose
end RigidFrames
