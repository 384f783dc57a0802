/-
  RigidFrames.Scalar

  The numbers that poses are made of.

  Everything below is written once, for any type with these operations:
  doubles when the program runs, an exact field when a statement is about
  geometry and not about rounding.  No law is asked for, because doubles
  satisfy none of the ones that matter.
-/

namespace RigidFrames

/-- Arithmetic, a square root and the three tests that the library makes on numbers. -/
class Scalar (α : Type) extends Zero α, One α, Add α, Sub α, Mul α, Neg α, OfScientific α where
  /-- Square root, used for norms only. -/
  sqrt : α → α
  /-- Distance from zero. -/
  abs : α → α
  /-- Strictly less; false whenever one side is not a number. -/
  lt : α → α → Bool
  /-- Neither infinite nor "not a number". -/
  isFinite : α → Bool

/-- IEEE doubles, each operation rounded by itself. -/
instance : Scalar Float where
  zero := 0
  one := 1
  sqrt := Float.sqrt
  abs := Float.abs
  lt a b := decide (a < b)
  isFinite := Float.isFinite

end RigidFrames
