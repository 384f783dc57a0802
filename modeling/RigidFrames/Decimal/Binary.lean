/-
  RigidFrames.Decimal.Binary

  What a double is: a sign, a whole number and a power of two.  Decimal texts
  are read and written through this view, in exact arithmetic.
-/

namespace RigidFrames.Decimal

/-- The least exponent of two in a double. -/
def leastExponent : Int := -1074

/-- The whole number of a double stays below `2 ^ 53`; from `2 ^ 52` on it has full precision. -/
def fullPrecision : Nat := 4503599627370496

/-- Powers of a base, in whole numbers. -/
abbrev power (base exponent : Nat) : Nat :=
  Nat.pow base exponent

/-- The exponent field of a double that is infinite or no number. -/
def specialField : Nat := 2047

/-- A double taken apart: `finite s m q` is `m · 2 ^ q`, negated if `s`. -/
inductive Binary where
  | notANumber
  | infinite (negative : Bool)
  | finite (negative : Bool) (m : Nat) (q : Int)
  deriving DecidableEq, Inhabited

namespace Binary

/-- The parts of a double, read off its bits. -/
def ofFloat (x : Float) : Binary :=
  let bits := x.toBits.toNat
  let negative := decide (power 2 63 ≤ bits)
  let field : Nat := bits / fullPrecision % (specialField + 1)
  let m := bits % fullPrecision
  if field = specialField then
    if m = 0 then infinite negative else notANumber
  else if field = 0 then finite negative m leastExponent
  else finite negative (fullPrecision + m) ((field : Int) - 1 + leastExponent)

end Binary

/-! ## Rounding to the nearest double -/

/-- Where a half goes. -/
inductive Tie where
  /-- To the even neighbour. -/
  | toEven
  /-- Away from zero. -/
  | up
  deriving DecidableEq, Inhabited

/-- `n / d` rounded to the nearest whole number; a half goes as `tie` says. -/
def roundDiv (tie : Tie) (n d : Nat) : Nat :=
  let below := n / d
  let twice := 2 * (n % d)
  if twice < d then below
  else if d < twice then below + 1
  else
    match tie with
    | .toEven => below + below % 2
    | .up => below + 1

/-- `n / d / 2 ^ q` as a fraction. -/
def scaleDown (n d : Nat) (q : Int) : Nat × Nat :=
  if q < 0 then (n * power 2 q.natAbs, d) else (n, d * power 2 q.natAbs)

/-- The bits of positive infinity, above those of every finite double. -/
def infinityBits : Nat := specialField * fullPrecision

/-- The double nearest to `n / d`, a tie going to the one with even last bit; infinite from
    half a unit above the largest double on.

    The exponent is the one at which the quotient has 53 bits, or the least one there is.
    Rounding up to the next power of two carries into the exponent field by itself. -/
def nearest (n d : Nat) : Float :=
  if n = 0 then 0
  else
    let guess := max ((n.log2 : Int) - (d.log2 : Int) - 52) leastExponent
    let first := scaleDown n d guess
    let q := if first.1 / first.2 < fullPrecision then max (guess - 1) leastExponent else guess
    let exact := scaleDown n d q
    let bits := (q - leastExponent).toNat * fullPrecision + roundDiv .toEven exact.1 exact.2
    Float.ofBits (min bits infinityBits).toUInt64

/-- The double nearest to `digits · 10 ^ exponent`.  Exponents so large or small that the
    outcome is infinite or zero whatever the digits are not computed with. -/
def nearestDecimal (digits : Nat) (exponent : Int) : Float :=
  if digits = 0 then 0
  else if 400 < exponent then Float.ofBits infinityBits.toUInt64
  else if (digits.log2 : Int) + 1 + 3 * exponent < -1100 then 0
  else if exponent < 0 then nearest digits (power 10 exponent.natAbs)
  else nearest (digits * power 10 exponent.natAbs) 1

end RigidFrames.Decimal
