/-
  RigidFrames.Json.Numeral

  Numbers as they are spelled in a JSON text, and the values they stand for.
  A numeral is kept as spelled until somebody asks for a value, so a numeral
  that no double can hold is still a well-formed one.
-/
import RigidFrames.Decimal.Reader

namespace RigidFrames.Json

open RigidFrames.Decimal

/-- The parts of a number as written: a sign, digits before the point, digits behind it (none
    without a point), and a power of ten with its sign. -/
structure Numeral where
  negative : Bool
  whole : List Char
  fraction : List Char
  exponent : Option (Bool × List Char)
  deriving DecidableEq, Inhabited

namespace Numeral

/-- The numeral's value if it is spelled as a whole number without a sign. -/
def natural? (n : Numeral) : Option Nat :=
  if n.negative = false ∧ n.fraction = [] ∧ n.exponent = none then
    some (digitsValue 0 n.whole)
  else none

/-! ## The double of a numeral

The digits are gathered in a 64-bit word for as long as they fit; what does
not fit only counts as a power of ten.  The word is then multiplied or
divided by a power of ten, so the outcome can be a last digit away from the
nearest double. -/

/-- One more than the largest 64-bit word. -/
def wordBound : Nat := 18446744073709551616

/-- Appends digits to `n` until the next one would leave the word; also gives the digits left. -/
def gather : Nat → List Char → Nat × List Char
  | n, [] => (n, [])
  | n, c :: cs =>
    let more := 10 * n + (c.toNat - '0'.toNat)
    if more < wordBound then gather more cs else (n, c :: cs)

/-- A power of ten as a double. -/
def powerOfTen (e : Nat) : Float :=
  nearestDecimal 1 e

/-- The largest power of ten below infinity. -/
def greatestPower : Nat := 308

/-- `word · 10 ^ e` by one multiplication, or by one or two divisions; `none` beyond the doubles. -/
def scale? (word : Nat) (e : Int) : Option Float :=
  let f := nearest word 1
  if 0 ≤ e then
    if word = 0 then some f
    else if greatestPower < e.natAbs then none
    else
      let g := f * powerOfTen e.natAbs
      if g.isInf then none else some g
  else if e.natAbs ≤ greatestPower then some (f / powerOfTen e.natAbs)
  else if e.natAbs ≤ 2 * greatestPower then
    some (f / powerOfTen greatestPower / powerOfTen (e.natAbs - greatestPower))
  else some 0

/-- The power of ten that the numeral is written with. -/
def writtenExponent (n : Numeral) : Int :=
  match n.exponent with
  | none => 0
  | some (negative, digits) =>
    let e : Int := digitsValue 0 digits
    if negative then -e else e

/-- The double that the numeral stands for; `none` if it is beyond the doubles. -/
def toFloat? (n : Numeral) : Option Float :=
  let (head, dropped) := gather 0 n.whole
  let (word, left) := gather head n.fraction
  let kept : Int := n.fraction.length - left.length
  let magnitude := scale? word (dropped.length - kept + n.writtenExponent)
  magnitude.map fun x => if n.negative then -x else x

end Numeral
end RigidFrames.Json
