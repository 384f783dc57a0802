/-
  RigidFrames.Decimal.Shortest

  The shortest decimal that reads back as a given double.

  The reals that round to a double form an interval around it, ends included
  if its whole number is even.  The decimal grids are tried from coarse to
  fine; on each only the two neighbours of the double can be nearest, so the
  first grid on which one of them lies in the interval gives the fewest digits.
-/
import RigidFrames.Decimal.Binary

namespace RigidFrames.Decimal

/-- The decimal `coefficient · 10 ^ place`. -/
structure Digits where
  coefficient : Nat
  place : Int
  deriving DecidableEq, Inhabited

/-- The reals that round to a double, over one denominator: `value` is the double, `low` and
    `high` are half way to its neighbours. -/
structure Interval where
  low : Nat
  value : Nat
  high : Nat
  denominator : Nat
  closed : Bool

namespace Interval

/-- The interval of `m · 2 ^ q`.  Below a power of two the doubles lie twice as dense. -/
def ofBinary (m : Nat) (q : Int) : Interval :=
  let up := power 2 q.toNat
  let below := if m = fullPrecision ∧ leastExponent < q then 1 else 2
  { low := (4 * m - below) * up
    value := 4 * m * up
    high := (4 * m + 2) * up
    denominator := 4 * power 2 (-q).toNat
    closed := m % 2 = 0 }

/-- The interval in units of `10 ^ place`. -/
def inUnits (i : Interval) (place : Int) : Interval :=
  let up := power 10 (-place).toNat
  { i with
    low := i.low * up
    value := i.value * up
    high := i.high * up
    denominator := i.denominator * power 10 place.toNat }

/-- The whole number `n` lies in the interval. -/
def holds (i : Interval) (n : Nat) : Bool :=
  let x := n * i.denominator
  if i.closed then decide (i.low ≤ x ∧ x ≤ i.high) else decide (i.low < x ∧ x < i.high)

/-- The whole number in the interval that is nearest to the double, if one of the double's two
    neighbours is in it; a double half way between the two goes as `tie` says. -/
def nearestWhole? (tie : Tie) (i : Interval) : Option Nat :=
  let below := i.value / i.denominator
  match i.holds below, i.holds (below + 1) with
  | false, false => none
  | true, false => some below
  | false, true => some (below + 1)
  | true, true => some (roundDiv tie i.value i.denominator)

/-- Tries the grids `10 ^ place`, `10 ^ (place - 1)`, … -/
def search (tie : Tie) (i : Interval) : Nat → Int → Digits
  | 0, place => ⟨(i.inUnits place).value / (i.inUnits place).denominator, place⟩
  | tries + 1, place =>
    match (i.inUnits place).nearestWhole? tie with
    | some n => ⟨n, place⟩
    | none => search tie i tries (place - 1)

end Interval

/-- The shortest decimal that rounds to `m · 2 ^ q`, for `m` above zero.  The first grid is
    coarser than the number itself, and seventeen digits always suffice. -/
def shortest (tie : Tie) (m : Nat) (q : Int) : Digits :=
  let place := ((m.log2 : Int) + q) * 30103 / 100000 + 2
  (Interval.ofBinary m q).search tie 22 place

end RigidFrames.Decimal
