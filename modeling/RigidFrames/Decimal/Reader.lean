/-
  RigidFrames.Decimal.Reader

  Decimal literals as doubles, correctly rounded: an optional sign, digits
  with at most one point among them, an optional power of ten; or one of the
  words for infinity and "not a number".
-/
import RigidFrames.Decimal.Binary

namespace RigidFrames.Decimal

/-- A decimal digit. -/
def isDigit (c : Char) : Bool :=
  decide ('0' ≤ c ∧ c ≤ '9')

/-- The number that a run of decimal digits spells, read on from `start`. -/
def digitsValue (start : Nat) (cs : List Char) : Nat :=
  cs.foldl (fun n c => 10 * n + (c.toNat - '0'.toNat)) start

namespace Literal

/-- A leading sign and what follows it. -/
def sign : List Char → Bool × List Char
  | '-' :: rest => (true, rest)
  | '+' :: rest => (false, rest)
  | cs => (false, cs)

/-- The power of ten at the end of a literal, zero if there is none. -/
def exponent? : List Char → Option Int
  | [] => some 0
  | e :: rest =>
    if e = 'e' ∨ e = 'E' then
      let (negative, digits) := sign rest
      if digits ≠ [] ∧ digits.all isDigit then
        let n : Int := digitsValue 0 digits
        some (if negative then -n else n)
      else none
    else none

/-- An unsigned literal of digits, point and exponent. -/
def magnitude? (cs : List Char) : Option Float :=
  let whole := cs.takeWhile isDigit
  let behind := cs.dropWhile isDigit
  let (fraction, rest) := match behind with
    | '.' :: more => (more.takeWhile isDigit, more.dropWhile isDigit)
    | more => ([], more)
  if whole = [] ∧ fraction = [] then none
  else (exponent? rest).map fun e =>
    nearestDecimal (digitsValue (digitsValue 0 whole) fraction) (e - fraction.length)

/-- The words for the values that have no digits, in any mixture of cases. -/
def word? (cs : List Char) : Option Float :=
  let lower := String.ofList (cs.map Char.toLower)
  if lower = "inf" ∨ lower = "infinity" then some (1 / 0)
  else if lower = "nan" then some (0 / 0)
  else none

end Literal

/-- The double that a decimal literal stands for. -/
def read? (text : String) : Option Float :=
  let (negative, body) := Literal.sign text.toList
  let value := Literal.magnitude? body <|> Literal.word? body
  value.map fun x => if negative then -x else x

end RigidFrames.Decimal
