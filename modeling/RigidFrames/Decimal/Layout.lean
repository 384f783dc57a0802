/-
  RigidFrames.Decimal.Layout

  How a double is written: the shortest digits that read back, laid out by
  one of two conventions.  Answers and documents switch to an exponent for
  very large and very small numbers and keep `.0` on whole ones; sentences
  for people never use an exponent.
-/
import RigidFrames.Decimal.Shortest

namespace RigidFrames.Decimal

/-- The choices a convention makes. -/
structure Layout where
  /-- Whether a number is written without an exponent, by the power of ten of its first digit. -/
  positional : Int → Bool
  /-- Whole numbers end in `.0`. -/
  pointZero : Bool
  /-- Which of two shortest texts is written for a number half way between them. -/
  tie : Tie

namespace Layout

/-- Answers and documents: no exponent from 0.00001 up to below 10^16, ties to even. -/
def document : Layout :=
  ⟨fun e => decide (-5 ≤ e ∧ e < 16), true, .toEven⟩

/-- Sentences: never an exponent, ties away from zero. -/
def sentence : Layout :=
  ⟨fun _ => true, false, .up⟩

/-- The decimal digits of a whole number. -/
def digitsOf (n : Nat) : List Char :=
  Nat.toDigits 10 n

/-- Digits without an exponent: the point stands after the first `e + 1` of them, which may lie
    before the first or behind the last. -/
def positionalText (l : Layout) (digits : List Char) (e : Int) : List Char :=
  if e < 0 then
    '0' :: '.' :: List.replicate (-e - 1).toNat '0' ++ digits
  else
    let n := e.toNat + 1
    let whole := digits.take n ++ List.replicate (n - digits.length) '0'
    match digits.drop n with
    | [] => if l.pointZero then whole ++ ['.', '0'] else whole
    | fraction => whole ++ '.' :: fraction

/-- Digits with an exponent: the point stands after the first. -/
def exponentText (digits : List Char) (e : Int) : List Char :=
  let mantissa := match digits with
    | first :: second :: rest => first :: '.' :: second :: rest
    | short => short
  mantissa ++ 'e' :: (if e < 0 then '-' else '+') :: digitsOf e.natAbs

/-- The text of a decimal. -/
def decimalText (l : Layout) (d : Digits) : List Char :=
  let digits := digitsOf d.coefficient
  let e := d.place + digits.length - 1
  if l.positional e then l.positionalText digits e else exponentText digits e

/-- The text of a double; both zeros keep their sign. -/
def render (l : Layout) (x : Float) : String :=
  match Binary.ofFloat x with
  | .notANumber => "NaN"
  | .infinite negative => if negative then "-inf" else "inf"
  | .finite negative m q =>
    let magnitude := if m = 0 then l.positionalText ['0'] 0 else l.decimalText (shortest l.tie m q)
    String.ofList (if negative then '-' :: magnitude else magnitude)

end Layout
end RigidFrames.Decimal
