/-
  RigidFrames.Json.Token

  The words of a JSON text.  White space is the four characters that the
  format names and separates words only; strings and numbers are taken as
  far as they reach.
-/
import RigidFrames.Json.Numeral

namespace RigidFrames.Json

open RigidFrames.Decimal

/-- Text as a list of code points.  Unlike a `String` it can hold half of a surrogate pair,
    which an escape can spell. -/
abbrev CodePoints := List Nat

/-- A word of a JSON text. -/
inductive Token where
  | openBracket
  | closeBracket
  | openBrace
  | closeBrace
  | comma
  | colon
  | null
  | bool (b : Bool)
  | number (n : Numeral)
  | string (s : CodePoints)
  deriving DecidableEq, Inhabited

namespace CodePoints

/-- First half of a surrogate pair. -/
def isHigh (n : Nat) : Bool := decide (0xD800 ≤ n ∧ n < 0xDC00)

/-- Second half of a surrogate pair. -/
def isLow (n : Nat) : Bool := decide (0xDC00 ≤ n ∧ n < 0xE000)

/-- Joins each surrogate pair into the code point that it spells. -/
def joinPairs : List Nat → CodePoints
  | high :: low :: rest =>
    if isHigh high && isLow low then
      (0x10000 + (high - 0xD800) * 0x400 + (low - 0xDC00)) :: joinPairs rest
    else high :: joinPairs (low :: rest)
  | short => short

/-- The characters, unless half of a pair stands alone. -/
def toString? (s : CodePoints) : Option String :=
  if s.any fun n => isHigh n || isLow n then none
  else some (String.ofList (s.map Char.ofNat))

end CodePoints

namespace Token

/-- The white space of the format. -/
def isBlank (c : Char) : Bool :=
  c = ' ' || c = '\t' || c = '\n' || c = '\r'

/-- The value of a hexadecimal digit, in either case. -/
def hexDigit? (c : Char) : Option Nat :=
  if '0' ≤ c ∧ c ≤ '9' then some (c.toNat - '0'.toNat)
  else if 'a' ≤ c ∧ c ≤ 'f' then some (c.toNat - 'a'.toNat + 10)
  else if 'A' ≤ c ∧ c ≤ 'F' then some (c.toNat - 'A'.toNat + 10)
  else none

/-- What the escapes of one letter stand for. -/
def shortEscape? : Char → Option Nat
  | '"' => some '"'.toNat
  | '\\' => some '\\'.toNat
  | '/' => some '/'.toNat
  | 'b' => some 8
  | 'f' => some 12
  | 'n' => some 10
  | 'r' => some 13
  | 't' => some 9
  | _ => none

/-- The rest of a string behind its opening quote: the code units read, in reverse order and on
    top of `units`, and the text behind the closing quote. -/
def stringBody? : List Char → List Nat → Option (List Nat × List Char)
  | '"' :: rest, units => some (units, rest)
  | '\\' :: 'u' :: a :: b :: c :: d :: rest, units =>
    match hexDigit? a, hexDigit? b, hexDigit? c, hexDigit? d with
    | some x, some y, some z, some w =>
      stringBody? rest ((((x * 16 + y) * 16 + z) * 16 + w) :: units)
    | _, _, _, _ => none
  | '\\' :: c :: rest, units =>
    match shortEscape? c with
    | some n => stringBody? rest (n :: units)
    | none => none
  | c :: rest, units =>
    if c = '\\' ∨ c.toNat < 0x20 then none else stringBody? rest (c.toNat :: units)
  | [], _ => none

/-- Digits before the point: a zero alone, or any number of digits without a leading zero. -/
def whole? : List Char → Option (List Char × List Char)
  | '0' :: rest => some (['0'], rest)
  | cs =>
    match cs.takeWhile isDigit with
    | [] => none
    | digits => some (digits, cs.dropWhile isDigit)

/-- A point and at least one digit, or nothing. -/
def fraction? : List Char → Option (List Char × List Char)
  | '.' :: rest =>
    match rest.takeWhile isDigit with
    | [] => none
    | digits => some (digits, rest.dropWhile isDigit)
  | cs => some ([], cs)

/-- A power of ten with at least one digit, or nothing. -/
def exponent? : List Char → Option (Option (Bool × List Char) × List Char)
  | e :: rest =>
    if e = 'e' ∨ e = 'E' then
      let (negative, more) := Literal.sign rest
      match more.takeWhile isDigit with
      | [] => none
      | digits => some (some (negative, digits), more.dropWhile isDigit)
    else some (none, e :: rest)
  | [] => some (none, [])

/-- A number and the text behind it. -/
def number? (cs : List Char) : Option (Numeral × List Char) := do
  let (negative, body) := match cs with
    | '-' :: rest => (true, rest)
    | cs => (false, cs)
  let (whole, rest) ← whole? body
  let (fraction, rest) ← fraction? rest
  let (exponent, rest) ← exponent? rest
  some (⟨negative, whole, fraction, exponent⟩, rest)

/-- The word at the start of a text that does not start with white space. -/
def next? : List Char → Option (Token × List Char)
  | '[' :: rest => some (openBracket, rest)
  | ']' :: rest => some (closeBracket, rest)
  | '\x7b' :: rest => some (openBrace, rest)
  | '\x7d' :: rest => some (closeBrace, rest)
  | ',' :: rest => some (comma, rest)
  | ':' :: rest => some (colon, rest)
  | 'n' :: 'u' :: 'l' :: 'l' :: rest => some (null, rest)
  | 't' :: 'r' :: 'u' :: 'e' :: rest => some (bool true, rest)
  | 'f' :: 'a' :: 'l' :: 's' :: 'e' :: rest => some (bool false, rest)
  | '"' :: rest =>
    (stringBody? rest []).map fun (units, rest) =>
      (string (CodePoints.joinPairs units.reverse), rest)
  | cs => (number? cs).map fun (n, rest) => (number n, rest)

/-- The words of a text, at most `fuel` of them, in reverse order and on top of `done`. -/
def scan : Nat → List Char → List Token → Option (List Token)
  | 0, cs, done => if cs.all isBlank then some done else none
  | fuel + 1, cs, done =>
    match cs.dropWhile isBlank with
    | [] => some done
    | cs =>
      match next? cs with
      | some (t, rest) => scan fuel rest (t :: done)
      | none => none

/-- The words of a text, if it consists of words.  Each takes a character at least, so there are
    no more of them than characters. -/
def ofText? (text : String) : Option (List Token) :=
  let cs := text.toList
  (scan cs.length cs []).map List.reverse

end Token
end RigidFrames.Json
