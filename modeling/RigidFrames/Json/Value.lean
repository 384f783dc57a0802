/-
  RigidFrames.Json.Value

  JSON values, and reading one from a text.  The reader is strict: one value
  and nothing else, no comments, no comma before a closing bracket.  Members
  of an object keep their order and may repeat.
-/
import RigidFrames.Json.Token

namespace RigidFrames.Json

/-- A JSON value. -/
inductive Value where
  | null
  | bool (b : Bool)
  | number (n : Numeral)
  | string (s : CodePoints)
  | array (items : List Value)
  | object (members : List (CodePoints × Value))
  deriving Inhabited

namespace Value

mutual

/-- A value at the start of a list of words, and the words behind it. -/
def ofTokens? : Nat → List Token → Option (Value × List Token)
  | 0, _ => none
  | _ + 1, .null :: rest => some (null, rest)
  | _ + 1, .bool b :: rest => some (bool b, rest)
  | _ + 1, .number n :: rest => some (number n, rest)
  | _ + 1, .string s :: rest => some (string s, rest)
  | _ + 1, .openBracket :: .closeBracket :: rest => some (array [], rest)
  | fuel + 1, .openBracket :: rest =>
    match items? fuel rest with
    | some (items, rest) => some (array items, rest)
    | none => none
  | _ + 1, .openBrace :: .closeBrace :: rest => some (object [], rest)
  | fuel + 1, .openBrace :: rest =>
    match members? fuel rest with
    | some (members, rest) => some (object members, rest)
    | none => none
  | _ + 1, _ => none

/-- The items of an array, one at least, up to and with the closing bracket. -/
def items? : Nat → List Token → Option (List Value × List Token)
  | 0, _ => none
  | fuel + 1, ts =>
    match ofTokens? fuel ts with
    | some (item, .closeBracket :: rest) => some ([item], rest)
    | some (item, .comma :: rest) =>
      match items? fuel rest with
      | some (items, rest) => some (item :: items, rest)
      | none => none
    | _ => none

/-- The members of an object, one at least, up to and with the closing brace. -/
def members? : Nat → List Token → Option (List (CodePoints × Value) × List Token)
  | 0, _ => none
  | fuel + 1, .string key :: .colon :: ts =>
    match ofTokens? fuel ts with
    | some (item, .closeBrace :: rest) => some ([(key, item)], rest)
    | some (item, .comma :: rest) =>
      match members? fuel rest with
      | some (members, rest) => some ((key, item) :: members, rest)
      | none => none
    | _ => none
  | _ + 1, _ => none

end

/-- The value that a text consists of.  Every call on the way takes a word or is followed by one
    that does, so twice the number of words bounds their depth. -/
def ofText? (text : String) : Option Value := do
  let ts ← Token.ofText? text
  match ofTokens? (2 * ts.length + 1) ts with
  | some (value, []) => some value
  | _ => none

/-- The whole number, below `2 ^ 64`, that a text consists of: written without a sign, a point or
    a power of ten. -/
def word? (text : String) : Option Nat :=
  match ofText? text with
  | some (number n) => n.natural?.filter (· < Numeral.wordBound)
  | _ => none

end Value
end RigidFrames.Json
