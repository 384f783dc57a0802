/-
  RigidFrames.Text.Quoted

  Names in double quotes, for reports that must show every character: a
  quote, a backslash and the hidden characters are written as escapes, and
  everything else, the apostrophe too, as it is.
-/
import RigidFrames.Text.Hidden

namespace RigidFrames.Text

/-- The escape of a character by its number, in lower case and without leading zeros. -/
def codePointEscape (c : Char) : List Char :=
  ['\\', 'u', '\x7b'] ++ Nat.toDigits 16 c.toNat ++ ['\x7d']

/-- A character inside quotes. -/
def quotedChar (c : Char) : List Char :=
  match c with
  | '"' => ['\\', '"']
  | '\\' => ['\\', '\\']
  | '\n' => ['\\', 'n']
  | '\r' => ['\\', 'r']
  | '\t' => ['\\', 't']
  | '\x00' => ['\\', '0']
  | c => if isHidden c then codePointEscape c else [c]

/-- The text between double quotes, with escapes. -/
def quoted (s : String) : String :=
  String.ofList ('"' :: s.toList.flatMap quotedChar ++ ['"'])

end RigidFrames.Text
