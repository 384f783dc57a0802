/-
  RigidFrames.Settings.Document

  Settings as JSON documents.

  A document is an object with the two members named below, or an array of
  the two values in this order; whatever it leaves out takes its standard
  value.  An object may hold other members, which mean nothing, but neither
  of the two may occur twice.
-/
import RigidFrames.Decimal.Layout
import RigidFrames.Fault
import RigidFrames.Json.Value
import RigidFrames.Settings

namespace RigidFrames.Settings

open RigidFrames.Json RigidFrames.Decimal

/-- The member that says whether ground poses are kept. -/
def memoiseKey : String := "cache_ground_transforms"

/-- The member that gives the tolerance. -/
def toleranceKey : String := "unit_tolerance"

/-- The value of the member `key`: `some none` if there is none, `none` if there are several. -/
def member? (key : String) (members : List (CodePoints × Value)) : Option (Option Value) :=
  match members.filter fun m => m.1.toString? == some key with
  | [] => some none
  | [m] => some (some m.2)
  | _ => none

/-- The two values that a document gives, each of them or not. -/
def fields? : Value → Option (Option Value × Option Value)
  | .object members =>
    if members.all fun m => m.1.toString?.isSome then do
      let memoise ← member? memoiseKey members
      let tolerance ← member? toleranceKey members
      some (memoise, tolerance)
    else none
  | .array [] => some (none, none)
  | .array [memoise] => some (some memoise, none)
  | .array [memoise, tolerance] => some (some memoise, some tolerance)
  | _ => none

/-- A value that must be true or false. -/
def bool? : Value → Option Bool
  | .bool b => some b
  | _ => none

/-- A value that must be a number within the doubles. -/
def float? : Value → Option Float
  | .number n => n.toFloat?
  | _ => none

/-- The value read by `read?` if there is one, else `other`. -/
def orElse? {β : Type} (read? : Value → Option β) (other : β) : Option Value → Option β
  | none => some other
  | some v => read? v

/-- The settings that a JSON value gives, whether they are valid or not. -/
def ofValue? (v : Value) : Option (Settings Float) := do
  let (memoise, tolerance) ← fields? v
  let usual : Settings Float := standard
  let memoise ← orElse? bool? usual.memoise memoise
  let tolerance ← orElse? float? usual.tolerance tolerance
  some ⟨memoise, tolerance⟩

/-- The valid settings that a text gives, or what is wrong with it. -/
def ofText (text : String) : Except (Fault Float) (Settings Float) :=
  match (Value.ofText? text).bind ofValue? with
  | none => .error (.invalidSettings .malformed)
  | some s => if s.isValid then .ok s else .error (.invalidSettings (.tolerance s.tolerance))

/-- The settings as a document.  A tolerance that is no number is written as `null`. -/
def toText (s : Settings Float) : String :=
  let tolerance := if s.tolerance.isFinite then Layout.document.render s.tolerance else "null"
  "\x7b\"" ++ memoiseKey ++ "\":" ++ toString s.memoise ++ ",\"" ++ toleranceKey ++ "\":"
    ++ tolerance ++ "\x7d"

end RigidFrames.Settings
