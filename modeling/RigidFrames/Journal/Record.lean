/-
  RigidFrames.Journal.Record

  Events as log records: a level, a message and named values.
-/
import RigidFrames.Fault.Wording
import RigidFrames.Journal

namespace RigidFrames

/-- How much a record matters. -/
inductive Level where
  | debug
  | info
  | warning
  | error
  deriving DecidableEq, Inhabited

/-- A value in a record. -/
inductive Field where
  | number (n : Nat)
  | text (s : String)
  deriving DecidableEq, Inhabited

/-- A log record.  The values stand in the order in which they became known, those that hold
    for everything a model reports first. -/
structure Record where
  level : Level
  message : String
  fields : List (String × Field)
  deriving DecidableEq, Inhabited

/-- A value as a line of text shows it. -/
def Field.shown : Field → String
  | number n => toString n
  | text s => s

/-- The record of an event. -/
def Event.record : Event Float → Record
  | frameAdded name id =>
    ⟨.debug, "Added frame", [("frame", .text name), ("id", .number id.index)]⟩
  | parentSet frame parent =>
    ⟨.debug, "Set frame parent", [("frame", .text frame), ("parent", .number parent.index)]⟩
  | memoDisabled model =>
    ⟨.debug, "Ground transform caching disabled", [("model_id", .number model.number)]⟩
  | frozen model frames bodies =>
    ⟨.info, "Frozen frame tree",
      [("model_id", .number model.number), ("frames", .number frames),
        ("bodies", .number bodies)]⟩
  | rejected fault => ⟨.warning, "Rejected frame tree", [("error", .text fault.message)]⟩

end RigidFrames
