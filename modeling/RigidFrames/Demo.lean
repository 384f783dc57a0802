/-
  RigidFrames.Demo

  A worked example: an arm that hangs on ground and a free body with a sensor
  on it.  It assembles and freezes the model, moves the body, asks a few
  questions and reports everything as lines of a log.
-/
import RigidFrames.Assembly.Freeze
import RigidFrames.Geometry.Rotation
import RigidFrames.Journal.Record
import RigidFrames.Model.Ancestry
import RigidFrames.Query.Pairwise
import RigidFrames.Settings.Document
import RigidFrames.Snapshot

namespace RigidFrames.Demo

open RigidFrames.Decimal

/-! ## Lines -/

/-- The version that every line names. -/
def version : String := "0.0.1"

/-- How a line begins, by level. -/
def levelText : Level → String
  | .debug => "DEBG"
  | .info => "INFO"
  | .warning => "WARN"
  | .error => "ERRO"

/-- A record as a line: the values in reverse order, the version last. -/
def line (r : Record) : String :=
  let values := r.fields.reverse.map fun (key, value) => s!", {key}: {value.shown}"
  s!"{levelText r.level} {r.message}{String.join values}, sf_version: {version}"

/-- Numbers in brackets, as lines show a vector. -/
def vectorText (v : Vec3 Float) : String :=
  "[" ++ ", ".intercalate (v.toList.map Layout.document.render) ++ "]"

/-- Numbers in parentheses, as lines show three angles. -/
def anglesText (v : Vec3 Float) : String :=
  "(" ++ ", ".intercalate (v.toList.map Layout.document.render) ++ ")"

/-! ## The example -/

/-- A step of the example: it may fail, and it adds to the log, the latest record first. -/
abbrev Step := ExceptT (Fault Float) (StateM (List Record))

/-- Adds a record. -/
def note (level : Level) (message : String) (fields : List (String × Field)) : Step Unit :=
  modify fun log => ⟨level, message, fields⟩ :: log

/-- Adds the records of events. -/
def noteAll (events : List (Event Float)) : Step Unit :=
  modify fun log => (events.map Event.record).reverse ++ log

/-- An operation on the assembly. -/
def perform {β : Type} (r : Assembly.Reply Float β) : Step (β × Assembly Float) := do
  noteAll r.log
  let answer ← r.answer
  pure (answer, r.after)

/-- A question to a snapshot. -/
def ask {β : Type} (s : Snapshot Float) (q : State Float → Query Float β) :
    Step (β × Snapshot Float) := do
  let (answer, s) := s.ask q
  pure (← answer, s)

/-- Where the settings come from: a file, and its text or the reason why it cannot be read. -/
structure Source where
  path : String
  text : Except String String

/-- The reason given for a file that does not exist. -/
def noSuchFile : String := "No such file or directory (os error 2)"

/-- The settings to use; the standard ones if no file is named. -/
def loadSettings : Option Source → Step (Settings Float)
  | none => pure .standard
  | some source => do
    note .info "Loading tree config" [("path", .text source.path)]
    match source.text with
    | .error reason => throw (.invalidSettings (.unreadable source.path reason))
    | .ok text => Settings.ofText text

/-- The unit vector of the first axis. -/
def xAxis : Vec3 Float := ⟨1, 0, 0⟩

/-- The unit vector of the third axis. -/
def zAxis : Vec3 Float := ⟨0, 0, 1⟩

/-- The numbers of the frames that the example asks about. -/
structure Parts where
  hand : FrameId
  torso : FrameId
  imu : FrameId

/-- An upper arm, turned by a quarter about the third axis, with a hand one unit along it; and a
    free torso with a sensor. -/
def assemble (settings : Settings Float) : Step (Parts × Model Float) := do
  let a := Assembly.empty.configure settings
  let (upperArm, a) ← perform
    (a.addAttached "upper_arm" .ground (.ofAxisAngle zAxis quarterTurn))
  let (hand, a) ← perform (a.addAttached "hand" upperArm (.ofTranslation xAxis))
  let (torso, a) ← perform (a.addGrounded "torso")
  let (imu, a) ← perform (a.addAttached "imu" torso (.ofTranslation ⟨0, 0, 0.3⟩))
  let frozen := a.freeze .empty
  noteAll frozen.log
  pure (⟨hand, torso, imu⟩, ← frozen.answer)

/-- Moves the body that a frame follows. -/
def moveBody (s : Snapshot Float) (n : Node Float) (x : Pose Float) : Step (Snapshot Float) :=
  match n.mount.body? with
  | none => pure s
  | some body => do
    let (answer, s) := s.setPose body x
    let () ← answer
    pure s

/-- The example from beginning to end. -/
def script (source : Option Source) : Step Unit := do
  let settings ← loadSettings source
  let (parts, m) ← assemble settings
  let torso ← m.find parts.torso
  let s ← moveBody (.ofModel m) torso (.ofRotationVector zAxis ⟨0, 0, -quarterTurn⟩)
  let ground ← m.find .ground
  let hand ← m.find parts.hand
  let imu ← m.find parts.imu
  let (point, s) ← ask s fun state => hand.locate state xAxis ground
  note .info "Point on hand in ground" [("point", .text (vectorText point))]
  let (direction, s) ← ask s fun state => hand.expressVector state xAxis ground
  note .info "Hand x-axis in ground" [("direction", .text (vectorText direction))]
  let (x, s) ← ask s fun state => hand.between state imu
  note .info "Hand relative to IMU"
    [("translation", .text (vectorText x.translation)),
      ("rotation", .text (anglesText x.rotation.eulerAngles))]
  for n in m.nodes do
    let base := (n.base?.map Node.name).getD ""
    note .info "Frame"
      [("name", .text n.name), ("base", .text base), ("depth", .number n.depth)]
  note .info "Transform cache"
    [("entries", .number s.memo.size), ("hits", .number s.memo.hits),
      ("misses", .number s.memo.misses)]

/-! ## A run -/

/-- What a run gives: the exit code and the lines of the log. -/
structure Outcome where
  exitCode : Nat
  lines : List String

/-- Runs the example.  A fault ends it with one more record and exit code 1. -/
def run (source : Option Source) : Outcome :=
  let (answer, log) := (script source).run.run []
  match answer with
  | .ok () => ⟨0, (log.reverse).map line⟩
  | .error fault =>
    let failure : Record := ⟨.error, "Demo failed", [("error", .text fault.message)]⟩
    ⟨1, (failure :: log).reverse.map line⟩

end RigidFrames.Demo
