/-
  RigidFrames.Fault.Wording

  The sentences that report faults.  A number in a sentence is written with
  its shortest digits and without an exponent.
-/
import RigidFrames.Decimal.Layout
import RigidFrames.Fault

namespace RigidFrames

open RigidFrames.Decimal

/-- The reason given for a wiring fault. -/
def WiringFault.reason : WiringFault → String
  | duplicateName => "a frame with this name already exists"
  | strangeParent parent => s!"parent {parent.text} is not part of this model"
  | takesNoParent => "only attached frames can be given a parent"
  | parentMissing => "attached frame was never given a parent"
  | cycle => "parent chain forms a cycle"
  | stated reason => reason

/-- The reason given for a degenerate transform. -/
def DegeneracyFault.reason : DegeneracyFault Float → String
  | offsetNotFinite => "offset is not finite"
  | offsetNorm norm => s!"offset rotation has norm {Layout.sentence.render norm}, not 1"
  | bodyNotFinite body => s!"state pose of body {body.index} is not finite"
  | stated reason => reason

/-- The reason given for a state that does not serve. -/
def StateFault.reason : StateFault → String
  | otherModel state frames => s!"state belongs to {state.text}, frames belong to {frames.text}"
  | bodyOutOfRange body model bodies =>
    s!"body {body.index} out of range; {model.text} has {bodies} bodies"
  | poseMissing body => s!"no pose for body {body.index}"
  | stated reason => reason

/-- What was sought, as messages name it. -/
def Sought.text : Sought → String
  | named name => name
  | numbered id => id.text
  | numberedIn id model => s!"{id.text} in {model.text}"

/-- The reason given for refused settings. -/
def SettingsFault.reason : SettingsFault Float → String
  | tolerance value =>
    s!"unit_tolerance must be positive and finite, got {Layout.sentence.render value}"
  | malformed => "malformed document"
  | unreadable path reason => s!"couldn't read {path}: {reason}"
  | stated reason => reason

namespace Fault

/-- The reason of a fault by itself, empty where the kind says everything. -/
def reason : Fault Float → String
  | structural _ cause => cause.reason
  | invalidState cause => cause.reason
  | degenerate _ cause => cause.reason
  | unknownFrame sought => sought.text
  | foreignFrame => ""
  | invalidSettings cause => cause.reason

/-- The sentence that reports a fault. -/
def message : Fault Float → String
  | structural frame cause => s!"structural configuration error in frame '{frame}': {cause.reason}"
  | invalidState cause => s!"invalid state: {cause.reason}"
  | degenerate frame cause => s!"numerical degeneracy in frame '{frame}': {cause.reason}"
  | unknownFrame sought => s!"unknown frame: {sought.text}"
  | foreignFrame => "frames belong to different models"
  | invalidSettings cause => s!"invalid configuration: {cause.reason}"

/-- Two faults are reported alike: same kind, same frame, same reason. -/
def sameReport (a b : Fault Float) : Bool :=
  a.kind == b.kind && a.frame? == b.frame? && a.reason == b.reason

end Fault
end RigidFrames
