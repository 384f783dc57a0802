/-
  RigidFrames.Model.Report

  How a frame is described to people who look for mistakes.
-/
import RigidFrames.Model
import RigidFrames.Text.Quoted

namespace RigidFrames

/-- The frame's name, with every character visible, its number and its model. -/
def Node.describe {α : Type} (n : Node α) : String :=
  let name := Text.quoted n.name
  "FrameRef \x7b name: " ++ name ++ s!", id: {n.id.text}, model: ModelId({n.model.number.number})"
    ++ " \x7d"

end RigidFrames
