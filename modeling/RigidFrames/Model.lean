/-
  RigidFrames.Model

  A frozen model: frames whose parent links never change any more, rooted at
  the ground frame and at each frame that follows a body.
-/
import RigidFrames.Fault
import RigidFrames.Frame
import RigidFrames.Settings
import Std.Data.HashMap

namespace RigidFrames

/-- A frozen model. -/
structure Model (α : Type) where
  number : ModelId
  settings : Settings α
  frames : Array (Frame FrameId α)
  ids : Std.HashMap String FrameId
  /-- How many bodies a state of this model has. -/
  bodies : Nat

/-- A frame of a model, for queries that may join two models. -/
structure Node (α : Type) where
  model : Model α
  id : FrameId
  id_lt : id.index < model.frames.size

variable {α : Type}

namespace Model

/-- Number of frames, the ground frame included. -/
def size (m : Model α) : Nat :=
  m.frames.size

/-- The frame with the given number. -/
def frame? (m : Model α) (i : FrameId) : Option (Frame FrameId α) :=
  m.frames[i.index]?

/-- The parent of an attached frame, and the offset to it. -/
def link? (m : Model α) (i : FrameId) : Option (FrameId × Pose α) :=
  match m.frame? i with
  | some ⟨_, .attached parent offset⟩ => some (parent, offset)
  | _ => none

/-- The parent of an attached frame. -/
def parent? (m : Model α) (i : FrameId) : Option FrameId :=
  (m.link? i).map (·.1)

/-! ## Finding frames -/

/-- The node with the given number. -/
def node? (m : Model α) (i : FrameId) : Option (Node α) :=
  if h : i.index < m.frames.size then some ⟨m, i, h⟩ else none

/-- Looks a frame up by number. -/
def find (m : Model α) (i : FrameId) : Except (Fault α) (Node α) :=
  match m.node? i with
  | some n => .ok n
  | none => .error (.unknownFrame (.numberedIn i m.number))

/-- Looks a frame up by name. -/
def findNamed (m : Model α) (name : String) : Except (Fault α) (Node α) :=
  match m.ids[name]?.bind m.node? with
  | some n => .ok n
  | none => .error (.unknownFrame (.named name))

/-- All frames in the order of their numbers. -/
def nodes (m : Model α) : List (Node α) :=
  (List.range m.size).filterMap fun k => m.node? ⟨k⟩

/-- The frame that the others are grounded in. -/
def groundNode? (m : Model α) : Option (Node α) :=
  m.node? .ground

end Model

namespace Node

/-- The frame itself. -/
def frame (n : Node α) : Frame FrameId α :=
  have := n.id_lt
  n.model.frames[n.id.index]

/-- The name of the frame. -/
def name (n : Node α) : String := n.frame.name

/-- What the frame hangs on. -/
def mount (n : Node α) : Mount FrameId α := n.frame.mount

/-- The frame that this one is attached to. -/
def parent? (n : Node α) : Option (Node α) :=
  n.mount.parent?.bind n.model.node?

/-- The two frames belong to one model.  Models are told apart by their numbers. -/
def sameModel (a b : Node α) : Bool :=
  a.model.number == b.model.number

/-- The two are the same frame of the same model. -/
def same (a b : Node α) : Bool :=
  a.sameModel b && a.id == b.id

end Node
end RigidFrames
