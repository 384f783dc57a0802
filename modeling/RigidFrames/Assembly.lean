/-
  RigidFrames.Assembly

  A model under construction.

  Frames are added one by one and may be hung on another parent at any time;
  cycles and missing parents are nobody's business until the model is frozen
  (`RigidFrames.Assembly.Freeze`).  Every operation answers with a `Reply`:
  its result, the assembly afterwards and the events it wrote.
-/
import RigidFrames.Frame
import RigidFrames.Journal
import RigidFrames.Settings
import Std.Data.HashMap

namespace RigidFrames

/-- A model under construction. -/
structure Assembly (α : Type) where
  settings : Settings α
  /-- The frames in the order of addition; a frame's number is its place. -/
  frames : Array (Frame (Option FrameId) α)
  /-- The number of each name. -/
  ids : Std.HashMap String FrameId
  /-- How many bodies have been given out. -/
  bodies : Nat

namespace Assembly

/-- What an operation on an assembly answers. -/
structure Reply (α β : Type) where
  answer : Except (Fault α) β
  after : Assembly α
  log : List (Event α)

variable {α : Type}

/-! ## Single operations -/

/-- The assembly that holds the ground frame only. -/
def empty [Scalar α] : Assembly α where
  settings := .standard
  frames := #[⟨groundName, .ground⟩]
  ids := (∅ : Std.HashMap String FrameId).insert groundName .ground
  bodies := 0

/-- Replaces the settings as a whole. -/
def configure (a : Assembly α) (settings : Settings α) : Assembly α :=
  { a with settings }

/-- The answer of an operation that does nothing. -/
def refuse {β : Type} (a : Assembly α) (fault : Fault α) : Reply α β :=
  ⟨.error fault, a, []⟩

/-- Adds a frame under the next number, unless its name is taken. -/
def add (a : Assembly α) (name : String) (mount : Mount (Option FrameId) α) : Reply α FrameId :=
  if a.ids.contains name then a.refuse (.structural name .duplicateName)
  else
    let id : FrameId := ⟨a.frames.size⟩
    ⟨.ok id, { a with frames := a.frames.push ⟨name, mount⟩, ids := a.ids.insert name id },
      [.frameAdded name id]⟩

/-- Adds a frame that follows the next body. -/
def addGrounded (a : Assembly α) (name : String) : Reply α FrameId :=
  match a.add name (.grounded ⟨a.bodies⟩) with
  | ⟨.ok id, after, log⟩ => ⟨.ok id, { after with bodies := after.bodies + 1 }, log⟩
  | refused => refused

/-- Adds a frame that is fixed to `parent` at `offset`. -/
def addAttached (a : Assembly α) (name : String) (parent : FrameId) (offset : Pose α) :
    Reply α FrameId :=
  if parent.index < a.frames.size then a.add name (.attached (some parent) offset)
  else a.refuse (.structural name (.strangeParent parent))

/-- Adds an attached frame that still lacks its parent. -/
def addUnparented (a : Assembly α) (name : String) (offset : Pose α) : Reply α FrameId :=
  a.add name (.attached none offset)

/-- Hangs an attached frame on another parent, at the offset that it has. -/
def setParent (a : Assembly α) (frame parent : FrameId) : Reply α Unit :=
  match a.frames[frame.index]? with
  | none => a.refuse (.unknownFrame (.numbered frame))
  | some f =>
    if parent.index < a.frames.size then
      match f.mount with
      | .attached _ offset =>
        let moved := ⟨f.name, .attached (some parent) offset⟩
        ⟨.ok (), { a with frames := a.frames.setIfInBounds frame.index moved },
          [.parentSet f.name parent]⟩
      | _ => a.refuse (.structural f.name .takesNoParent)
    else a.refuse (.structural f.name (.strangeParent parent))

/-! ## Chains -/

/-- Adds `count` more links to a chain that has `number` of them and ends in `last`.  The events
    written so far stand in `log`, the latest first. -/
def extendChain (stem : String) (offset : Pose α) :
    Nat → Nat → FrameId → Assembly α → List (Event α) → Reply α FrameId
  | 0, _, last, a, log => ⟨.ok last, a, log.reverse⟩
  | count + 1, number, last, a, log =>
    match a.addAttached (stem ++ toString number) last offset with
    | ⟨.ok id, after, more⟩ =>
      extendChain stem offset count (number + 1) id after (more.reverse ++ log)
    | ⟨.error fault, after, more⟩ => ⟨.error fault, after, (more.reverse ++ log).reverse⟩

/-- Adds `count` frames, each attached to the one before at the same offset and the first to
    `parent`; their names are `stem` with the numbers from 0 on.  The first refusal ends the
    chain, and what was added stays.  Answers the last frame. -/
def addChain (a : Assembly α) (stem : String) (parent : FrameId) (count : Nat)
    (offset : Pose α) : Reply α FrameId :=
  extendChain stem offset count 0 parent a []

end Assembly
end RigidFrames
