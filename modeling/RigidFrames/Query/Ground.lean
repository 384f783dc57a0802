/-
  RigidFrames.Query.Ground

  The pose of a frame relative to ground.

  The evaluation climbs from the frame to the nearest ancestor whose ground
  pose is known, or to the root, and multiplies the offsets on the way back,
  keeping every pose that it computes.  It is written as a machine whose steps
  are single accesses to what evaluations share: one look into the memo, one
  reading of a body, one store.  Evaluations that run at the same time are
  interleavings of such steps; a query by itself runs the machine to its end.
-/
import RigidFrames.Model
import RigidFrames.Query
import RigidFrames.State

namespace RigidFrames

variable {α : Type}

/-- An evaluation under way.  `pending` holds the frames passed on the way up with their
    offsets, the last one first. -/
inductive Walk (α : Type) where
  /-- About to look for the pose of `frame` in the memo. -/
  | look (frame : FrameId) (pending : List (FrameId × Pose α))
  /-- About to read the body that the root `frame` follows. -/
  | read (frame : FrameId) (name : String) (body : BodyIndex)
      (pending : List (FrameId × Pose α))
  /-- About to store the pose `x` of `frame`. -/
  | store (frame : FrameId) (x : Pose α) (pending : List (FrameId × Pose α))
  | done (answer : Except (Fault α) (Pose α))

namespace Walk

/-- With the pose of an ancestor known: the next frame on the way down, or the end. -/
def descend [Scalar α] (x : Pose α) : List (FrameId × Pose α) → Walk α
  | [] => .done (.ok x)
  | (frame, offset) :: pending => .store frame (x * offset) pending

/-- Looks into the memo, if the model keeps one. -/
def fetch (m : Model α) (s : State α) (i : FrameId) (μ : Meter α) : Option (Pose α) × Meter α :=
  if m.settings.memoise then
    let (found, memo) := μ.memo.fetch i s.stamp
    (found, { μ with memo })
  else (none, μ)

/-- Stores a pose, if the model keeps a memo. -/
def keep (m : Model α) (s : State α) (i : FrameId) (x : Pose α) (μ : Meter α) : Meter α :=
  if m.settings.memoise then { μ with memo := μ.memo.store i s.stamp x } else μ

/-- Where the climb goes from a frame whose pose is not known. -/
def climb [Scalar α] (m : Model α) (i : FrameId) (pending : List (FrameId × Pose α)) : Walk α :=
  match m.frame? i with
  | none => .done (.error (.unknownFrame (.numberedIn i m.number)))
  | some ⟨_, .attached parent offset⟩ => .look parent ((i, offset) :: pending)
  | some ⟨_, .ground⟩ => .store i 1 pending
  | some ⟨name, .grounded body⟩ => .read i name body pending

/-- What follows from reading the pose of a body. -/
def receive [Scalar α] (i : FrameId) (name : String) (body : BodyIndex)
    (pending : List (FrameId × Pose α)) : Except (Fault α) (Pose α) → Walk α
  | .error fault => .done (.error fault)
  | .ok x =>
    if x.isFinite then .store i x pending
    else .done (.error (.degenerate name (.bodyNotFinite body)))

/-- One access to the memo or to the state, and what follows from it. -/
def step [Scalar α] (m : Model α) (s : State α) : Walk α → Meter α → Walk α × Meter α
  | .look i pending, μ =>
    match fetch m s i μ with
    | (some x, μ) => (descend x pending, μ)
    | (none, μ) => (climb m i pending, μ)
  | .read i name body pending, μ =>
    (receive i name body pending (s.bodyPose body), { μ with reads := μ.reads + 1 })
  | .store i x pending, μ => (descend x pending, keep m s i x μ)
  | .done answer, μ => (.done answer, μ)

/-- Runs an evaluation by itself for at most `fuel` steps. -/
def run [Scalar α] (m : Model α) (s : State α) : Nat → Walk α → Meter α → Walk α × Meter α
  | 0, w, μ => (w, μ)
  | _ + 1, .done answer, μ => (.done answer, μ)
  | fuel + 1, w, μ =>
    match step m s w μ with
    | (w, μ) => run m s fuel w μ

end Walk

namespace Model

/-- How many steps an evaluation takes at most: a look and a store for each frame of a chain,
    and one reading. -/
def walkBound (m : Model α) : Nat :=
  2 * m.size + 1

/-- The ground pose of a frame from a state that is one of the model's.  The bound is too small
    only on a cycle of parents, which no frozen model has. -/
def evaluate [Scalar α] (m : Model α) (s : State α) (i : FrameId) : Query α (Pose α) :=
  ExceptT.mk fun μ =>
    match Walk.run m s m.walkBound (.look i []) μ with
    | (.done answer, μ) => (answer, μ)
    | (_, μ) => (.error (.structural ((m.frame? i).elim "" (·.name)) .cycle), μ)

/-- The state is one of the model's. -/
def checkState (m : Model α) (s : State α) : Except (Fault α) Unit :=
  if s.model = m.number then .ok ()
  else .error (.invalidState (.otherModel s.model m.number))

/-- The transform from a frame to ground. -/
def groundPose [Scalar α] (m : Model α) (s : State α) (i : FrameId) : Query α (Pose α) := do
  m.checkState s
  m.evaluate s i

/-- The ground poses of several frames in turn, up to the first fault. -/
def groundPoses [Scalar α] (m : Model α) (s : State α) (frames : List FrameId) :
    Query α (List (Pose α)) :=
  frames.mapM fun i => m.groundPose s i

end Model
end RigidFrames
