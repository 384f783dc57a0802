/-
  RigidFrames.Query.Survey

  Many askers and one snapshot.  Each asker wants the transform to ground of
  every frame, several times over, and begins at a frame of its own.  What an
  asker is told does not depend on what the others have left in the memo, so
  a survey hears them one after the other.
-/
import RigidFrames.Query.Pairwise
import RigidFrames.Snapshot

namespace RigidFrames

/-- What came of a survey. -/
structure Survey (α : Type) where
  /-- What the first asker was told in its first round, in the order of the frames. -/
  answers : List (Except (Fault α) (Pose α))
  /-- Everybody was told the same about each frame, every time. -/
  agree : Bool
  /-- How many frames have an entry in the memo afterwards. -/
  entries : Nat
  /-- Every entry was computed by somebody. -/
  computedAll : Bool

namespace Survey

variable {α : Type} [Scalar α]

/-- How often an asker goes through all frames. -/
def rounds : Nat := 4

/-- The list begun at place `k`, and gone round. -/
def rotate {β : Type} (xs : List β) (k : Nat) : List β :=
  let k := k % xs.length
  xs.drop k ++ xs.take k

/-- The questions of one round of asker `k`, and what it was told. -/
def askRound (ground : Node α) (nodes : List (Node α)) (k : Nat) :
    StateM (Snapshot α) (List (Except (Fault α) (Pose α))) :=
  (rotate nodes k).mapM fun f =>
    modifyGet fun s => s.ask fun state => f.between state ground

/-- All rounds of the askers with the numbers below `askers`, each with its asker. -/
def askAll (ground : Node α) (nodes : List (Node α)) (askers : Nat) :
    StateM (Snapshot α) (List (Nat × List (Except (Fault α) (Pose α)))) :=
  ((List.range askers).flatMap fun k => List.replicate rounds k).mapM fun k => do
    pure (k, ← askRound ground nodes k)

/-- Two askers were told the same. -/
def sameAnswer [DecidableEq α] : Except (Fault α) (Pose α) → Except (Fault α) (Pose α) → Bool
  | .ok x, .ok y => decide (x = y)
  | .error e, .error f => decide (e = f)
  | _, _ => false

/-- The rounds of one length agree place by place. -/
def sameRound [DecidableEq α] (a b : List (Except (Fault α) (Pose α))) : Bool :=
  a.length == b.length && (a.zip b).all fun (x, y) => sameAnswer x y

/-- A survey of all frames of a model among so many askers. -/
def take [DecidableEq α] (m : Model α) (askers : Nat) (s : Snapshot α) :
    Survey α × Snapshot α :=
  let (told, s) := match m.groundNode? with
    | none => ([], s)
    | some ground => (askAll ground m.nodes askers).run s
  let answers := match told with
    | [] => []
    | (_, first) :: _ => first
  let agree := told.all fun (k, round) => sameRound round (rotate answers k)
  (⟨answers, agree, s.memo.size, decide (s.memo.size ≤ s.memo.misses)⟩, s)

end Survey
end RigidFrames
