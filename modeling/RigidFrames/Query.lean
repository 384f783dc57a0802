/-
  RigidFrames.Query

  What a query costs.  A query answers or fails, and either way it may leave
  poses in the memo and has read poses from the state.
-/
import RigidFrames.Fault
import RigidFrames.PoseMemo

namespace RigidFrames

/-- What queries leave behind. -/
structure Meter (α : Type) where
  memo : PoseMemo α
  /-- How often the pose of a body was read. -/
  reads : Nat

/-- Nothing is known and nothing has been read. -/
def Meter.empty {α : Type} : Meter α :=
  ⟨.empty, 0⟩

/-- A question to a state. -/
abbrev Query (α β : Type) := ExceptT (Fault α) (StateM (Meter α)) β

/-- Puts a question; gives the answer and the meter afterwards. -/
def Query.ask {α β : Type} (q : Query α β) (μ : Meter α) : Except (Fault α) β × Meter α :=
  StateT.run (ExceptT.run q) μ

end RigidFrames
