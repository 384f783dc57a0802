/-
  RigidFrames.PoseMemo

  Ground poses already computed, by frame.

  A frame has one entry at most, marked with the version of the state that it
  was computed for, and is answered from it for exactly that version.  A store
  for an older version than the entry's changes nothing but the count.
-/
import RigidFrames.Geometry.Pose
import RigidFrames.Identity
import Std.Data.HashMap
import Std.Data.HashMap.Lemmas

namespace RigidFrames

/-- Ground poses already computed, and how often that helped. -/
structure PoseMemo (α : Type) where
  entries : Std.HashMap FrameId (Stamp × Pose α)
  /-- How many look-ups found their entry. -/
  hits : Nat
  /-- How many poses were handed in, those that were not kept included. -/
  misses : Nat

namespace PoseMemo

variable {α : Type}

/-- A memo that knows nothing yet. -/
def empty : PoseMemo α :=
  ⟨∅, 0, 0⟩

instance : Inhabited (PoseMemo α) := ⟨empty⟩

/-- Number of frames that have an entry, for whatever version. -/
def size (c : PoseMemo α) : Nat :=
  c.entries.size

/-- The pose of a frame at exactly the given version. -/
def lookup? (c : PoseMemo α) (i : FrameId) (s : Stamp) : Option (Pose α) :=
  match c.entries[i]? with
  | some (stamp, x) => if stamp = s then some x else none
  | none => none

/-- Looks a pose up and counts a success. -/
def fetch (c : PoseMemo α) (i : FrameId) (s : Stamp) : Option (Pose α) × PoseMemo α :=
  match c.lookup? i s with
  | some x => (some x, { c with hits := c.hits + 1 })
  | none => (none, c)

/-- A newer entry than version `s` stands for the frame. -/
def isNewer (c : PoseMemo α) (i : FrameId) (s : Stamp) : Bool :=
  match c.entries[i]? with
  | some (stamp, _) => decide (s < stamp)
  | none => false

/-- Hands in a pose, which is kept unless there is a newer one. -/
def store (c : PoseMemo α) (i : FrameId) (s : Stamp) (x : Pose α) : PoseMemo α :=
  if c.isNewer i s then { c with misses := c.misses + 1 }
  else { c with entries := c.entries.insert i (s, x), misses := c.misses + 1 }

/-- Forgets all poses.  The counts go on. -/
def clear (c : PoseMemo α) : PoseMemo α :=
  { c with entries := ∅ }

/-- The pose of a frame at version `s`: from the memo, or computed and handed in.  The
    computation may use the memo itself; if it fails nothing is handed in. -/
def fetchOrCompute {M : Type → Type} [Monad M] [MonadStateOf (PoseMemo α) M] (i : FrameId)
    (s : Stamp) (compute : M (Pose α)) : M (Pose α) := do
  match ← modifyGet fun c => PoseMemo.fetch c i s with
  | some x => pure x
  | none =>
    let x ← compute
    modify fun c => PoseMemo.store c i s x
    pure x

/-! ## What each operation does to the entries and the counts -/

theorem lookup?_eq_some_iff (c : PoseMemo α) (i : FrameId) (s : Stamp) (x : Pose α) :
    c.lookup? i s = some x ↔ c.entries[i]? = some (s, x) := by
  rw [lookup?]
  cases h : c.entries[i]? with
  | none => simp
  | some e =>
    obtain ⟨stamp, y⟩ := e
    by_cases hs : stamp = s
    · subst hs
      simp
    · simp [hs]

theorem fetch_fst (c : PoseMemo α) (i : FrameId) (s : Stamp) :
    (c.fetch i s).1 = c.lookup? i s := by
  rw [fetch]
  cases c.lookup? i s <;> rfl

theorem fetch_entries (c : PoseMemo α) (i : FrameId) (s : Stamp) :
    (c.fetch i s).2.entries = c.entries := by
  rw [fetch]
  cases c.lookup? i s <;> rfl

theorem fetch_misses (c : PoseMemo α) (i : FrameId) (s : Stamp) :
    (c.fetch i s).2.misses = c.misses := by
  rw [fetch]
  cases c.lookup? i s <;> rfl

/-- The entry of each frame after a store. -/
theorem store_getElem? (c : PoseMemo α) (i j : FrameId) (s : Stamp) (x : Pose α) :
    (c.store i s x).entries[j]? =
      if i = j ∧ c.isNewer i s = false then some (s, x) else c.entries[j]? := by
  rw [store]
  cases h : c.isNewer i s with
  | true => simp
  | false =>
    simp only [Bool.false_eq_true, if_false, and_true]
    rw [Std.HashMap.getElem?_insert]
    by_cases hij : i = j
    · simp [hij]
    · simp [hij]

theorem store_hits (c : PoseMemo α) (i : FrameId) (s : Stamp) (x : Pose α) :
    (c.store i s x).hits = c.hits := by
  rw [store]
  cases c.isNewer i s <;> rfl

theorem store_misses (c : PoseMemo α) (i : FrameId) (s : Stamp) (x : Pose α) :
    (c.store i s x).misses = c.misses + 1 := by
  rw [store]
  cases c.isNewer i s <;> rfl

theorem lookup?_empty (i : FrameId) (s : Stamp) : (empty : PoseMemo α).lookup? i s = none := by
  have missing : (empty : PoseMemo α).entries[i]? = none := Std.HashMap.getElem?_empty
  rw [lookup?, missing]

theorem lookup?_clear (c : PoseMemo α) (i : FrameId) (s : Stamp) :
    c.clear.lookup? i s = none :=
  lookup?_empty i s

end PoseMemo
end RigidFrames
