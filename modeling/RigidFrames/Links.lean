/-
  RigidFrames.Links

  Whether following parent links always comes to an end, and if not, which
  frame to blame.

  Frames are the numbers below `n`, and `up` gives the parent of each.  From
  every frame in turn a walk follows the links.  It marks the frames that it
  passes and keeps them on its path; a mark of an earlier walk ends it, since
  that walk came to an end, and a mark of its own path is a cycle.  When a walk
  is over its path is cleared, and the frames that were on it are done.  So no
  frame is passed twice, and the frame blamed is the first one on the cycle,
  never one of the tail that leads into it.
-/

namespace RigidFrames.Links

/-- What is known of a frame. -/
inductive Mark where
  /-- Nobody has been there. -/
  | unvisited
  /-- The walk under way has been there. -/
  | onPath
  /-- An earlier walk has been there, and came to an end. -/
  | done
  deriving DecidableEq, Inhabited

/-- How far the search has come: a mark for each frame, and the frames that the walk under way has
    passed, in their order. -/
structure Progress where
  marks : Array Mark
  path : Array Nat
  deriving DecidableEq, Inhabited

namespace Progress

/-- Nobody has been anywhere. -/
def start (n : Nat) : Progress :=
  ⟨Array.replicate n .unvisited, #[]⟩

/-- The walk passes a frame. -/
def pass (p : Progress) (here : Nat) : Progress :=
  ⟨p.marks.setIfInBounds here .onPath, p.path.push here⟩

/-- The walk is over: the path is cleared, and what was on it is done. -/
def settle (p : Progress) : Progress :=
  ⟨p.path.foldl (fun marks i => marks.setIfInBounds i .done) p.marks, #[]⟩

/-- How many frames are still to be visited. -/
def unvisited (p : Progress) : Nat :=
  p.marks.count .unvisited

theorem unvisited_pass_lt {p : Progress} {here : Nat} (free : p.marks[here]? = some .unvisited) :
    (p.pass here).unvisited < p.unvisited := by
  obtain ⟨lt, mark⟩ := Array.getElem?_eq_some_iff.1 free
  have one : 0 < p.marks.count .unvisited := Array.count_pos_iff.2 (mark ▸ Array.getElem_mem lt)
  rw [unvisited, unvisited, pass, Array.setIfInBounds, dif_pos lt, Array.count_set lt, mark]
  simp only [beq_self_eq_true, if_true]
  exact Nat.sub_lt one Nat.one_pos

end Progress

/-- What a walk leaves behind, and the frame of its own path that it came back to, if it did. -/
structure Trail where
  progress : Progress
  cycle? : Option Nat
  deriving DecidableEq, Inhabited

/-- Goes on with a walk at the frame `next`; without one the walk is past a root.  Each frame that
    is passed leaves one less to visit. -/
def walk (up : Nat → Option Nat) (p : Progress) : (next : Option Nat) → Trail
  | none => ⟨p, none⟩
  | some here =>
    match _ : p.marks[here]? with
    | some .unvisited => walk up (p.pass here) (up here)
    | some .onPath => ⟨p, some here⟩
    | some .done | none => ⟨p, none⟩
termination_by p.unvisited
decreasing_by exact Progress.unvisited_pass_lt ‹_›

section

variable {up : Nat → Option Nat} {p : Progress} {here : Nat}

theorem walk_none : walk up p none = ⟨p, none⟩ := by
  rw [walk]

theorem walk_of_unvisited (mark : p.marks[here]? = some .unvisited) :
    walk up p (some here) = walk up (p.pass here) (up here) := by
  rw [walk]
  split <;> simp_all only [reduceCtorEq, Option.some.injEq]

theorem walk_of_onPath (mark : p.marks[here]? = some .onPath) :
    walk up p (some here) = ⟨p, some here⟩ := by
  rw [walk]
  split <;> simp_all only [reduceCtorEq, Option.some.injEq]

theorem walk_of_done (mark : p.marks[here]? = some .done) :
    walk up p (some here) = ⟨p, none⟩ := by
  rw [walk]
  split <;> simp_all only [reduceCtorEq, Option.some.injEq]

end

/-- The walk from frame `start`, up to its end.  The error is the frame of its own path that it came
    back to; then nothing is cleared. -/
def walkFrom (up : Nat → Option Nat) (p : Progress) (start : Nat) : Except Nat Progress :=
  let trail := walk up p (some start)
  match trail.cycle? with
  | some frame => .error frame
  | none => .ok trail.progress.settle

/-- Walks from each of the frames in turn, until a walk comes back to its own path. -/
def search (up : Nat → Option Nat) (starts : List Nat) (p : Progress) : Except Nat Progress :=
  starts.foldlM (walkFrom up) p

/-- The first frame on a cycle that is met when the links are followed from frame 0, then from
    frame 1 and so on; none if every chain of links ends. -/
def firstOnCycle? (n : Nat) (up : Nat → Option Nat) : Option Nat :=
  match search up (List.range n) (.start n) with
  | .error frame => some frame
  | .ok _ => none

end RigidFrames.Links
