/-
  RigidFrames.Proofs.Model.Ancestry

  Where the way from a frame to its root leads.

  In a well-formed model a climb is not cut short by its bound, so one link
  can be taken off it (`WellFormed.climb_link`).  That gives the base of a
  frame as the only root above it (`WellFormed.above_root_iff`), and
  `Model.rootPath` as the frames on the way (`WellFormed.mem_rootPath`).
-/
import RigidFrames.Proofs.Model.WellFormed

namespace RigidFrames.Model

open Links

variable {α : Type} {m : Model α} {i p a : FrameId}

/-- The frames met from `i` on the first `fuel` links, `i` first. -/
def pathUp (m : Model α) : Nat → FrameId → List FrameId
  | 0, i => [i]
  | fuel + 1, i => i :: (m.parent? i).elim [] (m.pathUp fuel)

/-- The frame and all its ancestors, the frame first. -/
def rootPath (m : Model α) (i : FrameId) : List FrameId :=
  m.pathUp m.size i

/-- The frame follows a body. -/
def follows (m : Model α) (i : FrameId) : Bool :=
  ((m.frame? i).bind (·.mount.body?)).isSome

theorem follows_iff :
    m.follows i = true ↔ ∃ name body, m.frame? i = some ⟨name, .grounded body⟩ := by
  rw [follows]
  rcases m.frame? i with _ | ⟨name, _ | body | ⟨parent, x⟩⟩ <;> simp [Mount.body?]

theorem parent?_of_frame? {f : Frame FrameId α} (found : m.frame? i = some f) :
    m.parent? i = f.mount.parent? := by
  rw [parent?_eq, show m.frames[i.index]? = some f from found, Option.bind_some]

-- ============================================================================
-- One link of a climb
-- ============================================================================

section

variable {β : Type} (step : β → Pose α → β)

theorem climb_of_root (root : m.parent? i = none) (fuel : Nat) (b : β) :
    m.climb step fuel i b = (i, b) := by
  have link := parent?_eq_none_iff.1 root
  cases fuel with
  | zero => rfl
  | succ fuel => rw [climb, link]

/-- With steps enough for the whole route it does not matter how many more there are. -/
theorem climb_enough {l : List FrameId} (route : Route m.parent? i l) {fuel fuel' : Nat}
    (enough : l.length ≤ fuel) (enough' : l.length ≤ fuel') (b : β) :
    m.climb step fuel i b = m.climb step fuel' i b := by
  induction route generalizing fuel fuel' b with
  | root h => rw [climb_of_root step h, climb_of_root step h]
  | @step i j l h _ ih =>
    obtain ⟨offset, link⟩ := exists_link?_of_parent? h
    obtain _ | fuel := fuel
    · cases enough
    obtain _ | fuel' := fuel'
    · cases enough'
    rw [climb, climb, link]
    exact ih (Nat.le_of_succ_le_succ enough) (Nat.le_of_succ_le_succ enough') (step b offset)

/-- The climb from a frame is the climb from its parent with the offset taken into account. -/
theorem WellFormed.climb_link (wf : m.WellFormed) {offset : Pose α}
    (link : m.link? i = some (p, offset)) (b : β) :
    m.climb step m.size i b = m.climb step m.size p (step b offset) := by
  have parent := parent?_of_link? link
  obtain ⟨name, found⟩ := link?_eq_some_iff.1 link
  obtain ⟨l, route⟩ := (wf.ends p).exists_route
  have whole := wf.route_length_le (frame?_lt found) (.step parent route)
  rw [List.length_cons] at whole
  have first : m.climb step (m.size - 1 + 1) i b = m.climb step (m.size - 1) p (step b offset) := by
    rw [climb, link]
  rw [Nat.sub_add_cancel (by omega)] at first
  rw [first]
  exact climb_enough step route (by omega) (by omega) _

end

-- ============================================================================
-- Bases
-- ============================================================================

theorem base_of_root (root : m.parent? i = none) : m.base i = i := by
  rw [base, climb_of_root _ root]

theorem WellFormed.base_link (wf : m.WellFormed) (parent : m.parent? i = some p) :
    m.base i = m.base p := by
  obtain ⟨offset, link⟩ := exists_link?_of_parent? parent
  rw [base, wf.climb_link _ link, base]

/-- The base of a frame is the root above it, and there is no other. -/
theorem WellFormed.above_root_iff (wf : m.WellFormed) :
    Above m.parent? i a ∧ m.parent? a = none ↔ a = m.base i := by
  induction wf.ends i with
  | @root i h =>
    rw [base_of_root h, above_iff]
    refine ⟨?_, ?_⟩
    · rintro ⟨rfl | ⟨j, parent, -⟩, -⟩
      · rfl
      · rw [h] at parent
        cases parent
    · rintro rfl
      exact ⟨.inl rfl, h⟩
  | @step i j h _ ih =>
    rw [wf.base_link h, ← ih]
    refine and_congr_left fun root => ?_
    rw [above_iff]
    refine ⟨?_, ?_⟩
    · rintro (rfl | ⟨k, parent, above⟩)
      · rw [h] at root
        cases root
      · rw [h, Option.some.injEq] at parent
        exact parent ▸ above
    · exact fun above => .inr ⟨j, h, above⟩

theorem WellFormed.above_base (wf : m.WellFormed) (i : FrameId) :
    Above m.parent? i (m.base i) :=
  (wf.above_root_iff.2 rfl).1

theorem WellFormed.parent?_base (wf : m.WellFormed) (i : FrameId) :
    m.parent? (m.base i) = none :=
  (wf.above_root_iff.2 rfl).2

-- ============================================================================
-- Root paths
-- ============================================================================

theorem mem_pathUp {l : List FrameId} (route : Route m.parent? i l) {fuel : Nat}
    (enough : l.length ≤ fuel + 1) : a ∈ m.pathUp fuel i ↔ Above m.parent? i a := by
  induction route generalizing fuel with
  | @root i h =>
    rw [above_iff, h]
    cases fuel <;> simp [pathUp, h]
  | @step i j l h route ih =>
    obtain _ | fuel := fuel
    · -- The route has a second frame, so one step is not enough.
      cases route <;> simp at enough
    · have rest : l.length ≤ fuel + 1 := Nat.le_of_succ_le_succ enough
      rw [above_iff, pathUp, h, List.mem_cons, Option.elim_some, ih rest]
      simp

theorem WellFormed.mem_rootPath (wf : m.WellFormed) (lt : i.index < m.size) :
    a ∈ m.rootPath i ↔ Above m.parent? i a := by
  obtain ⟨l, route⟩ := (wf.ends i).exists_route
  exact mem_pathUp route (Nat.le_succ_of_le (wf.route_length_le lt route))

end RigidFrames.Model
