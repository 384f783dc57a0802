/-
  RigidFrames.Proofs.Model.Representation

  How the parts of a frozen model belong together.

  `Model.Represents` relates a model to the calls that it was made of: frames
  are numbered in the order of addition, names and numbers stand for each
  other, and the frames that follow bodies share the bodies out.
  `Model.InBounds` is what this is good for: no query looks for a frame that
  the model does not have, and no snapshot is asked for a body that it does
  not hold.
-/
import RigidFrames.Proofs.Snapshot.Run

namespace RigidFrames

open Links

variable {α : Type}

-- ============================================================================
-- Nothing out of bounds
-- ============================================================================

namespace Walk

/-- All frames of the evaluation are frames of the model, and so is the body that it reads. -/
def Within (m : Model α) : Walk α → Prop
  | look i pending | store i _ pending => i.index < m.size ∧ ∀ e ∈ pending, e.1.index < m.size
  | read i _ body pending =>
    i.index < m.size ∧ body.index < m.bodies ∧ ∀ e ∈ pending, e.1.index < m.size
  | done _ => True

/-- The evaluation of frame `i` can come to this, whatever others do to the memo meanwhile. -/
inductive Reached [Scalar α] (m : Model α) (s : State α) (i : FrameId) : Walk α → Prop
  | start : Reached m s i (.look i [])
  | step {w : Walk α} (reached : Reached m s i w) (μ : Meter α) :
      Reached m s i (Walk.step m s w μ).1

variable [Scalar α] {m : Model α}

theorem within_descend (x : Pose α) {pending : List (FrameId × Pose α)}
    (lt : ∀ e ∈ pending, e.1.index < m.size) : Within m (descend x pending) := by
  cases pending with
  | nil => trivial
  | cons e pending =>
    exact ⟨lt e List.mem_cons_self, fun e' mem => lt e' (List.mem_cons_of_mem e mem)⟩

theorem within_climb (wf : m.WellFormed) {i : FrameId} (lt : i.index < m.size)
    {pending : List (FrameId × Pose α)} (others : ∀ e ∈ pending, e.1.index < m.size) :
    Within m (climb m i pending) := by
  rw [climb]
  split
  · trivial
  · next p offset found =>
    refine ⟨wf.parent_lt i p (Model.parent?_of_attached found), fun e mem => ?_⟩
    rcases List.mem_cons.1 mem with rfl | mem
    · exact lt
    · exact others e mem
  · exact ⟨lt, others⟩
  · next found => exact ⟨lt, wf.body_lt found, others⟩

theorem Within.step (wf : m.WellFormed) {w : Walk α} (within : Within m w) (s : State α)
    (μ : Meter α) : Within m (step m s w μ).1 := by
  cases w with
  | look i pending =>
    rcases step_look m s i pending μ with ⟨x, -, down⟩ | up
    · rw [down]
      exact within_descend x within.2
    · rw [up]
      exact within_climb wf within.1 within.2
  | read i name body pending =>
    show Within m (receive i name body pending (s.bodyPose body))
    cases s.bodyPose body with
    | error fault => trivial
    | ok x =>
      rw [receive]
      split
      · exact ⟨within.1, within.2.2⟩
      · trivial
  | store i x pending => exact within_descend x within.2
  | done answer => trivial

theorem Reached.within (wf : m.WellFormed) {s : State α} {i : FrameId} (lt : i.index < m.size)
    {w : Walk α} (reached : Reached m s i w) : Within m w := by
  induction reached with
  | start => exact ⟨lt, nofun⟩
  | step _ μ ih => exact ih.step wf s μ

end Walk

namespace Model

/-- Queries about frames of the model stay among its frames, and snapshots of the model hold the
    bodies that its frames follow. -/
structure InBounds [Scalar α] (m : Model α) : Prop where
  walk : ∀ (s : State α) (i : FrameId), i.index < m.size →
    ∀ w, Walk.Reached m s i w → w.Within m
  climb : ∀ {β : Type} (step : β → Pose α → β) (fuel : Nat) (i : FrameId) (b : β),
    i.index < m.size → (m.climb step fuel i b).1.index < m.size
  parent : ∀ n : Node α, n.model = m → n.parent?.map (·.id) = n.mount.parent?
  base : ∀ n : Node α, n.model = m → n.base?.map (·.id) = some (m.base n.id)
  body : ∀ (actions : List (Action α)) (i : FrameId) (name : String) (body : BodyIndex),
    m.frame? i = some ⟨name, .grounded body⟩ →
    ∃ x, ((Snapshot.ofModel m).run actions).bodyPose body = .ok x

theorem node?_of_lt (m : Model α) {i : FrameId} (lt : i.index < m.size) :
    m.node? i = some ⟨m, i, lt⟩ :=
  dif_pos lt

theorem WellFormed.climb_lt {m : Model α} (wf : m.WellFormed) {β : Type} (step : β → Pose α → β)
    (fuel : Nat) (i : FrameId) (b : β) (lt : i.index < m.size) :
    (m.climb step fuel i b).1.index < m.size := by
  induction fuel generalizing i b with
  | zero => exact lt
  | succ fuel ih =>
    rw [Model.climb]
    split
    · exact lt
    · next p offset link =>
      have inside := wf.parent_lt i p (parent?_of_link? link)
      exact ih p (step b offset) inside

theorem frame?_node (n : Node α) : n.model.frame? n.id = some n.frame :=
  Array.getElem?_eq_getElem n.id_lt

/-- The base of a node is a node of the same model. -/
theorem WellFormed.exists_base? {m : Model α} (wf : m.WellFormed) {n : Node α}
    (of_model : n.model = m) : ∃ b, n.base? = some b ∧ b.model = m ∧ b.id = m.base n.id := by
  subst of_model
  have inside : (n.model.base n.id).index < n.model.size :=
    wf.climb_lt _ n.model.size n.id () n.id_lt
  exact ⟨⟨n.model, _, inside⟩, node?_of_lt n.model inside, rfl, rfl⟩

theorem WellFormed.inBounds [Scalar α] {m : Model α} (wf : m.WellFormed) : m.InBounds where
  walk s i lt w reached := reached.within wf lt
  climb := wf.climb_lt
  parent n eq := by
    subst eq
    rw [Node.parent?]
    cases link : n.mount.parent? with
    | none => rfl
    | some p =>
      have parent : n.model.parent? n.id = some p := by
        rw [parent?_eq, show n.model.frames[n.id.index]? = _ from frame?_node n]
        exact link
      rw [Option.bind_some, node?_of_lt n.model (wf.parent_lt n.id p parent)]
      rfl
  base n eq := by
    obtain ⟨b, found, -, id⟩ := wf.exists_base? eq
    rw [found, Option.map_some, id]
  body actions i name body found := by
    have inside := wf.body_lt found
    rw [← Snapshot.run_poses_size m actions] at inside
    refine ⟨((Snapshot.ofModel m).run actions).poses[body.index], ?_⟩
    simp [Snapshot.bodyPose, Snapshot.state, State.ofPoses, inside]

/-- Whatever is done to a snapshot of the model, it knows the bodies that its frames follow. -/
theorem WellFormed.supplied_run [Scalar α] {m : Model α} (wf : m.WellFormed)
    (actions : List (Action α)) : m.Supplied ((Snapshot.ofModel m).run actions).state :=
  fun found => wf.inBounds.body actions _ _ _ found

-- ============================================================================
-- The model and the calls
-- ============================================================================

theorem find_eq_ok_iff {m : Model α} {i : FrameId} {n : Node α} :
    m.find i = .ok n ↔ ∃ lt, n = ⟨m, i, lt⟩ := by
  rw [find, node?]
  by_cases lt : i.index < m.frames.size
  · simp [lt, eq_comm]
  · simp [lt]

/-- How a model stands to the calls that it was made of. -/
structure Represents (m : Model α) [Scalar α] (calls : List (Call α)) : Prop where
  /-- Frame 0 is the ground frame, and no other frame is. -/
  ground : m.frame? ⟨0⟩ = some ⟨groundName, .ground⟩
  only_ground : ∀ i f, m.frame? i = some f → f.mount = .ground → i = ⟨0⟩
  /-- Each addition got the next number, and was reported with it. -/
  size : m.size = (Assembly.additions calls).length + 1
  added : ∀ k : Nat, (Assembly.additions calls)[k]? =
    (m.frame? ⟨k + 1⟩).map fun f => (f.name, ⟨k + 1⟩)
  reported : Assembly.reported calls = Assembly.additions calls
  nodes : m.nodes.map (·.id) = (List.range m.size).map FrameId.mk
  /-- Names and numbers stand for each other. -/
  named : ∀ i n, m.find i = .ok n → m.findNamed n.name = .ok n
  found : ∀ name n, m.findNamed name = .ok n → n.name = name ∧ m.find n.id = .ok n
  distinct : ∀ i j f g, m.frame? i = some f → m.frame? j = some g → f.name = g.name → i = j
  unknown : ∀ name, (∀ i f, m.frame? i = some f → f.name ≠ name) →
    m.findNamed name = .error (.unknownFrame (.named name))
  /-- The frames that follow bodies have the bodies 0, 1, ... in the order of their numbers. -/
  bodies : m.frames.toList.filterMap (·.mount.body?) = (List.range m.bodies).map BodyIndex.mk
  /-- Links stay among the frames and do not go round. -/
  parent_lt : ∀ i p, m.parent? i = some p → p.index < m.size
  acyclic : ∀ i, Ends m.parent? i ∧ ¬ OnCycle m.parent? i

theorem WellFormed.findNamed_eq_ok_iff {m : Model α} (wf : m.WellFormed) {name : String}
    {n : Node α} : m.findNamed name = .ok n ↔ n.model = m ∧ n.name = name := by
  have asked : m.findNamed name = .ok n ↔ m.ids[name]?.bind m.node? = some n := by
    rw [findNamed]
    split
    · next found => simp [found]
    · next missing => simp [missing]
  rw [asked, Option.bind_eq_some_iff]
  refine ⟨?_, ?_⟩
  · rintro ⟨i, listed, node⟩
    obtain ⟨f, found, same⟩ := (wf.ids_iff name i).1 listed
    have lt : i.index < m.size := frame?_lt found
    rw [node?_of_lt m lt, Option.some.injEq] at node
    subst node
    have frame : some (Node.frame ⟨m, i, lt⟩) = some f := (frame?_node ⟨m, i, lt⟩).symm.trans found
    rw [Option.some.injEq] at frame
    exact ⟨rfl, by rw [Node.name, frame, same]⟩
  · rintro ⟨rfl, rfl⟩
    have listed := (wf.ids_iff n.name n.id).2 ⟨n.frame, frame?_node n, rfl⟩
    exact ⟨n.id, listed, node?_of_lt n.model n.id_lt⟩

theorem nodes_ids (m : Model α) : m.nodes.map (·.id) = (List.range m.size).map FrameId.mk := by
  have each : ∀ k ∈ List.range m.size,
      (m.node? ⟨k⟩).map (·.id) = some (FrameId.mk k) := by
    intro k mem
    rw [node?_of_lt m (i := ⟨k⟩) (List.mem_range.1 mem)]
    rfl
  rw [nodes, List.map_filterMap, List.filterMap_congr each, List.filterMap_eq_map']

variable [Scalar α] {calls : List (Call α)} {r : Registry} {m : Model α}

/-- A model represents the calls that it was made of, and its queries stay in bounds. -/
theorem represents_of_freeze (answer : ((Assembly.built calls).freeze r).answer = .ok m) :
    m.Represents calls ∧ m.InBounds := by
  have wf := wellFormed_of_freeze answer
  obtain ⟨length, reported⟩ := Assembly.built_reported calls
  have additions := Assembly.additions_eq calls
  have added (k : Nat) : (Assembly.additions calls)[k]? =
      (m.frame? ⟨k + 1⟩).map fun f => (f.name, ⟨k + 1⟩) := by
    rw [additions, reported, frames_of_freeze answer, Option.map_map]
    rfl
  refine ⟨⟨wf.ground, wf.only_ground, ?_, added, additions.symm, m.nodes_ids, ?_, ?_, ?_, ?_,
    wf.bodies, wf.parent_lt, fun i => ⟨wf.ends i, fun cycle => cycle.not_ends (wf.ends i)⟩⟩,
    wf.inBounds⟩
  · rw [additions, length]
    exact size_of_freeze answer
  · intro i n found
    obtain ⟨lt, rfl⟩ := find_eq_ok_iff.1 found
    exact wf.findNamed_eq_ok_iff.2 ⟨rfl, rfl⟩
  · intro name n found
    obtain ⟨rfl, same⟩ := wf.findNamed_eq_ok_iff.1 found
    exact ⟨same, find_eq_ok_iff.2 ⟨n.id_lt, rfl⟩⟩
  · exact fun i j f g hf hg same => wf.eq_of_name hf hg same
  · intro name unused
    cases found : m.findNamed name with
    | ok n =>
      obtain ⟨rfl, same⟩ := wf.findNamed_eq_ok_iff.1 found
      exact absurd same (unused n.id n.frame (frame?_node n))
    | error fault =>
      rw [findNamed] at found
      split at found
      · cases found
      · exact found.symm

theorem represents_of_freeze_marker :
    ((Assembly.built markerCalls).freeze .empty).answer = .ok markerModel ∧
    markerModel.Represents markerCalls ∧ markerModel.InBounds :=
  ⟨freeze_markerCalls, represents_of_freeze freeze_markerCalls⟩

end Model
end RigidFrames
