/-
  RigidFrames.Proofs.Snapshot.Groupoid

  The transforms between the frames of one state fit together.

  In exact arithmetic and with rigid poses throughout, every frame has a
  motion relative to ground that depends on the poses of the bodies alone
  (`Attained.between_ask`).  The transform between two frames is a quotient of
  two such motions, so the laws of transforms are laws of a group: what the
  memo holds, and how deep the frames hang, does not matter.
-/
import RigidFrames.Proofs.Query.Rigid
import RigidFrames.Proofs.Snapshot.Run

namespace RigidFrames

namespace Snapshot

/-- Some actions made this of a new snapshot of the model, and by now every body is at a rigid
    pose. -/
structure Attained (m : Model ℝ) (s : Snapshot ℝ) : Prop where
  reached : ∃ actions, (∀ a ∈ actions, a.Consistent m) ∧ s = (ofModel m).run actions
  rigid : ∀ x ∈ s.poses, x.IsRigid

/-- The bodies of the snapshot are where `bodies` says. -/
def Placed (s : Snapshot ℝ) (bodies : BodyIndex → Motion) : Prop :=
  ∀ body x, s.poses[body.index]? = some x → x = (bodies body).pose

variable {m : Model ℝ} {s : Snapshot ℝ}

theorem Attained.size (attained : Attained m s) : s.poses.size = m.bodies := by
  obtain ⟨actions, -, rfl⟩ := attained.reached
  exact run_poses_size m actions

theorem Attained.exists_placed (attained : Attained m s) : ∃ bodies, s.Placed bodies := by
  have each (body : BodyIndex) :
      ∃ g : Motion, ∀ x, s.poses[body.index]? = some x → x = g.pose := by
    cases found : s.poses[body.index]? with
    | none => exact ⟨1, nofun⟩
    | some x =>
      refine ⟨⟨x, attained.rigid x (Array.mem_of_getElem? found)⟩, fun y same => ?_⟩
      exact (Option.some.inj same).symm
  choose bodies right using each
  exact ⟨bodies, right⟩

theorem Attained.supplies (attained : Attained m s) {bodies : BodyIndex → Motion}
    (placed : s.Placed bodies) : m.Supplies s.state bodies := by
  intro body lt
  rw [← attained.size] at lt
  have found := Array.getElem?_eq_getElem lt
  rw [bodyPose_eq_ok_iff, found, placed body _ found]

theorem Attained.coherent (wf : m.WellFormed) (attained : Attained m s) : Coherent wf s :=
  Reached.coherent wf attained.reached

/-- A question moves no body. -/
theorem Attained.asked (attained : Attained m s) {β : Type} {q : Question ℝ β}
    (about : q.About m) : Attained m (s.run [.ask q]) := by
  obtain ⟨actions, consistent, rfl⟩ := attained.reached
  have after : ((ofModel m).run actions).run [.ask q] = (ofModel m).run (actions ++ [.ask q]) :=
    (run_snoc (ofModel m) actions (.ask q)).symm
  refine ⟨⟨actions ++ [.ask q], fun a mem => ?_, after⟩, attained.rigid⟩
  rcases List.mem_append.1 mem with old | last
  · exact consistent a old
  · rw [List.mem_singleton.1 last]
    exact about.consistent

/-- The thigh can be moved. -/
theorem kneeModel_moved :
    Attained Model.kneeModel ((ofModel Model.kneeModel).run [.setPose ⟨0⟩ Model.kneeOffset]) := by
  refine ⟨⟨[.setPose ⟨0⟩ Model.kneeOffset], List.forall_mem_singleton.2 trivial, rfl⟩,
    fun x mem => ?_⟩
  have poses : ((ofModel Model.kneeModel).run [.setPose ⟨0⟩ Model.kneeOffset]).poses =
      #[Model.kneeOffset] := rfl
  rw [poses, List.mem_toArray, List.mem_singleton] at mem
  rw [mem]
  exact Model.kneeOffset_isRigid

section

variable (wf : m.WellFormed) (rigid : m.RigidOffsets) (attained : Attained m s)
  {bodies : BodyIndex → Motion} (placed : s.Placed bodies) {f a : Node ℝ}

include attained placed

/-- The ground pose of a frame, from the motions of the bodies. -/
theorem Attained.ground_ask (hf : f.model = m) :
    (s.ask (Node.groundPose · f)).1 = .ok (wf.groundMotion rigid bodies f.id).pose := by
  obtain ⟨model, -, view, here, faithful⟩ := attained.coherent wf
  have own : s.state.model = m.number := model
  have supplied := attained.supplies placed
  have inside : f.id.index < m.size := hf ▸ f.id_lt
  have answer := (Model.WellFormed.node_ask here own hf faithful).1
  rw [wf.groundPose_eq_ok rigid supplied inside] at answer
  exact answer

/-- The transform between two frames, from the motions of the bodies. -/
theorem Attained.between_ask (hf : f.model = m) (ha : a.model = m) :
    (s.ask (Node.between · f a)).1 =
      .ok ((wf.groundMotion rigid bodies a.id)⁻¹ * wf.groundMotion rigid bodies f.id).pose := by
  obtain ⟨model, -, view, here, faithful⟩ := attained.coherent wf
  have own : s.state.model = m.number := model
  have supplied := attained.supplies placed
  have inside (n : Node ℝ) (hn : n.model = m) : n.id.index < m.size := hn ▸ n.id_lt
  have answer := Model.WellFormed.between_ask here own hf ha faithful
  rw [Model.WellFormed.between, wf.groundPose_eq_ok rigid supplied (inside f hf),
    wf.groundPose_eq_ok rigid supplied (inside a ha)] at answer
  exact answer

end

/-- The transforms between the frames of a state depend on the poses of the bodies alone, and those
    to the ground frame are the ground poses.  From a frame to itself nothing moves, the way back is
    the inverse, and going on from one frame to another is the product; all of them are rigid. -/
theorem between_groupoid (frozen : m.Frozen) (rigid : m.RigidOffsets) (attained : Attained m s) :
    ∃ X : FrameId → FrameId → Pose ℝ,
      (∀ s', Attained m s' → s'.poses = s.poses →
        (∀ f : Node ℝ, f.model = m →
          (s'.ask (Node.groundPose · f)).1 = .ok (X f.id .ground)) ∧
        (∀ f a : Node ℝ, f.model = m → a.model = m →
          (s'.ask (Node.between · f a)).1 = .ok (X f.id a.id))) ∧
      (∀ f, X f f = 1) ∧
      (∀ f a, X f a = (X a f).inverse) ∧
      (∀ f a b, X a b * X f a = X f b) ∧
      (∀ f a, (X f a).IsRigid) := by
  have wf := frozen.wellFormed
  obtain ⟨bodies, placed⟩ := attained.exists_placed
  let g := wf.groundMotion rigid bodies
  have again {s' : Snapshot ℝ} (same : s'.poses = s.poses) : s'.Placed bodies := by
    rw [Placed, same]
    exact placed
  refine ⟨fun f a => ((g a)⁻¹ * g f).pose, fun s' attained' same => ⟨fun f hf => ?_,
    fun f a hf ha => ?_⟩, fun f => ?_, fun f a => ?_, fun f a b => ?_, fun f a => ?_⟩
  · have origin : g .ground = 1 := wf.groundMotion_ground rigid bodies
    have whole : g f.id = (g .ground)⁻¹ * g f.id := by rw [origin, inv_one, one_mul]
    rw [attained'.ground_ask wf rigid (again same) hf]
    exact congrArg (fun x : Motion => Except.ok x.pose) whole
  · exact attained'.between_ask wf rigid (again same) hf ha
  · exact congrArg Motion.pose (inv_mul_cancel (g f))
  · have back : (g a)⁻¹ * g f = ((g f)⁻¹ * g a)⁻¹ := by rw [mul_inv_rev, inv_inv]
    exact congrArg Motion.pose back
  · have onward : (g b)⁻¹ * g a * ((g a)⁻¹ * g f) = (g b)⁻¹ * g f := by
      rw [mul_assoc, mul_inv_cancel_left]
    exact congrArg Motion.pose onward
  · exact ((g a)⁻¹ * g f).rigid

/-- The thigh has moved.  The way from the shank to ground is asked for, and with what that left in
    the memo the way back. -/
theorem between_groupoid_knee :
    let shank := Model.kneeNode 2
    let ground := Model.kneeNode 0
    let s := (ofModel Model.kneeModel).run [.setPose ⟨0⟩ Model.kneeOffset]
    let s' := s.run [.ask (.between shank ground)]
    ∃ x : Pose ℝ, (s.ask (Node.between · shank ground)).1 = .ok x ∧
      (s'.ask (Node.between · ground shank)).1 = .ok x.inverse ∧ x.IsRigid := by
  intro shank ground s s'
  have poses : s.poses = #[Model.kneeOffset] := rfl
  have rigid : ∀ x ∈ s.poses, x.IsRigid := by
    intro x mem
    rw [poses, List.mem_toArray, List.mem_singleton] at mem
    rw [mem]
    exact Model.kneeOffset_isRigid
  have about : (Question.between shank ground).About Model.kneeModel := by
    intro n mem
    rcases List.mem_pair.1 mem with rfl | rfl <;> rfl
  have moved : Attained Model.kneeModel s :=
    ⟨⟨[.setPose ⟨0⟩ Model.kneeOffset], List.forall_mem_singleton.2 trivial, rfl⟩, rigid⟩
  have asked : Attained Model.kneeModel s' := by
    refine ⟨⟨[.setPose ⟨0⟩ Model.kneeOffset, .ask (.between shank ground)], ?_, rfl⟩, rigid⟩
    exact List.forall_mem_cons.2 ⟨trivial, List.forall_mem_singleton.2 about.consistent⟩
  obtain ⟨X, answers, -, inverse, -, isRigid⟩ :=
    between_groupoid Model.kneeModel_frozen Model.kneeModel_rigidOffsets moved
  refine ⟨X shank.id ground.id, (answers s moved rfl).2 shank ground rfl rfl, ?_, isRigid _ _⟩
  rw [← inverse]
  exact (answers s' asked rfl).2 ground shank rfl rfl

end Snapshot

end RigidFrames
