/-
  RigidFrames.Proofs.Snapshot.Factoring

  A ground pose is the ground pose of the base and a fixed rest.

  The transform from a frame to its base is multiplied from the frame upwards,
  a ground pose from the root downwards, and the rule for both goes from the
  parent to the child (`Node.inBase_of_attached`).  With rigid offsets all
  three come to the same, so the rest does not depend on the state, nor on
  what it was asked before (`Reached.ask_of_base`).
-/
import RigidFrames.Proofs.Model.Rooted
import RigidFrames.Proofs.Query.Refusal
import RigidFrames.Proofs.Snapshot.Groupoid

namespace RigidFrames

variable {f b : Node ℝ} {offset : Pose ℝ}

namespace Node

theorem inBase_of_isBase (base : f.mount.isBase = true) : f.inBase = 1 := by
  rw [Node.inBase, Model.inBase, Model.climb_of_root _ (f.isBase_iff.1 base)]

theorem link?_of_attached {i : FrameId} (mount : f.mount = .attached i offset) :
    f.model.link? f.id = some (i, offset) := by
  refine Model.link?_eq_some_iff.2 ⟨f.name, (Model.frame?_node f).trans ?_⟩
  rw [← mount]
  rfl

/-- The transform to the base, from that of the parent. -/
theorem inBase_of_attached (wf : f.model.WellFormed) (rigid : f.model.RigidOffsets) {i : FrameId}
    (mount : f.mount = .attached i offset) :
    ∃ p, f.parent? = some p ∧ p.id = i ∧ f.inBase = p.inBase * offset := by
  have link := link?_of_attached mount
  have parent := Model.parent?_of_link? link
  have inside := wf.parent_lt f.id i parent
  have step := congrArg Motion.pose (wf.mounting_link rigid link)
  exact ⟨⟨f.model, i, inside⟩, (parent?_eq_some_iff wf).2 ⟨rfl, parent⟩, rfl, step⟩

end Node

namespace Snapshot

section

variable {α : Type} [Scalar α] {m : Model α} {s s' : Snapshot α}

theorem Reached.supplied (wf : m.WellFormed) (reached : Reached m s) : m.Supplied s.state := by
  obtain ⟨actions, -, rfl⟩ := reached
  exact wf.supplied_run actions

omit [Scalar α] in
theorem bodyPose_congr (model : s'.model = s.model) (poses : s'.poses = s.poses) :
    s'.state.bodyPose = s.state.bodyPose := by
  simp only [state, State.ofPoses, model, poses]

end

variable {m : Model ℝ} {s s' : Snapshot ℝ} (wf : m.WellFormed)

include wf

/-- Exact numbers are all finite, so no frame is ever refused. -/
theorem Reached.exists_groundPose (reached : Reached m s) {i : FrameId} (lt : i.index < m.size) :
    ∃ x, wf.groundPose s.state i = .ok x := by
  have found := (wf.groundPose_isOk_iff (reached.supplied wf) lt).2 ?_
  · cases pose : wf.groundPose s.state i with
    | ok x => exact ⟨x, rfl⟩
    | error fault =>
      rw [pose] at found
      cases found
  · rintro name body ⟨-, x, -, notFinite⟩
    exact Bool.noConfusion notFinite

/-- The ground pose of a frame and the transform to its base, from the ground pose of the base. -/
theorem ask_of_base (coherent : Coherent wf s) (rigid : m.RigidOffsets) (hf : f.model = m)
    (hb : b.model = m) (base : m.base f.id = b.id) {x : Pose ℝ} (isRigid : x.IsRigid)
    (pose : wf.groundPose s.state b.id = .ok x) :
    (s.ask (Node.groundPose · f)).1 = .ok (x * f.inBase) ∧
      (s.ask (Node.between · f b)).1 = .ok f.inBase := by
  subst hf
  let X : Motion := ⟨x, isRigid⟩
  let Y : Motion := wf.mounting rigid f.id
  have child : wf.groundPose s.state f.id = .ok (X * Y).pose := by
    rw [← base] at pose
    exact wf.groundPose_of_base rigid s.state pose
  have cancelled : X⁻¹ * (X * Y) = Y := inv_mul_cancel_left X Y
  refine ⟨?_, ?_⟩
  · have about : (Question.ground f).About f.model := List.forall_mem_singleton.2 rfl
    exact (coherent.question_ask about).trans child
  · have about : (Question.between f b).About f.model :=
      Question.about_iff.2 ⟨rfl, hb⟩
    refine (coherent.question_ask about).trans ?_
    show wf.between s.state f.id b.id = .ok Y.pose
    rw [Model.WellFormed.between, child, pose]
    exact congrArg (fun g : Motion => Except.ok g.pose) cancelled

end Snapshot

open Snapshot

/-- The transform of a frame to its base is the identity for a base, and for an attached frame the
    transform of its parent times its offset.  It is what is left of any ground pose of the frame:
    if the ground pose of the base is rigid, that of the frame is the product of the two, and the
    transform from the frame to the base is just this.  It does not matter whether the frame is
    asked for before the base or after it. -/
theorem inBase_factors {f : Node ℝ} (frozen : f.model.Frozen) (rigid : f.model.RigidOffsets) :
    (f.mount.isBase = true → f.inBase = 1) ∧
    (∀ i offset, f.mount = .attached i offset →
      ∃ p, f.parent? = some p ∧ p.id = i ∧ f.inBase = p.inBase * offset) ∧
    ∃ b, f.base? = some b ∧
      ∀ s, Snapshot.Reached f.model s → ∃ x, (s.ask (Node.groundPose · b)).1 = .ok x ∧
        (x.IsRigid → ∀ s', Snapshot.Reached f.model s' → s'.poses = s.poses →
          (s'.ask (Node.groundPose · f)).1 = .ok (x * f.inBase) ∧
          (s'.ask (Node.between · f b)).1 = .ok f.inBase) := by
  have wf := frozen.wellFormed
  refine ⟨Node.inBase_of_isBase, fun i offset mount => Node.inBase_of_attached wf rigid mount, ?_⟩
  obtain ⟨b, found, hb, base⟩ := wf.exists_base? (rfl : f.model = f.model)
  refine ⟨b, found, fun s reached => ?_⟩
  have coherent : Coherent wf s := reached.coherent wf
  have inside : b.id.index < f.model.size := hb ▸ b.id_lt
  obtain ⟨x, pose⟩ := reached.exists_groundPose wf inside
  have about : (Question.ground b).About f.model := List.forall_mem_singleton.2 hb
  refine ⟨x, (coherent.question_ask about).trans pose, fun isRigid s' reached' poses => ?_⟩
  have coherent' : Coherent wf s' := reached'.coherent wf
  have same := bodyPose_congr (coherent'.model.trans coherent.model.symm) poses
  rw [← wf.groundPose_congr same] at pose
  exact ask_of_base wf coherent' rigid rfl hb base.symm isRigid pose

/-- The thigh has moved, and is asked for.  Then the way back to the shank is asked for, and after
    it the shank. -/
theorem inBase_factors_knee :
    let thigh := Model.kneeNode 1
    let shank := Model.kneeNode 2
    let s := (ofModel Model.kneeModel).run [.setPose ⟨0⟩ Model.kneeOffset]
    let s' := s.run [.ask (.between thigh shank)]
    shank.inBase = thigh.inBase * Model.kneeOffset ∧
      (s.ask (Node.groundPose · thigh)).1 = .ok Model.kneeOffset ∧
      (s'.ask (Node.groundPose · shank)).1 = .ok (Model.kneeOffset * shank.inBase) ∧
      (s'.ask (Node.between · shank thigh)).1 = .ok shank.inBase := by
  intro thigh shank s s'
  have moved : Snapshot.Reached Model.kneeModel s :=
    ⟨[.setPose ⟨0⟩ Model.kneeOffset], List.forall_mem_singleton.2 trivial, rfl⟩
  have asked : Snapshot.Reached Model.kneeModel s' := by
    have about : (Question.between thigh shank).About Model.kneeModel :=
      Question.about_iff.2 ⟨rfl, rfl⟩
    refine ⟨[.setPose ⟨0⟩ Model.kneeOffset, .ask (.between thigh shank)], ?_, rfl⟩
    exact List.forall_mem_cons.2 ⟨trivial, List.forall_mem_singleton.2 about.consistent⟩
  obtain ⟨-, attached, b, found, factors⟩ :=
    inBase_factors (f := shank) Model.kneeModel_frozen Model.kneeModel_rigidOffsets
  obtain rfl : thigh = b := Option.some.inj found
  obtain ⟨p, parent, -, product⟩ := attached ⟨1⟩ Model.kneeOffset rfl
  obtain rfl : thigh = p := Option.some.inj parent
  obtain ⟨x, answer, answers⟩ := factors s moved
  have pose : x = Model.kneeOffset := by
    have wf := Model.kneeModel_frozen.wellFormed
    have about : (Question.ground thigh).About Model.kneeModel := List.forall_mem_singleton.2 rfl
    have read : wf.groundPose s.state ⟨1⟩ = .ok Model.kneeOffset := by
      have entry : Model.kneeModel.frame? ⟨1⟩ = some ⟨"thigh", .grounded ⟨0⟩⟩ := rfl
      have placed : s.state.bodyPose ⟨0⟩ = .ok Model.kneeOffset := bodyPose_eq_ok_iff.2 rfl
      exact wf.groundPose_of_body s.state entry placed rfl
    exact Except.ok.inj (answer.symm.trans (((moved.coherent wf).question_ask about).trans read))
  subst pose
  obtain ⟨ground, between⟩ := answers Model.kneeOffset_isRigid s' asked rfl
  exact ⟨product, answer, ground, between⟩

end RigidFrames
