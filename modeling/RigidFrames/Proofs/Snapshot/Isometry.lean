/-
  RigidFrames.Proofs.Snapshot.Isometry

  Places and directions as seen from other frames.

  With rigid poses throughout, what becomes of a place on the way from one
  frame to another is what the quotient of their motions makes of it
  (`Attained.locate_ask`), and so for directions.  A detour by a third frame is
  then the action of a product, and distances and angles are kept because each
  motion keeps them.
-/
import RigidFrames.Proofs.Geometry.Isometry
import RigidFrames.Proofs.Snapshot.Groupoid

namespace RigidFrames

namespace Snapshot

variable {m : Model ℝ} {s : Snapshot ℝ}

section

variable (wf : m.WellFormed) (rigid : m.RigidOffsets) (attained : Attained m s)
  {bodies : BodyIndex → Motion} (placed : s.Placed bodies) {f a : Node ℝ} (hf : f.model = m)
  (ha : a.model = m)

include attained placed hf ha

theorem Attained.between_eq : wf.between s.state f.id a.id =
    .ok ((wf.groundMotion rigid bodies a.id)⁻¹ * wf.groundMotion rigid bodies f.id).pose := by
  have about : (Question.between f a).About m := Question.about_iff.2 ⟨hf, ha⟩
  rw [← attained.between_ask wf rigid placed hf ha]
  exact ((attained.coherent wf).question_ask about).symm

theorem Attained.locate_ask (p : Vec3 ℝ) : (s.ask (Node.locate · p f a)).1 =
    .ok (((wf.groundMotion rigid bodies a.id)⁻¹ *
      wf.groundMotion rigid bodies f.id).pose.actPoint p) := by
  have about : (Question.locate p f a).About m := Question.about_iff.2 ⟨hf, ha⟩
  have answer := (attained.coherent wf).question_ask about
  rw [Model.WellFormed.answer, attained.between_eq wf rigid placed hf ha] at answer
  exact answer

theorem Attained.expressVector_ask (v : Vec3 ℝ) : (s.ask (Node.expressVector · v f a)).1 =
    .ok (((wf.groundMotion rigid bodies a.id)⁻¹ *
      wf.groundMotion rigid bodies f.id).pose.actVector v) := by
  have about : (Question.expressVector v f a).About m := Question.about_iff.2 ⟨hf, ha⟩
  have answer := (attained.coherent wf).question_ask about
  rw [Model.WellFormed.answer, attained.between_eq wf rigid placed hf ha] at answer
  exact answer

end

/-- How the frames of a state see places and directions depends on the poses of the bodies alone.
    Passing a place or a direction on from frame to frame comes to the same as asking for it at
    once, and there and back nothing has changed.  Differences of places are seen as directions
    are, places themselves shifted by the translation between the frames.  Inner products are kept,
    and so are lengths of directions and distances of places. -/
theorem views_isometric (frozen : m.Frozen) (rigid : m.RigidOffsets) (attained : Attained m s) :
    ∃ (X : FrameId → FrameId → Pose ℝ) (place turn : FrameId → FrameId → Vec3 ℝ → Vec3 ℝ),
      (∀ s', Attained m s' → s'.poses = s.poses →
        ∀ f a : Node ℝ, f.model = m → a.model = m →
          (s'.ask (Node.between · f a)).1 = .ok (X f.id a.id) ∧
          (∀ p, (s'.ask (Node.locate · p f a)).1 = .ok (place f.id a.id p)) ∧
          ∀ v, (s'.ask (Node.expressVector · v f a)).1 = .ok (turn f.id a.id v)) ∧
      (∀ f a b p, place a b (place f a p) = place f b p) ∧
      (∀ f a b v, turn a b (turn f a v) = turn f b v) ∧
      (∀ f a p, place a f (place f a p) = p) ∧
      (∀ f a v, turn a f (turn f a v) = v) ∧
      (∀ f a p q, place f a p - place f a q = turn f a (p - q)) ∧
      (∀ f a p, place f a p = turn f a p + (X f a).translation) ∧
      (∀ f a v w, (turn f a v).dot (turn f a w) = v.dot w) ∧
      (∀ f a v, (turn f a v).length = v.length) ∧
      (∀ f a p q, (place f a p - place f a q).length = (p - q).length) := by
  have wf := frozen.wellFormed
  obtain ⟨bodies, placed⟩ := attained.exists_placed
  let g := wf.groundMotion rigid bodies
  let Y (f a : FrameId) : Motion := (g a)⁻¹ * g f
  have onward (f a b : FrameId) : Y a b * Y f a = Y f b := by
    show (g b)⁻¹ * g a * ((g a)⁻¹ * g f) = (g b)⁻¹ * g f
    rw [mul_assoc, mul_inv_cancel_left]
  have stay (f : FrameId) : Y f f = 1 := inv_mul_cancel (g f)
  have place_on (f a b : FrameId) (p : Vec3 ℝ) :
      (Y a b).pose.actPoint ((Y f a).pose.actPoint p) = (Y f b).pose.actPoint p := by
    rw [← onward f a b]
    exact ((Y a b).rigid.actPoint_mul (Y f a).rigid p).symm
  have turn_on (f a b : FrameId) (v : Vec3 ℝ) :
      (Y a b).pose.actVector ((Y f a).pose.actVector v) = (Y f b).pose.actVector v := by
    rw [← onward f a b]
    exact ((Y a b).rigid.actVector_mul (Y f a).rigid v).symm
  have place_back (f a : FrameId) (p : Vec3 ℝ) :
      (Y a f).pose.actPoint ((Y f a).pose.actPoint p) = p := by
    rw [place_on, stay]
    exact Pose.actPoint_one p
  have turn_back (f a : FrameId) (v : Vec3 ℝ) :
      (Y a f).pose.actVector ((Y f a).pose.actVector v) = v := by
    rw [turn_on, stay]
    exact Pose.actVector_one v
  refine ⟨fun f a => (Y f a).pose, fun f a => (Y f a).pose.actPoint,
    fun f a => (Y f a).pose.actVector, fun s' attained' same f a hf ha => ?_, place_on, turn_on,
    place_back, turn_back, fun f a => (Y f a).pose.actPoint_sub,
    fun f a => (Y f a).pose.actPoint_eq, fun f a => (Y f a).rigid.dot_actVector,
    fun f a => (Y f a).rigid.length_actVector, fun f a => (Y f a).rigid.length_actPoint_sub⟩
  have again : s'.Placed bodies := by
    rw [Placed, same]
    exact placed
  exact ⟨attained'.between_ask wf rigid again hf ha, attained'.locate_ask wf rigid again hf ha,
    attained'.expressVector_ask wf rigid again hf ha⟩

/-- The thigh has moved.  A place on the shank is looked for from ground, and what is found is
    passed on to the thigh and back to the shank, with what the first question left in the memo.
    The direction to it has length one from wherever it is seen. -/
theorem views_isometric_knee :
    let ground := Model.kneeNode 0
    let thigh := Model.kneeNode 1
    let shank := Model.kneeNode 2
    let p : Vec3 ℝ := ⟨1, 0, 0⟩
    let s := (ofModel Model.kneeModel).run [.setPose ⟨0⟩ Model.kneeOffset]
    let s' := s.run [.ask (.locate p shank ground)]
    (∃ q r, (s.ask (Node.locate · p shank ground)).1 = .ok q ∧
      (s'.ask (Node.locate · q ground thigh)).1 = .ok r ∧
      (s'.ask (Node.locate · p shank thigh)).1 = .ok r ∧
      (s'.ask (Node.locate · r thigh shank)).1 = .ok p) ∧
    ∃ v, (s'.ask (Node.expressVector · p shank ground)).1 = .ok v ∧ v.dot v = 1 := by
  intro ground thigh shank p s s'
  have moved : Attained Model.kneeModel s := kneeModel_moved
  have about : (Question.locate p shank ground).About Model.kneeModel :=
    Question.about_iff.2 ⟨rfl, rfl⟩
  obtain ⟨X, place, turn, answers, onward, -, back, -, -, -, dot, -, -⟩ :=
    views_isometric Model.kneeModel_frozen Model.kneeModel_rigidOffsets moved
  have first := answers s moved rfl
  have later := answers s' (moved.asked about) rfl
  refine ⟨⟨place shank.id ground.id p, place shank.id thigh.id p,
    (first shank ground rfl rfl).2.1 p, ?_, (later shank thigh rfl rfl).2.1 p, ?_⟩,
    turn shank.id ground.id p, (later shank ground rfl rfl).2.2 p, ?_⟩
  · rw [← onward shank.id ground.id thigh.id p]
    exact (later ground thigh rfl rfl).2.1 _
  · rw [(later thigh shank rfl rfl).2.1, back]
  · rw [dot, Vec3.dot_def]
    norm_num [p]

end Snapshot

end RigidFrames
