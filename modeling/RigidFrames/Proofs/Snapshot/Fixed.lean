/-
  RigidFrames.Proofs.Snapshot.Fixed

  Which frames are rigidly connected.

  The fixed transform between two frames is found from the links alone, by two
  climbs.  It is there just when no state of the model shows the frames in two
  different relations: with one base the pose of the base cancels
  (`Attained.between_of_base`), and with two bases one of them follows a body,
  whose shift is seen between the frames (`varies_of_base_ne`).
-/
import RigidFrames.Proofs.Snapshot.Groupoid

namespace RigidFrames

variable {m : Model ℝ} {f a : Node ℝ}

-- ============================================================================
-- Fixed transforms
-- ============================================================================

namespace Node

theorem fixedBetween_of_model {α : Type} [Scalar α] {m : Model α} {f a : Node α}
    (hf : f.model = m) (ha : a.model = m) : f.fixedBetween a =
      if m.base f.id = m.base a.id then some ((m.inBase a.id).inverse * m.inBase f.id)
      else none := by
  simp [fixedBetween, sameModel, inBase, hf, ha]

/-- Frames of models with different numbers are never fixed to each other. -/
theorem fixedBetween_of_number_ne {α : Type} [Scalar α] {f a : Node α}
    (different : f.model.number ≠ a.model.number) : f.fixedBetween a = none := by
  simp [fixedBetween, sameModel, different]

end Node

namespace Snapshot

/-- In two states of the model the transform from `f` to `a` has values in the relation `R`. -/
def Varies (m : Model ℝ) (f a : Node ℝ) (R : Pose ℝ → Pose ℝ → Prop) : Prop :=
  ∃ s s' X X', Attained m s ∧ Attained m s' ∧ (s.ask (Node.between · f a)).1 = .ok X ∧
    (s'.ask (Node.between · f a)).1 = .ok X' ∧ R X X'

theorem Varies.imp {R R' : Pose ℝ → Pose ℝ → Prop} (varies : Varies m f a R)
    (weaker : ∀ X X', R X X' → R' X X') : Varies m f a R' := by
  obtain ⟨s, s', X, X', attained, attained', first, second, related⟩ := varies
  exact ⟨s, s', X, X', attained, attained', first, second, weaker X X' related⟩

/-- A transform with one value in all states does not vary. -/
theorem not_varies_of_constant {X : Pose ℝ}
    (constant : ∀ s, Attained m s → (s.ask (Node.between · f a)).1 = .ok X) :
    ¬ Varies m f a fun X X' => X ≠ X' := by
  rintro ⟨s, s', Y, Y', attained, attained', first, second, ne⟩
  rw [constant s attained] at first
  rw [constant s' attained'] at second
  exact ne ((Except.ok.inj first).symm.trans (Except.ok.inj second))

-- ============================================================================
-- States with one body moved
-- ============================================================================

theorem ofModel_attained (m : Model ℝ) : Attained m (ofModel m) := by
  refine ⟨⟨[], nofun, rfl⟩, fun x mem => ?_⟩
  obtain ⟨-, rfl⟩ := Array.mem_replicate.1 mem
  exact .one

theorem poses_moved {body : BodyIndex} (lt : body.index < m.bodies) (x : Pose ℝ) :
    ((ofModel m).run [.setPose body x]).poses =
      (Array.replicate m.bodies 1).setIfInBounds body.index x := by
  show ((ofModel m).setPose body x).2.poses = _
  rw [setPose, ofModel, Array.size_replicate, if_pos lt]

theorem placed_moved {body : BodyIndex} (lt : body.index < m.bodies) (x : Motion) :
    ((ofModel m).run [.setPose body x.pose]).Placed (Pi.mulSingle body x) := by
  intro body' y found
  rw [poses_moved lt, Array.getElem?_setIfInBounds, Array.size_replicate, if_pos lt] at found
  by_cases same : body.index = body'.index
  · obtain rfl : body = body' := congrArg BodyIndex.mk same
    rw [if_pos rfl, Option.some.injEq] at found
    rw [Pi.mulSingle_eq_same, found]
  · have other : body' ≠ body := fun eq => same (congrArg BodyIndex.index eq.symm)
    rw [if_neg same, Array.getElem?_eq_some_iff] at found
    obtain ⟨-, rfl⟩ := found
    rw [Pi.mulSingle_eq_of_ne other, Array.getElem_replicate]
    rfl

/-- There is a state with one body somewhere and the others at the origin. -/
theorem exists_moved {body : BodyIndex} (lt : body.index < m.bodies) (x : Motion) :
    ∃ s, Attained m s ∧ s.Placed (Pi.mulSingle body x) := by
  have placed := placed_moved lt x
  refine ⟨_, ⟨⟨[.setPose body x.pose], List.forall_mem_singleton.2 trivial, rfl⟩, ?_⟩, placed⟩
  intro y mem
  obtain ⟨k, found⟩ := Array.mem_iff_getElem?.1 mem
  rw [placed ⟨k⟩ y found]
  exact Motion.rigid _

/-- Of two different bases one follows a body. -/
theorem exists_base_follows (wf : m.WellFormed) (hf : f.model = m) (ha : a.model = m)
    (different : m.base f.id ≠ m.base a.id) :
    ∃ r, (r = m.base f.id ∨ r = m.base a.id) ∧ m.follows r = true := by
  have inside (n : Node ℝ) (hn : n.model = m) : (m.base n.id).index < m.size :=
    wf.above_lt (show n.id.index < m.size from hn ▸ n.id_lt) (wf.above_base n.id)
  rcases wf.root_cases (inside f hf) (wf.parent?_base f.id) with ground | follows
  · rcases wf.root_cases (inside a ha) (wf.parent?_base a.id) with ground' | follows
    · exact absurd (ground.trans ground'.symm) different
    · exact ⟨_, .inr rfl, follows⟩
  · exact ⟨_, .inl rfl, follows⟩

-- ============================================================================
-- Two frames of one model
-- ============================================================================

section

variable (wf : m.WellFormed) (rigid : m.RigidOffsets) (hf : f.model = m) (ha : a.model = m)

include wf rigid hf ha

/-- With one base the pose of the base cancels. -/
theorem Attained.between_of_base {s : Snapshot ℝ} (attained : Attained m s)
    (same : m.base f.id = m.base a.id) :
    (s.ask (Node.between · f a)).1 = .ok ((m.inBase a.id).inverse * m.inBase f.id) := by
  obtain ⟨bodies, placed⟩ := attained.exists_placed
  rw [attained.between_ask wf rigid placed hf ha, Model.WellFormed.groundMotion,
    Model.WellFormed.groundMotion, same]
  generalize m.rootMotion bodies (m.base a.id) = b
  have cancelled : (b * wf.mounting rigid a.id)⁻¹ * (b * wf.mounting rigid f.id) =
      (wf.mounting rigid a.id)⁻¹ * wf.mounting rigid f.id := by
    rw [mul_inv_rev, mul_assoc, inv_mul_cancel_left]
  rw [cancelled]
  rfl

/-- There is a state in which only the root `r` is elsewhere than at the origin. -/
theorem exists_between_moved {r : FrameId} (follows : m.follows r = true) (x : Motion) :
    ∃ s, Attained m s ∧ (s.ask (Node.between · f a)).1 =
      .ok (((if m.base a.id = r then x else 1) * wf.mounting rigid a.id)⁻¹ *
        ((if m.base f.id = r then x else 1) * wf.mounting rigid f.id)).pose := by
  obtain ⟨name, body, found⟩ := Model.follows_iff.1 follows
  obtain ⟨s, attained, placed⟩ := exists_moved (wf.body_lt found) x
  refine ⟨s, attained, ?_⟩
  rw [attained.between_ask wf rigid placed hf ha, Model.WellFormed.groundMotion,
    Model.WellFormed.groundMotion, wf.rootMotion_mulSingle found, wf.rootMotion_mulSingle found]

/-- With two bases the body of one of them can be shifted, and then every point of `f` is seen
    elsewhere from `a`. -/
theorem varies_of_base_ne (different : m.base f.id ≠ m.base a.id) :
    Varies m f a fun X X' => ∀ p, X.actPoint p ≠ X'.actPoint p := by
  obtain ⟨r, one_of, follows⟩ := exists_base_follows wf hf ha different
  obtain ⟨s, attained, first⟩ := exists_between_moved wf rigid hf ha follows 1
  obtain ⟨s', attained', second⟩ := exists_between_moved wf rigid hf ha follows Motion.shift
  rw [ite_self, ite_self, one_mul, one_mul] at first
  refine ⟨s, s', _, _, attained, attained', first, second, ?_⟩
  suffices apart : ∀ p : Vec3 ℝ, ((wf.mounting rigid a.id)⁻¹ * wf.mounting rigid f.id) • p ≠
      (((if m.base a.id = r then Motion.shift else 1) * wf.mounting rigid a.id)⁻¹ *
        ((if m.base f.id = r then Motion.shift else 1) * wf.mounting rigid f.id)) • p from apart
  intro p same
  rw [mul_smul] at same
  -- The mountings cancel on the left, and the shift of one base is left.
  rcases one_of with rfl | rfl
  · rw [if_neg different.symm, if_pos rfl, one_mul, mul_smul, smul_left_cancel_iff, mul_smul]
      at same
    exact Motion.shift_smul_ne _ same.symm
  · rw [if_neg different, if_pos rfl, one_mul, mul_inv_rev, mul_smul, mul_smul,
      smul_left_cancel_iff, eq_inv_smul_iff] at same
    exact Motion.shift_smul_ne _ same

theorem constant_of_fixed {X : Pose ℝ} (fixed : f.fixedBetween a = some X) (s : Snapshot ℝ)
    (attained : Attained m s) : (s.ask (Node.between · f a)).1 = .ok X := by
  rw [Node.fixedBetween_of_model hf ha] at fixed
  split at fixed
  · next same => rw [attained.between_of_base wf rigid hf ha same, Option.some.inj fixed]
  · cases fixed

theorem varies_of_free (free : f.fixedBetween a = none) :
    Varies m f a fun X X' => ∀ p, X.actPoint p ≠ X'.actPoint p := by
  rw [Node.fixedBetween_of_model hf ha] at free
  split at free
  · cases free
  · next different => exact varies_of_base_ne wf rigid hf ha different

end

-- ============================================================================
-- The decision
-- ============================================================================

/-- There is a fixed transform between two frames of a model just when the transform between them
    has one value in all states, and it is this value.  If there is none, the transform varies;
    then there are even two states between which every point of the one frame moves in the other.
    Between frames of two models of one program there is none. -/
theorem fixedBetween_decides {calls : List (Call ℝ)} {r : Registry}
    (frozen : ((Assembly.built calls).freeze r).answer = .ok m) (rigid : m.RigidOffsets)
    (hf : f.model = m) (ha : a.model = m) :
    (∀ X, f.fixedBetween a = some X ↔
      ∀ s, Attained m s → (s.ask (Node.between · f a)).1 = .ok X) ∧
    (f.fixedBetween a = none ↔ Varies m f a fun X X' => X ≠ X') ∧
    (f.fixedBetween a = none → Varies m f a fun X X' => ∀ p, X.actPoint p ≠ X'.actPoint p) ∧
    (∀ (others : List (Assembly ℝ)) (calls' : List (Call ℝ)) (m' : Model ℝ),
      ((Assembly.built calls').freeze (Assembly.registryAfter
        ((Assembly.built calls).freeze r).registry others)).answer = .ok m' →
      ∀ g : Node ℝ, g.model = m' → f.fixedBetween g = none ∧ g.fixedBetween f = none) := by
  have wf := Model.wellFormed_of_freeze frozen
  have sound {X : Pose ℝ} (fixed : f.fixedBetween a = some X) :=
    constant_of_fixed wf rigid hf ha fixed
  have complete := varies_of_free wf rigid hf ha
  have apart : f.fixedBetween a = none → Varies m f a fun X X' => X ≠ X' :=
    fun free => (complete free).imp fun X X' moves same => moves 0 (same ▸ rfl)
  refine ⟨fun X => ⟨sound, fun constant => ?_⟩, ⟨apart, fun varies => ?_⟩, complete,
    fun others calls' m' frozen' g hg => ?_⟩
  · cases fixed : f.fixedBetween a with
    | none => exact absurd (apart fixed) (not_varies_of_constant constant)
    | some Y =>
      have new := ofModel_attained m
      have answer := sound fixed (ofModel m) new
      rw [constant (ofModel m) new] at answer
      rw [Except.ok.inj answer]
  · cases fixed : f.fixedBetween a with
    | none => rfl
    | some Y => exact absurd varies (not_varies_of_constant (sound fixed))
  · have different := Assembly.number_ne_of_freeze frozen others frozen'
    rw [← hf, ← hg] at different
    exact ⟨Node.fixedBetween_of_number_ne different,
      Node.fixedBetween_of_number_ne different.symm⟩

/-- The shank is fixed to the thigh.  It is not fixed to ground, nor to the shank of a second model
    that the same calls make. -/
theorem fixedBetween_decides_knee :
    let ground := Model.kneeNode 0
    let thigh := Model.kneeNode 1
    let shank := Model.kneeNode 2
    let shank' : Node ℝ := ⟨{ Model.kneeModel with number := ⟨2⟩ }, ⟨2⟩, shank.id_lt⟩
    (∃ X, shank.fixedBetween thigh = some X ∧
      ∀ s, Attained Model.kneeModel s → (s.ask (Node.between · shank thigh)).1 = .ok X) ∧
    (Varies Model.kneeModel shank ground fun X X' => X ≠ X') ∧
    shank.fixedBetween shank' = none ∧ shank'.fixedBetween shank = none := by
  intro ground thigh shank shank'
  have frozen := Model.freeze_kneeCalls .empty
  have fixed : shank.fixedBetween thigh =
      some ((Model.kneeModel.inBase ⟨1⟩).inverse * Model.kneeModel.inBase ⟨2⟩) :=
    Node.fixedBetween_of_model rfl rfl
  have free : shank.fixedBetween ground = none := Node.fixedBetween_of_model rfl rfl
  have within := fixedBetween_decides frozen Model.kneeModel_rigidOffsets
    (show shank.model = _ from rfl) (show thigh.model = _ from rfl)
  have beyond := fixedBetween_decides frozen Model.kneeModel_rigidOffsets
    (show shank.model = _ from rfl) (show ground.model = _ from rfl)
  let r := ((Assembly.built Model.kneeCalls).freeze .empty).registry
  let others : List (Assembly ℝ) := []
  have again : ((Assembly.built Model.kneeCalls).freeze
      (Assembly.registryAfter r others)).answer = .ok shank'.model := by
    have issued : r.issued = 1 := (Assembly.number_of_freeze frozen).2
    have second := Model.freeze_kneeCalls r
    rw [Registry.next, issued] at second
    exact second
  exact ⟨⟨_, fixed, (within.1 _).1 fixed⟩, beyond.2.1.1 free,
    beyond.2.2.2 others Model.kneeCalls _ again shank' rfl⟩

end Snapshot

end RigidFrames
