/-
  RigidFrames.Proofs.Snapshot.Drift

  How far rotations can drift from norm one along a chain.

  Freezing looks at each offset by itself, products are never renormalised, and
  nobody looks at the poses of bodies.  Squares of norms multiply, so that of a
  product along a chain is the product over the offsets that the chain passes
  (`OffsetsUp.normSq_inBase`, `OffsetsUp.groundPose`), whichever way it is
  multiplied.  Each factor lies in the square of the interval around one that
  the tolerance leaves (`Pose.Fits.bounds`), and a product of `d` factors
  in its `d`-th power.
-/
import RigidFrames.Proofs.Snapshot.Factoring
import RigidFrames.Proofs.Snapshot.Fixed
import RigidFrames.Proofs.Snapshot.Transparency

namespace RigidFrames

open Links

-- ============================================================================
-- One offset
-- ============================================================================

namespace Pose

/-- The square of the norm of the rotation. -/
noncomputable def normSq (x : Pose ℝ) : ℝ :=
  x.rotation.normSq

theorem normSq_one : (1 : Pose ℝ).normSq = 1 :=
  isRigid_iff.1 .one

theorem normSq_mul (x y : Pose ℝ) : (x * y).normSq = x.normSq * y.normSq :=
  Quaternion.normSq_mul x.rotation y.rotation

theorem normSq_inverse (x : Pose ℝ) : x.inverse.normSq = x.normSq :=
  x.rotation.normSq_conj

theorem normSq_eq_sq (x : Pose ℝ) : x.normSq = x.rotation.norm ^ 2 := by
  have nonneg : 0 ≤ x.rotation.normSq :=
    add_nonneg (add_nonneg (mul_self_nonneg _) (mul_self_nonneg _))
      (add_nonneg (mul_self_nonneg _) (mul_self_nonneg _))
  exact (Real.sq_sqrt nonneg).symm

end Pose

/-- The least norm that an offset of a model with this tolerance can have. -/
noncomputable def Settings.leastNorm (s : Settings ℝ) : ℝ :=
  max 0 (1 - s.tolerance)

/-- The greatest norm that an offset of a model with this tolerance can have. -/
noncomputable def Settings.greatestNorm (s : Settings ℝ) : ℝ :=
  1 + s.tolerance

/-- The square of the norm is in the `d`-th power of the interval that the settings leave to the
    square of the norm of one offset. -/
def Settings.Bounds (s : Settings ℝ) (d : Nat) (x : Pose ℝ) : Prop :=
  s.leastNorm ^ (2 * d) ≤ x.normSq ∧ x.normSq ≤ s.greatestNorm ^ (2 * d)

theorem Pose.Fits.bounds {s : Settings ℝ} {x : Pose ℝ} (fits : x.Fits s.tolerance) :
    s.Bounds 1 x := by
  have near : |x.rotation.norm - 1| ≤ s.tolerance := by
    have checked : decide (s.tolerance < |x.rotation.norm - 1|) = false := fits.2
    exact not_lt.1 (of_decide_eq_false checked)
  obtain ⟨below, above⟩ := abs_le.1 near
  have nonneg : 0 ≤ x.rotation.norm := Real.sqrt_nonneg _
  have least : s.leastNorm ≤ x.rotation.norm := max_le nonneg (by linarith)
  have greatest : x.rotation.norm ≤ s.greatestNorm := by
    rw [Settings.greatestNorm]
    linarith
  rw [Settings.Bounds, Pose.normSq_eq_sq, mul_one]
  exact ⟨pow_le_pow_left₀ (le_max_left _ _) least 2, pow_le_pow_left₀ nonneg greatest 2⟩

namespace Settings.Bounds

variable {s : Settings ℝ} {d e : Nat} {x y : Pose ℝ}

theorem one : s.Bounds 0 1 := by
  rw [Settings.Bounds, Pose.normSq_one]
  simp

theorem mul (hx : s.Bounds d x) (hy : s.Bounds e y) : s.Bounds (d + e) (x * y) := by
  have least (n : Nat) : 0 ≤ s.leastNorm ^ n := pow_nonneg (le_max_left _ _) n
  rw [Settings.Bounds, Pose.normSq_mul, mul_add, pow_add, pow_add]
  refine ⟨mul_le_mul hx.1 hy.1 (least _) ((least _).trans hx.1), ?_⟩
  exact mul_le_mul hx.2 hy.2 ((least _).trans hy.1) ((least _).trans (hx.1.trans hx.2))

theorem inverse (hx : s.Bounds d x) : s.Bounds d x.inverse := by
  rw [Settings.Bounds, Pose.normSq_inverse]
  exact hx

end Settings.Bounds

-- ============================================================================
-- The offsets on the way to the root
-- ============================================================================

namespace Model

/-- The offsets on the way from a frame to its root are these, that of the frame first. -/
inductive OffsetsUp {α : Type} (m : Model α) : FrameId → List (Pose α) → Prop
  | root {i : FrameId} (h : m.link? i = none) : OffsetsUp m i []
  | step {i p : FrameId} {offset : Pose α} {l : List (Pose α)}
      (link : m.link? i = some (p, offset)) (rest : OffsetsUp m p l) : OffsetsUp m i (offset :: l)

/-- The product of the squares of the norms of some offsets. -/
noncomputable def normSqs (l : List (Pose ℝ)) : ℝ :=
  (l.map Pose.normSq).prod

theorem normSqs_cons (x : Pose ℝ) (l : List (Pose ℝ)) :
    normSqs (x :: l) = x.normSq * normSqs l := by
  rw [normSqs, List.map_cons, List.prod_cons, normSqs]

theorem Frozen.allFit {α : Type} [Scalar α] {m : Model α} (frozen : m.Frozen) :
    AllFit m.settings.tolerance m.frames := by
  obtain ⟨calls, r, answer⟩ := frozen
  obtain ⟨frames, sealed, rfl⟩ := (Assembly.freeze_eq_ok_iff _ r m).1 answer
  exact ((Assembly.sealFrames_eq_ok_iff _ frames).1 sealed).2.2.1

theorem fits_of_link {m : Model ℝ} (fit : AllFit m.settings.tolerance m.frames) {i p : FrameId}
    {offset : Pose ℝ} (link : m.link? i = some (p, offset)) :
    offset.Fits m.settings.tolerance := by
  obtain ⟨name, found⟩ := link?_eq_some_iff.1 link
  exact fit _ (Array.mem_of_getElem? found) p offset rfl

section

variable {α : Type} {m : Model α} {i : FrameId} {l : List (Pose α)}

theorem WellFormed.exists_offsetsUp (wf : m.WellFormed) (i : FrameId) :
    ∃ l, m.OffsetsUp i l := by
  induction wf.ends i with
  | root h => exact ⟨[], .root (parent?_eq_none_iff.1 h)⟩
  | step h _ ih =>
    obtain ⟨offset, link⟩ := exists_link?_of_parent? h
    obtain ⟨l, rest⟩ := ih
    exact ⟨offset :: l, .step link rest⟩

theorem OffsetsUp.length (up : m.OffsetsUp i l) (wf : m.WellFormed) : l.length = m.depth i := by
  induction up with
  | root h => rw [depth, climb_of_root _ (parent?_eq_none_iff.2 h), List.length_nil]
  | step link _ ih => rw [wf.depth_link (parent?_of_link? link), ← ih, List.length_cons]

end

section

variable {m : Model ℝ} {i : FrameId} {l : List (Pose ℝ)}

/-- What a climb starts with stays a factor of the squared norm that it ends with. -/
theorem OffsetsUp.normSq_climb (up : m.OffsetsUp i l) (wf : m.WellFormed) (x : Pose ℝ) :
    (m.climb (fun x offset => offset * x) m.size i x).2.normSq = normSqs l * x.normSq := by
  induction up generalizing x with
  | root h =>
    rw [climb_of_root _ (parent?_eq_none_iff.2 h), normSqs, List.map_nil, List.prod_nil, one_mul]
  | step link _ ih =>
    rw [wf.climb_link _ link, ih, Pose.normSq_mul, normSqs_cons]
    ring

theorem OffsetsUp.normSq_inBase (up : m.OffsetsUp i l) (wf : m.WellFormed) :
    (m.inBase i).normSq = normSqs l := by
  rw [inBase, up.normSq_climb wf, Pose.normSq_one, mul_one]

/-- The squared norm of a ground pose has that of the base as a factor, and one for each offset. -/
theorem OffsetsUp.groundPose (up : m.OffsetsUp i l) (wf : m.WellFormed) {s : State ℝ} {y : Pose ℝ}
    (base : wf.groundPose s (m.base i) = .ok y) :
    ∃ x, wf.groundPose s i = .ok x ∧ x.normSq = normSqs l * y.normSq := by
  induction up with
  | root h =>
    rw [base_of_root (parent?_eq_none_iff.2 h)] at base
    exact ⟨y, base, by rw [normSqs, List.map_nil, List.prod_nil, one_mul]⟩
  | @step i p offset l link _ ih =>
    rw [wf.base_link (parent?_of_link? link)] at base
    obtain ⟨x, above, product⟩ := ih base
    refine ⟨x * offset, ?_, ?_⟩
    · rw [wf.groundPose_of_link s link, above]
      rfl
    · rw [Pose.normSq_mul, product, normSqs_cons]
      ring

/-- A climb over offsets that fit stays within the bounds of their number. -/
theorem OffsetsUp.bounds_climb (up : m.OffsetsUp i l) (wf : m.WellFormed)
    (fit : AllFit m.settings.tolerance m.frames) {e : Nat} {x : Pose ℝ}
    (start : m.settings.Bounds e x) :
    m.settings.Bounds (l.length + e) (m.climb (fun x offset => offset * x) m.size i x).2 := by
  induction up generalizing e x with
  | root h =>
    rw [climb_of_root _ (parent?_eq_none_iff.2 h), List.length_nil, Nat.zero_add]
    exact start
  | step link _ ih =>
    have next := ih ((fits_of_link fit link).bounds.mul start)
    rw [wf.climb_link _ link, List.length_cons, Nat.add_assoc]
    exact next

theorem WellFormed.bounds_inBase (wf : m.WellFormed) (fit : AllFit m.settings.tolerance m.frames)
    (i : FrameId) : m.settings.Bounds (m.depth i) (m.inBase i) := by
  obtain ⟨l, up⟩ := wf.exists_offsetsUp i
  rw [← up.length wf]
  exact up.bounds_climb wf fit .one

end

end Model

-- ============================================================================
-- The poses of bases
-- ============================================================================

/-- In the state the root is at the pose `y`: the ground frame at the origin, another one where its
    body is. -/
inductive Node.PlacedAt (s : State ℝ) (b : Node ℝ) : Pose ℝ → Prop
  | ground (mount : b.mount = .ground) : PlacedAt s b 1
  | grounded {body : BodyIndex} {y : Pose ℝ} (mount : b.mount = .grounded body)
      (read : s.bodyPose body = .ok y) : PlacedAt s b y

namespace Node.PlacedAt

section

variable {m : Model ℝ} (wf : m.WellFormed) {b : Node ℝ} (hb : b.model = m)

include wf hb

theorem groundPose {s : State ℝ} {y : Pose ℝ} (placed : b.PlacedAt s y) :
    wf.groundPose s b.id = .ok y := by
  subst hb
  have found := Model.frame?_node b
  cases placed with
  | ground mount =>
    have here : b.model.frame? b.id = some ⟨b.name, .ground⟩ := mount ▸ found
    exact wf.groundPose_of_ground s here
  | @grounded body y mount read =>
    have here : b.model.frame? b.id = some ⟨b.name, .grounded body⟩ := mount ▸ found
    exact wf.groundPose_of_body s here read rfl

/-- A snapshot of the model knows where each root is. -/
theorem exists_of_reached {s : Snapshot ℝ} (reached : Snapshot.Reached m s)
    (root : m.parent? b.id = none) : ∃ y, b.PlacedAt s.state y := by
  subst hb
  have found := Model.frame?_node b
  cases mount : b.mount with
  | ground => exact ⟨1, .ground mount⟩
  | grounded body =>
    have here : b.model.frame? b.id = some ⟨b.name, .grounded body⟩ := mount ▸ found
    obtain ⟨y, read⟩ := reached.supplied wf here
    exact ⟨y, .grounded mount read⟩
  | attached parent offset =>
    rw [b.model_parent?, mount] at root
    cases root

end

theorem normSq_of_ground {s : State ℝ} {b : Node ℝ} {y : Pose ℝ} (placed : b.PlacedAt s y)
    (mount : b.mount = .ground) : y.normSq = 1 := by
  cases placed with
  | ground => exact Pose.normSq_one
  | grounded other =>
    rw [mount] at other
    cases other

end Node.PlacedAt

open Model Snapshot

/-- The squared norm of the transform from a frame to its base is the product of those of the
    offsets on the way, as many as the frame is deep, and lies in the power of the interval that
    the tolerance leaves to one of them; that of a fixed transform in the power for the offsets of
    both frames.  In every state of the model, a snapshot or another one, after whatever was asked
    before, the squared norm of the ground pose has one more factor, that of the pose of the base,
    which nobody has checked. -/
theorem drift_bounded {f : Node ℝ} (frozen : f.model.Frozen) :
    ∃ l b, f.model.OffsetsUp f.id l ∧ l.length = f.depth ∧ f.base? = some b ∧
      f.inBase.normSq = normSqs l ∧ f.model.settings.Bounds f.depth f.inBase ∧
      (∀ a X, a.model = f.model → f.fixedBetween a = some X →
        f.model.settings.Bounds (f.depth + a.depth) X) ∧
      (∀ s, Snapshot.Reached f.model s → ∃ x y, (s.ask (Node.groundPose · f)).1 = .ok x ∧
        b.PlacedAt s.state y ∧ x.normSq = normSqs l * y.normSq) ∧
      (∀ (poses : Stamp → BodyIndex → Except (Fault ℝ) (Pose ℝ)) (visits : List (Visit ℝ)),
        (∀ v ∈ visits, v.Consistent f.model) →
        ∀ t y, b.PlacedAt (f.model.stateAt poses t) y →
          ∃ x, ((f.groundPose (f.model.stateAt poses t)).ask (f.model.visits poses visits)).1 =
            .ok x ∧ x.normSq = normSqs l * y.normSq) ∧
      (b.mount = .ground → ∀ s y, b.PlacedAt s y → y.normSq = 1) := by
  have wf := frozen.wellFormed
  have fit := frozen.allFit
  obtain ⟨l, up⟩ := wf.exists_offsetsUp f.id
  obtain ⟨b, found, hb, id⟩ := wf.exists_base? (rfl : f.model = f.model)
  have root : f.model.parent? b.id = none := id ▸ wf.parent?_base f.id
  have about : (Question.ground f).About f.model := List.forall_mem_singleton.2 rfl
  have pose {s : State ℝ} {y : Pose ℝ} (placed : b.PlacedAt s y) :
      ∃ x, wf.groundPose s f.id = .ok x ∧ x.normSq = normSqs l * y.normSq :=
    up.groundPose wf (id ▸ placed.groundPose wf hb)
  refine ⟨l, b, up, up.length wf, found, up.normSq_inBase wf, wf.bounds_inBase fit f.id,
    fun a X ha fixed => ?_, fun s reached => ?_, fun poses visits consistent t y placed => ?_,
    fun mount s y placed => placed.normSq_of_ground mount⟩
  · rw [Node.fixedBetween_of_model rfl ha] at fixed
    split at fixed
    · have both := (wf.bounds_inBase fit a.id).inverse.mul (wf.bounds_inBase fit f.id)
      rw [← Option.some.inj fixed, Nat.add_comm, Node.depth, Node.depth, ha]
      exact both
    · cases fixed
  · obtain ⟨y, placed⟩ := Node.PlacedAt.exists_of_reached wf hb reached root
    obtain ⟨x, answer, product⟩ := pose placed
    exact ⟨x, y, ((reached.coherent wf).question_ask about).trans answer, placed, product⟩
  · obtain ⟨x, answer, product⟩ := pose placed
    have faithful := visits_faithful wf poses consistent
    have asked := WellFormed.question_ask (s := f.model.stateAt poses t) rfl rfl about faithful
    exact ⟨x, asked.trans answer, product⟩

-- ============================================================================
-- A chain that uses its tolerance up
-- ============================================================================

namespace Model

/-- A shift along the third axis, with a rotation of the greatest norm that `tolerance` allows. -/
noncomputable def looseOffset (tolerance : ℝ) : Pose ℝ :=
  ⟨⟨0, 0, 1⟩, ⟨0, 0, 0, 1 + tolerance⟩⟩

theorem normSq_looseOffset (tolerance : ℝ) :
    (looseOffset tolerance).normSq = (1 + tolerance) ^ 2 := by
  rw [Pose.normSq, Quaternion.normSq_def, looseOffset]
  ring

theorem looseOffset_fits {tolerance : ℝ} (positive : 0 < tolerance) :
    (looseOffset tolerance).Fits tolerance := by
  refine ⟨rfl, ?_⟩
  have norm : (looseOffset tolerance).rotation.norm = 1 + tolerance := by
    show Real.sqrt (looseOffset tolerance).normSq = 1 + tolerance
    rw [normSq_looseOffset, Real.sqrt_sq (by linarith)]
  show decide (tolerance < |(looseOffset tolerance).rotation.norm - 1|) = false
  rw [norm, add_sub_cancel_left, abs_of_pos positive]
  exact decide_eq_false (lt_irrefl tolerance)

/-- Calls that set a tolerance, and make a model of a thigh that follows a body, a shank that is
    fixed to it and a foot that is fixed to the shank. -/
noncomputable def looseCalls (tolerance : ℝ) : List (Call ℝ) :=
  [.configure ⟨true, tolerance⟩, .addGrounded "thigh",
    .addAttached "shank" ⟨1⟩ (looseOffset tolerance),
    .addAttached "foot" ⟨2⟩ (looseOffset tolerance)]

/-- The model that these calls make. -/
noncomputable def looseModel (tolerance : ℝ) : Model ℝ where
  number := ⟨1⟩
  settings := ⟨true, tolerance⟩
  frames := #[⟨groundName, .ground⟩, ⟨"thigh", .grounded ⟨0⟩⟩,
    ⟨"shank", .attached ⟨1⟩ (looseOffset tolerance)⟩,
    ⟨"foot", .attached ⟨2⟩ (looseOffset tolerance)⟩]
  ids := (Assembly.built (looseCalls tolerance)).ids
  bodies := 1

theorem looseModel_frozen {tolerance : ℝ} (positive : 0 < tolerance) :
    (looseModel tolerance).Frozen := by
  refine ⟨looseCalls tolerance, .empty,
    Assembly.freeze_of_built rfl ?_ (decide_eq_true positive) ?_ (of_decide_eq_true rfl)⟩
  · simp [looseModel, looseCalls, Assembly.built_eq_run, groundName]
  · simpa [AllFit, looseModel] using looseOffset_fits positive

theorem OffsetsUp.of_looseModel {tolerance : ℝ} {l : List (Pose ℝ)}
    (up : (looseModel tolerance).OffsetsUp ⟨3⟩ l) :
    l = [looseOffset tolerance, looseOffset tolerance] := by
  have foot : (looseModel tolerance).link? ⟨3⟩ = some (⟨2⟩, looseOffset tolerance) := rfl
  have shank : (looseModel tolerance).link? ⟨2⟩ = some (⟨1⟩, looseOffset tolerance) := rfl
  have thigh : (looseModel tolerance).link? ⟨1⟩ = none := rfl
  cases up with
  | root h => exact absurd (h.symm.trans foot) nofun
  | step link rest =>
    obtain ⟨rfl, rfl⟩ := Prod.mk.inj (Option.some.inj (link.symm.trans foot))
    cases rest with
    | root h => exact absurd (h.symm.trans shank) nofun
    | step link rest =>
      obtain ⟨rfl, rfl⟩ := Prod.mk.inj (Option.some.inj (link.symm.trans shank))
      cases rest with
      | root => rfl
      | step link => exact absurd (link.symm.trans thigh) nofun

end Model

/-- At a tolerance of a half the foot reaches the greatest squared norm that its depth allows, in
    its base and, with the body at the origin, relative to ground. -/
theorem drift_bounded_foot :
    let m := looseModel (1 / 2)
    let foot : Node ℝ := ⟨m, ⟨3⟩, by decide⟩
    let shank : Node ℝ := ⟨m, ⟨2⟩, by decide⟩
    foot.inBase.normSq = 81 / 16 ∧ foot.inBase.normSq ≤ m.settings.greatestNorm ^ 4 ∧
      m.settings.greatestNorm ^ 4 = 81 / 16 ∧
      (∃ X, foot.fixedBetween shank = some X ∧ m.settings.Bounds 3 X) ∧
      ∃ x, ((ofModel m).ask (Node.groundPose · foot)).1 = .ok x ∧ x.normSq = 81 / 16 := by
  intro m foot shank
  obtain ⟨l, b, up, -, base, inBase, bounds, fixed, snapshots, -, -⟩ :=
    drift_bounded (f := foot) (looseModel_frozen (by norm_num))
  obtain rfl := up.of_looseModel
  have product : normSqs [looseOffset (1 / 2), looseOffset (1 / 2)] = 81 / 16 := by
    simp only [normSqs, List.map_cons, List.map_nil, List.prod_cons, List.prod_nil,
      normSq_looseOffset]
    norm_num
  have greatest : m.settings.greatestNorm ^ 4 = 81 / 16 := by
    show (1 + 1 / 2 : ℝ) ^ 4 = 81 / 16
    norm_num
  have shared : foot.fixedBetween shank = some (shank.inBase.inverse * foot.inBase) := rfl
  refine ⟨inBase.trans product, bounds.2, greatest, ⟨_, shared, fixed shank _ rfl shared⟩, ?_⟩
  have start : Snapshot.Reached m (ofModel m) := (ofModel_attained m).reached
  obtain ⟨x, y, answer, placed, sq⟩ := snapshots _ start
  refine ⟨x, answer, ?_⟩
  obtain rfl : (⟨m, ⟨1⟩, by decide⟩ : Node ℝ) = b := Option.some.inj base
  have origin : y.normSq = 1 := by
    cases placed with
    | ground mount => exact Pose.normSq_one
    | @grounded body y mount read =>
      obtain rfl : (⟨0⟩ : BodyIndex) = body := Mount.grounded.inj mount
      obtain rfl : (1 : Pose ℝ) = y := Except.ok.inj read
      exact Pose.normSq_one
  rw [sq, product, origin, mul_one]

end RigidFrames
