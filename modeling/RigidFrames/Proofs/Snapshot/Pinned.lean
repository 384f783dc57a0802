/-
  RigidFrames.Proofs.Snapshot.Pinned

  A frame that a body carries and one attached to ground in the same place.

  With a body pinned to ground the frame that followed it has a link, and every
  climb that ended there takes one more (`WellFormed.climb_pinned`).  The link
  multiplies by the pose that the body would have, from the left by the
  identity, so ground poses stay what they were (`WellFormed.groundPose_pinned`)
  and with them all that is made of ground poses (`pinned_answers`).
-/
import RigidFrames.Proofs.Assembly.Pinned
import RigidFrames.Proofs.Snapshot.Factoring
import RigidFrames.Proofs.Snapshot.Fixed
import RigidFrames.Proofs.Snapshot.Mirrored

namespace RigidFrames

open Links

-- ============================================================================
-- The links of the pinned model
-- ============================================================================

namespace Model

section

variable {α : Type} {m : Model α} {n : ModelId} {k : BodyIndex} {x : Pose α} {b i : FrameId}
  {name : String}

theorem pinned_frame? (i : FrameId) :
    (m.pinned n k x).frame? i = (m.frame? i).map (·.pinned .ground k x) := Array.getElem?_map

/-- The frame of the body is attached to ground. -/
theorem pinned_link_self (found : m.frame? b = some ⟨name, .grounded k⟩) :
    (m.pinned n k x).link? b = some (.ground, x) := by
  refine link?_eq_some_iff.2 ⟨name, ?_⟩
  rw [pinned_frame?, found, Option.map_some, Frame.pinned, Mount.pinned_self]

theorem pinned_link {p : FrameId} {offset : Pose α} (link : m.link? i = some (p, offset)) :
    (m.pinned n k x).link? i = some (p, offset) := by
  obtain ⟨name, found⟩ := link?_eq_some_iff.1 link
  refine link?_eq_some_iff.2 ⟨name, ?_⟩
  rw [pinned_frame?, found]
  rfl

variable (wf : m.WellFormed) (wf' : (m.pinned n k x).WellFormed)
  (found : m.frame? b = some ⟨name, .grounded k⟩)

include wf found

/-- Other roots stay roots. -/
theorem WellFormed.pinned_root (root : m.parent? i = none) (other : i ≠ b) :
    (m.pinned n k x).parent? i = none := by
  have apart (f : Frame FrameId α) (here : m.frame? i = some f) : f.mount.body? ≠ some k := by
    obtain ⟨name', _ | body | ⟨p, offset⟩⟩ := f
    · exact nofun
    · rintro ⟨⟩
      exact other (wf.eq_of_body here found)
    · exact nofun
  rw [parent?_eq] at root ⊢
  rw [show (m.pinned n k x).frames[i.index]? = _ from pinned_frame? i]
  cases here : m.frame? i with
  | none => rfl
  | some f =>
    rw [show m.frames[i.index]? = some f from here] at root
    rw [Option.map_some, Option.bind_some, Frame.pinned_parent?, if_neg (apart f here)]
    exact root

include wf'

/-- A climb that ended at the frame of the body takes one more link. -/
theorem WellFormed.climb_pinned {β : Type} (step : β → Pose α → β) (i : FrameId) (c : β) :
    (m.pinned n k x).climb step (m.pinned n k x).size i c =
      if m.base i = b then (.ground, step (m.climb step m.size i c).2 x)
      else m.climb step m.size i c := by
  induction wf.ends i generalizing c with
  | @root i root =>
    rw [base_of_root root, climb_of_root step root]
    by_cases here : i = b
    · subst here
      have ground : (m.pinned n k x).parent? .ground = none := parent?_of_frame? wf'.ground
      rw [if_pos rfl, wf'.climb_link step (pinned_link_self found), climb_of_root step ground]
    · rw [if_neg here, climb_of_root step (wf.pinned_root found root here)]
  | @step i p parent _ ih =>
    obtain ⟨offset, link⟩ := exists_link?_of_parent? parent
    rw [wf.base_link parent, wf'.climb_link step (pinned_link link), wf.climb_link step link]
    exact ih (step c offset)

theorem WellFormed.depth_pinned (i : FrameId) : (m.pinned n k x).depth i =
    if m.base i = b then m.depth i + 1 else m.depth i := by
  rw [depth, wf.climb_pinned wf' found]
  split <;> rfl

theorem WellFormed.base_pinned (i : FrameId) : (m.pinned n k x).base i =
    if m.base i = b then .ground else m.base i := by
  rw [base, wf.climb_pinned wf' found]
  split <;> rfl

end

section

variable {m : Model ℝ} {n : ModelId} {k : BodyIndex} {x : Pose ℝ} {b i : FrameId} {name : String}
  (wf : m.WellFormed) (wf' : (m.pinned n k x).WellFormed)

include wf

/-- Frames of one name in both models have one number. -/
theorem WellFormed.eq_of_namesakes {i' : FrameId} (same : Namesakes m (m.pinned n k x) i i') :
    i = i' := by
  obtain ⟨f, f', here, there, names⟩ := same
  rw [pinned_frame?, Option.map_eq_some_iff] at there
  obtain ⟨g, old, rfl⟩ := there
  exact wf.eq_of_name here old names

omit wf in
/-- Frames of one number in both models have one name. -/
theorem pinned_name {f f' : Node ℝ} (hf : f.model = m) (hf' : f'.model = m.pinned n k x)
    (ids : f.id = f'.id) : f.name = f'.name := by
  subst hf
  have there := frame?_node f'
  rw [hf', ← ids, pinned_frame?, frame?_node f, Option.map_some, Option.some.injEq] at there
  have names : (f.frame.pinned .ground k x).name = f'.frame.name := congrArg Frame.name there
  exact names

include wf'

/-- With the body at the pose where it is pinned, and the others where they are, ground poses are
    the same. -/
theorem WellFormed.groundPose_pinned (found : m.frame? b = some ⟨name, .grounded k⟩)
    {s s' : State ℝ} (supplied : m.Supplied s) (pinned : s.bodyPose k = .ok x)
    (places : SamePlaces m (m.pinned n k x) s s') (lt : i.index < m.size) :
    ∃ y, wf.groundPose s i = .ok y ∧ wf'.groundPose s' i = .ok y := by
  induction wf.ends i with
  | @root i root =>
    obtain ⟨f, here⟩ : ∃ f, m.frame? i = some f := ⟨_, Array.getElem?_eq_getElem lt⟩
    obtain ⟨name', _ | body | ⟨p, offset⟩⟩ := f
    · have there : (m.pinned n k x).frame? i = some ⟨name', .ground⟩ := by
        rw [pinned_frame?, here]
        rfl
      exact ⟨1, wf.groundPose_of_ground s here, wf'.groundPose_of_ground s' there⟩
    · by_cases pin : body = k
      · subst pin
        -- The new link is the pose of the body, after the identity of ground.
        have new : wf'.groundPose s' i = .ok (1 * x) := by
          rw [wf'.groundPose_of_link s' (pinned_link_self here),
            wf'.groundPose_of_ground s' wf'.ground]
          rfl
        rw [Pose.one_mul] at new
        exact ⟨x, wf.groundPose_of_body s here pinned rfl, new⟩
      · have there : (m.pinned n k x).frame? i = some ⟨name', .grounded (k.without body)⟩ := by
          rw [pinned_frame?, here, Option.map_some, Frame.pinned, Mount.pinned_other _ pin]
        obtain ⟨y, read⟩ := supplied here
        have read' : s'.bodyPose (k.without body) = .ok y := (places here there).symm.trans read
        exact ⟨y, wf.groundPose_of_body s here read rfl, wf'.groundPose_of_body s' there read' rfl⟩
    · rw [parent?_of_attached here] at root
      cases root
  | @step i p parent _ ih =>
    obtain ⟨offset, link⟩ := exists_link?_of_parent? parent
    obtain ⟨y, above, above'⟩ := ih (wf.parent_lt i p parent)
    refine ⟨y * offset, ?_, ?_⟩
    · rw [wf.groundPose_of_link s link, above]
      rfl
    · rw [wf'.groundPose_of_link s' (pinned_link link), above']
      rfl

/-- Below the frame of the body, and nowhere else, the pinned model is one link deeper and rooted at
    ground. -/
theorem WellFormed.ancestry_pinned (found : m.frame? b = some ⟨name, .grounded k⟩) {f f' : Node ℝ}
    (twins : Node.Twins m (m.pinned n k x) f f') :
    (Above m.parent? f.id b → f'.depth = f.depth + 1 ∧
      f'.base? = (m.pinned n k x).groundNode?) ∧
    (¬ Above m.parent? f.id b → f'.depth = f.depth ∧ ∃ c c', f.base? = some c ∧
      f'.base? = some c' ∧ Node.Twins m (m.pinned n k x) c c' ∧ c.id = c'.id) := by
  have root : m.parent? b = none := parent?_of_frame? found
  have below : Above m.parent? f.id b ↔ m.base f.id = b := by
    rw [eq_comm, ← wf.above_root_iff]
    exact (and_iff_left root).symm
  have depth : f'.depth = if m.base f.id = b then f.depth + 1 else f.depth := by
    rw [Node.depth, Node.depth, twins.model', twins.model, ← wf.eq_of_namesakes twins.namesakes]
    exact wf.depth_pinned wf' found f.id
  have base : (m.pinned n k x).base f'.id = if m.base f.id = b then .ground else m.base f.id := by
    rw [← wf.eq_of_namesakes twins.namesakes]
    exact wf.base_pinned wf' found f.id
  rw [below]
  refine ⟨fun same => ?_, fun other => ?_⟩
  · rw [if_pos same] at depth base
    refine ⟨depth, ?_⟩
    rw [Node.base?, twins.model', base, groundNode?]
  · rw [if_neg other] at depth base
    obtain ⟨c, found, hc, id⟩ := wf.exists_base? twins.model
    obtain ⟨c', found', hc', id'⟩ := wf'.exists_base? twins.model'
    have ids : c.id = c'.id := id.trans (base.symm.trans id'.symm)
    exact ⟨depth, c, c', found, found', ⟨hc, hc', pinned_name hc hc' ids⟩, ids⟩

end

end Model

-- ============================================================================
-- Questions to both models
-- ============================================================================

open Model Snapshot

/-- Twins are asked with one result, if the pinned body is where it is pinned. -/
theorem Question.Twins.answer_pinned {m : Model ℝ} {n : ModelId} {k : BodyIndex} {x : Pose ℝ}
    {b : FrameId} {name : String} (wf : m.WellFormed) (wf' : (m.pinned n k x).WellFormed)
    (found : m.frame? b = some ⟨name, .grounded k⟩) {s s' : State ℝ} (supplied : m.Supplied s)
    (pinned : s.bodyPose k = .ok x) (places : SamePlaces m (m.pinned n k x) s s') {β : Type}
    {q q' : Question ℝ β} (twins : Question.Twins m (m.pinned n k x) q q') :
    ∃ y, wf.answer s q = .ok y ∧ wf'.answer s' q' = .ok y := by
  have pose {f f' : Node ℝ} (first : Node.Twins m (m.pinned n k x) f f') :
      ∃ y, wf.groundPose s f.id = .ok y ∧ wf'.groundPose s' f'.id = .ok y := by
    have inside : f.id.index < m.size := first.model ▸ f.id_lt
    rw [← wf.eq_of_namesakes first.namesakes]
    exact wf.groundPose_pinned wf' found supplied pinned places inside
  have transform {f f' a a' : Node ℝ} (first : Node.Twins m (m.pinned n k x) f f')
      (second : Node.Twins m (m.pinned n k x) a a') :
      ∃ y, wf.between s f.id a.id = .ok y ∧ wf'.between s' f'.id a'.id = .ok y := by
    obtain ⟨y, left, left'⟩ := pose first
    obtain ⟨z, right, right'⟩ := pose second
    refine ⟨z.inverse * y, ?_, ?_⟩
    · rw [WellFormed.between, left, right]
      rfl
    · rw [WellFormed.between, left', right']
      rfl
  cases twins with
  | ground first => exact pose first
  | between first second => exact transform first second
  | expressVector v first second =>
    obtain ⟨y, one, other⟩ := transform first second
    exact ⟨y.actVector v, congrArg (Except.map _) one, congrArg (Except.map _) other⟩
  | locate p first second =>
    obtain ⟨y, one, other⟩ := transform first second
    exact ⟨y.actPoint p, congrArg (Except.map _) one, congrArg (Except.map _) other⟩

/-- Only a positive tolerance freezes. -/
theorem positive_of_freeze {a : Assembly ℝ} {r : Registry} {m : Model ℝ}
    (answer : (a.freeze r).answer = .ok m) : 0 < a.settings.tolerance := by
  obtain ⟨frames, sealed, -⟩ := (Assembly.freeze_eq_ok_iff a r m).1 answer
  have valid : decide (0 < a.settings.tolerance) = true :=
    ((Assembly.sealFrames_eq_ok_iff a frames).1 sealed).1
  exact of_decide_eq_true valid

/-- A frame that follows a body was added by one of the calls.  If it was not hung elsewhere after
    that, it may as well be attached to ground, at any rigid pose: the other calls make a model of
    the frames with the same names and numbers, the later bodies one number lower.  Just the frame
    and its descendants are one link deeper, with ground as their base; all others have the depth
    and the base that they had.  In all snapshots of both models, whatever was asked before, that
    have the body at this pose and the others in the same places, all questions have the same
    answers. -/
theorem pinned_answers {calls : List (Call ℝ)} {r : Registry} {m : Model ℝ} {b : Node ℝ}
    {k : BodyIndex} (frozen : ((Assembly.built calls).freeze r).answer = .ok m)
    (hb : b.model = m) (mount : b.mount = .grounded k) :
    ∃ before after, calls = before ++ .addGrounded b.name :: after ∧
      ((Assembly.built before).perform (.addGrounded b.name)).answer = .ok (some b.id) ∧
      ((∀ parent, .setParent b.id parent ∉ after) → ∀ x : Pose ℝ, x.IsRigid → ∀ r' : Registry,
        let m' := m.pinned r'.next k x
        ((Assembly.built (before ++ .addAttached b.name .ground x :: after)).freeze r').answer =
          .ok m' ∧
        m'.size = m.size ∧
        (∀ f f' : Node ℝ, f.model = m → f'.model = m' → (f.name = f'.name ↔ f.id = f'.id)) ∧
        (∀ f f' : Node ℝ, Node.Twins m m' f f' →
          (Above m.parent? f.id b.id → f'.depth = f.depth + 1 ∧ f'.base? = m'.groundNode?) ∧
          (¬ Above m.parent? f.id b.id → f'.depth = f.depth ∧ ∃ c c', f.base? = some c ∧
            f'.base? = some c' ∧ Node.Twins m m' c c' ∧ c.id = c'.id)) ∧
        ∀ s s', Snapshot.Reached m s → Snapshot.Reached m' s' → s.bodyPose k = .ok x →
          SamePlaces m m' s.state s'.state → ∀ {β : Type} (q q' : Question ℝ β),
            Question.Twins m m' q q' →
              ∃ y, (s.ask q.query).1 = .ok y ∧ (s'.ask q'.query).1 = .ok y) := by
  have wf := wellFormed_of_freeze frozen
  have found : m.frame? b.id = some ⟨b.name, .grounded k⟩ := by
    rw [← mount, ← hb]
    exact frame?_node b
  have added : (Assembly.built calls).frames[b.id.index]? = some ⟨b.name, .grounded k⟩ := by
    rw [frames_of_freeze frozen, found]
    rfl
  obtain ⟨before, after, rfl, free, number, rfl⟩ := Assembly.exists_addGrounded added
  refine ⟨before, after, rfl, ?_, fun still x rigid r' => ?_⟩
  · rw [Assembly.perform_addGrounded free, number]
  intro m'
  have pinned := Assembly.built_pinned (x := x) free (number ▸ still)
  have frozen' : ((Assembly.built (before ++ .addAttached b.name .ground x :: after)).freeze
      r').answer = .ok m' := by
    have sound' := Assembly.built_sound (before ++ .addAttached b.name .ground x :: after)
    rw [pinned] at sound' ⊢
    have fits := rigid.fits (positive_of_freeze frozen)
    exact Assembly.freeze_pinned (Assembly.built_sound _) sound' frozen fits r'
  have wf' : m'.WellFormed := wellFormed_of_freeze frozen'
  refine ⟨frozen', Array.size_map, fun f f' hf hf' => ?_,
    fun f f' twins => wf.ancestry_pinned wf' found twins,
    fun s s' reached reached' placed places β q q' twins => ?_⟩
  · exact ⟨fun names => wf.eq_of_namesakes (Node.Twins.namesakes ⟨hf, hf', names⟩),
      fun ids => pinned_name hf hf' ids⟩
  · obtain ⟨about, about'⟩ := twins.about
    rw [(reached.coherent wf).question_ask about, (reached'.coherent wf').question_ask about']
    exact twins.answer_pinned wf wf' found (reached.supplied wf) placed places

/-- The knee with its thigh attached to ground where the body would have carried it. -/
theorem pinned_answers_knee :
    let pinned := kneeModel.pinned ⟨1⟩ ⟨0⟩ kneeOffset
    let shank' : Node ℝ := ⟨pinned, ⟨2⟩, Array.size_map.symm ▸ Nat.lt_succ_self 2⟩
    let s := (ofModel kneeModel).run [.setPose ⟨0⟩ kneeOffset]
    ((Assembly.built [.addAttached "thigh" .ground kneeOffset,
        .addAttached "shank" ⟨1⟩ kneeOffset]).freeze .empty).answer = .ok pinned ∧
      shank'.depth = (kneeNode 2).depth + 1 ∧ shank'.base? = pinned.groundNode? ∧
      ∃ y, (s.ask (Node.groundPose · (kneeNode 2))).1 = .ok y ∧
        ((ofModel pinned).ask (Node.groundPose · shank')).1 = .ok y := by
  intro pinned shank' s
  have thigh : (kneeNode 1).mount = .grounded ⟨0⟩ := rfl
  have frozen : ((Assembly.built kneeCalls).freeze .empty).answer = .ok kneeModel :=
    freeze_kneeCalls .empty
  obtain ⟨before, after, parts, -, rest⟩ := pinned_answers frozen rfl thigh
  obtain ⟨rfl, rfl⟩ : before = [] ∧ after = [.addAttached "shank" ⟨1⟩ kneeOffset] := by
    cases before with
    | nil => exact ⟨rfl, (List.cons.inj parts).2.symm⟩
    | cons c before =>
      have later : Call.addGrounded "thigh" ∈ [Call.addAttached "shank" ⟨1⟩ kneeOffset] :=
        (List.cons.inj parts).2 ▸ List.mem_append_right before List.mem_cons_self
      exact absurd (List.mem_singleton.1 later) nofun
  have still (parent : FrameId) : Call.setParent ⟨1⟩ parent ∉
      [Call.addAttached "shank" ⟨1⟩ kneeOffset] :=
    fun mem => absurd (List.mem_singleton.1 mem) nofun
  obtain ⟨frozen', -, -, ancestry, answers⟩ := rest still kneeOffset kneeOffset_isRigid .empty
  have twins : Node.Twins kneeModel pinned (kneeNode 2) shank' :=
    ⟨rfl, rfl, pinned_name rfl rfl rfl⟩
  have below : Above kneeModel.parent? ⟨2⟩ ⟨1⟩ := ⟨1, rfl⟩
  have places : SamePlaces kneeModel pinned s.state (ofModel pinned).state := by
    intro i i' name body body' _ found
    simpa [pinned, Model.pinned, kneeModel, Frame.pinned, Mount.pinned] using
      Array.mem_of_getElem? found
  have start : Snapshot.Reached pinned (ofModel pinned) := (ofModel_attained pinned).reached
  have placed : s.bodyPose ⟨0⟩ = .ok kneeOffset := bodyPose_eq_ok_iff.2 rfl
  obtain ⟨deeper, base⟩ := (ancestry _ _ twins).1 below
  exact ⟨frozen', deeper, base,
    answers s _ kneeModel_moved.reached start placed places _ _ (.ground twins)⟩

end RigidFrames
