/-
  RigidFrames.Proofs.Snapshot.Turning

  Directions do not depend on translations.

  Two models may put their frames in other places and two states their bodies:
  as long as everything is turned alike, a direction given in one frame is the
  same as seen from another.  The rotations of products and inverses are made of
  rotations alone (`Pose.Alike.mul`, `Pose.Alike.inverse`), so ground poses stay
  alike along the chains (`Model.Alike.groundPose`).

  Nothing is supposed about the numbers: no law of arithmetic, and no rotation
  need have norm one.  As translations may fail to be finite on one side only,
  two answers are compared where there are two (`Agree`).
-/
import RigidFrames.Proofs.Model.Ancestry
import RigidFrames.Proofs.Snapshot.Run

namespace RigidFrames

open Links Model

variable {α β γ : Type}

-- ============================================================================
-- Poses that are turned alike
-- ============================================================================

namespace Pose

/-- The poses have one rotation, component for component. -/
def Alike (x x' : Pose α) : Prop :=
  x.rotation = x'.rotation

variable [Scalar α] {x x' y y' : Pose α}

theorem Alike.mul (left : x.Alike x') (right : y.Alike y') : (x * y).Alike (x' * y') := by
  show x.rotation * y.rotation = x'.rotation * y'.rotation
  rw [left, right]

theorem Alike.inverse (alike : x.Alike x') : x.inverse.Alike x'.inverse := by
  show x.rotation.conj = x'.rotation.conj
  rw [alike]

theorem Alike.actVector (alike : x.Alike x') (v : Vec3 α) : x.actVector v = x'.actVector v := by
  rw [Pose.actVector, Pose.actVector, alike]

end Pose

/-- If there are two answers, they are related. -/
def Agree (R : β → β → Prop) (x x' : Except (Fault α) β) : Prop :=
  ∀ y y', x = .ok y → x' = .ok y' → R y y'

namespace Agree

variable {R : β → β → Prop} {S : γ → γ → Prop} {x x' : Except (Fault α) β}

theorem error (fault : Fault α) (x' : Except (Fault α) β) : Agree R (.error fault) x' :=
  nofun

theorem ok {y y' : β} (related : R y y') : Agree R (.ok y : Except (Fault α) β) (.ok y') := by
  rintro _ _ ⟨⟩ ⟨⟩
  exact related

theorem bind (agree : Agree R x x') {k k' : β → Except (Fault α) γ}
    (next : ∀ y y', R y y' → Agree S (k y) (k' y')) : Agree S (x >>= k) (x' >>= k') := by
  cases x with
  | error fault => exact error fault _
  | ok y =>
    cases x' with
    | error fault => exact fun _ _ _ => nofun
    | ok y' => exact next y y' (agree y y' rfl rfl)

theorem map (agree : Agree R x x') {g g' : β → γ} (next : ∀ y y', R y y' → S (g y) (g' y')) :
    Agree S (x.map g) (x'.map g') := by
  show Agree S (x >>= fun y => .ok (g y)) (x' >>= fun y' => .ok (g' y'))
  exact agree.bind fun y y' related => ok (next y y' related)

end Agree

-- ============================================================================
-- Models and states that are turned alike
-- ============================================================================

namespace Model

/-- Both models have a frame of this number or none has.  The two are of one kind, they follow the
    same body or have the same parent, and they are turned alike against the parent. -/
inductive Counterparts (m m' : Model α) (i : FrameId) : Prop
  | missing (absent : m.frame? i = none) (absent' : m'.frame? i = none)
  | ground {name name' : String} (found : m.frame? i = some ⟨name, .ground⟩)
      (found' : m'.frame? i = some ⟨name', .ground⟩)
  | grounded {name name' : String} {body : BodyIndex}
      (found : m.frame? i = some ⟨name, .grounded body⟩)
      (found' : m'.frame? i = some ⟨name', .grounded body⟩)
  | attached {name name' : String} {p : FrameId} {offset offset' : Pose α}
      (found : m.frame? i = some ⟨name, .attached p offset⟩)
      (found' : m'.frame? i = some ⟨name', .attached p offset'⟩) (alike : offset.Alike offset')

/-- The models differ in nothing but translations, names and settings. -/
def Alike (m m' : Model α) : Prop :=
  ∀ i, Counterparts m m' i

end Model

/-- Every body is turned alike in both states. -/
def State.Alike (s s' : State α) : Prop :=
  ∀ body, Agree Pose.Alike (s.bodyPose body) (s'.bodyPose body)

namespace Model

section

variable [Scalar α] {m m' : Model α} {s s' : State α} {i j : FrameId}

/-- A refusal on either side leaves nothing to compare. -/
theorem rootPose_alike (states : s.Alike s') (name name' : String) (body : BodyIndex) :
    Agree Pose.Alike (rootPose s name body) (rootPose s' name' body) := by
  intro y y' pose pose'
  exact states body y y' (bodyPose_of_rootPose pose) (bodyPose_of_rootPose pose')

variable (wf : m.WellFormed) (wf' : m'.WellFormed) (alike : m.Alike m') (states : s.Alike s')

include alike states

/-- Along the chains of two frames of one number rotations stay alike, whatever the translations. -/
theorem Alike.groundPose (i : FrameId) :
    Agree Pose.Alike (wf.groundPose s i) (wf'.groundPose s' i) := by
  -- The induction is on the chain in `m`; the chain in `m'` takes the same links.
  induction wf.ends i with
  | @root i h =>
    cases alike i with
    | missing absent =>
      rw [wf.groundPose_of_none s absent]
      exact .error _ _
    | ground found found' =>
      rw [wf.groundPose_of_ground s found, wf'.groundPose_of_ground s' found']
      exact .ok rfl
    | grounded found found' =>
      rw [wf.groundPose_of_grounded s found, wf'.groundPose_of_grounded s' found']
      exact rootPose_alike states _ _ _
    | attached found =>
      rw [parent?_of_attached found] at h
      cases h
  | @step i j h _ ih =>
    cases alike i with
    | missing found | ground found | grounded found =>
      rw [parent?, link?, found] at h
      cases h
    | attached found found' turned =>
      obtain rfl := Option.some.inj ((parent?_of_attached found).symm.trans h)
      rw [wf.groundPose_of_link s (link?_eq_some_iff.2 ⟨_, found⟩),
        wf'.groundPose_of_link s' (link?_eq_some_iff.2 ⟨_, found'⟩)]
      exact ih.map fun y y' above => above.mul turned

theorem Alike.between (i j : FrameId) :
    Agree Pose.Alike (wf.between s i j) (wf'.between s' i j) := by
  have first := alike.groundPose wf wf' states i
  have second := alike.groundPose wf wf' states j
  exact first.bind fun x x' left => second.bind fun y y' right => .ok (right.inverse.mul left)

end

end Model

-- ============================================================================
-- Directions
-- ============================================================================

/-- Poses with the same rotations in the same order make states that are turned alike. -/
theorem Snapshot.state_alike {s s' : Snapshot α}
    (turned : s.poses.map (·.rotation) = s'.poses.map (·.rotation)) : s.state.Alike s'.state := by
  intro body y y' pose pose'
  have here : (s.poses.map (·.rotation))[body.index]? = some y.rotation := by
    rw [Array.getElem?_map, bodyPose_eq_ok_iff.1 pose, Option.map_some]
  have there : (s'.poses.map (·.rotation))[body.index]? = some y'.rotation := by
    rw [Array.getElem?_map, bodyPose_eq_ok_iff.1 pose', Option.map_some]
  rw [turned, there] at here
  exact (Option.some.inj here).symm

/-- Where both frames have ground poses a direction is answered. -/
theorem Snapshot.Coherent.expressVector_ask [Scalar α] {m : Model α} {wf : m.WellFormed}
    {s : Snapshot α} (coherent : Snapshot.Coherent wf s) {f a : Node α} (hf : f.model = m)
    (ha : a.model = m) {x y : Pose α} (first : wf.groundPose s.state f.id = .ok x)
    (second : wf.groundPose s.state a.id = .ok y) (v : Vec3 α) :
    (s.ask (Node.expressVector · v f a)).1 = .ok ((y.inverse * x).actVector v) := by
  have about : (Question.expressVector v f a).About m := Question.about_iff.2 ⟨hf, ha⟩
  refine (coherent.question_ask about).trans ?_
  rw [Model.WellFormed.answer, Model.WellFormed.between, first, second]
  rfl

/-- A direction given in one frame looks the same from another, wherever frames and bodies are.
    Two models and two states that differ in translations only, after any actions and with whatever
    settings, give the same components if both give an answer. -/
theorem expressVector_blind [Scalar α] {f a f' a' : Node α} (frozen : f.model.Frozen)
    (frozen' : f'.model.Frozen) (alike : f.model.Alike f'.model) (one : a.model = f.model)
    (one' : a'.model = f'.model) (first : f.id = f'.id) (second : a.id = a'.id)
    {s s' : Snapshot α} (reached : Snapshot.Reached f.model s)
    (reached' : Snapshot.Reached f'.model s')
    (turned : s.poses.map (·.rotation) = s'.poses.map (·.rotation)) (v : Vec3 α) {u u' : Vec3 α}
    (answer : (s.ask (Node.expressVector · v f a)).1 = .ok u)
    (answer' : (s'.ask (Node.expressVector · v f' a')).1 = .ok u') : u = u' := by
  have wf := frozen.wellFormed
  have wf' := frozen'.wellFormed
  have about : (Question.expressVector v f a).About f.model := Question.about_iff.2 ⟨rfl, one⟩
  have about' : (Question.expressVector v f' a').About f'.model :=
    Question.about_iff.2 ⟨rfl, one'⟩
  have formula := ((reached.coherent wf).question_ask about).symm.trans answer
  have formula' := ((reached'.coherent wf').question_ask about').symm.trans answer'
  have between := alike.between wf wf' (Snapshot.state_alike turned) f.id a.id
  rw [Model.WellFormed.answer] at formula formula'
  rw [← first, ← second] at formula'
  exact between.map (fun x x' alike => alike.actVector v) u u' formula formula'

-- ============================================================================
-- A small model with its marker elsewhere
-- ============================================================================

namespace Model

/-- Calls that fix the marker to another point of the thigh and keep no poses. -/
def shiftedCalls : List (Call Float) :=
  [.configure ⟨false, 1e-9⟩, .addGrounded "thigh",
    .addAttached "marker" ⟨1⟩ (.ofTranslation ⟨5, 0, 2⟩)]

/-- The model that these calls make. -/
def shiftedModel : Model Float where
  number := ⟨1⟩
  settings := ⟨false, 1e-9⟩
  frames := #[⟨groundName, .ground⟩, ⟨"thigh", .grounded ⟨0⟩⟩,
    ⟨"marker", .attached ⟨1⟩ (.ofTranslation ⟨5, 0, 2⟩)⟩]
  ids := (Assembly.built shiftedCalls).ids
  bodies := 1

theorem shiftedModel_frozen : shiftedModel.Frozen := by
  have fits : (Pose.ofTranslation ⟨5, 0, 2⟩).Fits (1e-9 : Float) := by decide +kernel
  refine ⟨shiftedCalls, .empty, Assembly.freeze_of_built rfl ?_ (by decide) ?_ (by decide)⟩
  · simp [shiftedModel, shiftedCalls, Assembly.built_eq_run, groundName]
  · simpa [AllFit, shiftedModel] using fits

theorem markerModel_alike : markerModel.Alike shiftedModel := by
  rintro ⟨k⟩
  match k with
  | 0 => exact .ground rfl rfl
  | 1 => exact .grounded rfl rfl
  | 2 => exact .attached rfl rfl rfl
  | k + 3 => exact .missing rfl rfl

end Model

/-- The thigh is turned alike in both states and is in two places; in one of them the marker was
    asked for before. -/
theorem expressVector_blind_marker :
    let r : Quaternion Float := ⟨0.6, 0, 0, 0.8⟩
    let s := (Snapshot.ofModel markerModel).run [.ask (.ground markerNode), .setPose ⟨0⟩ ⟨0, r⟩]
    let s' := (Snapshot.ofModel shiftedModel).run [.setPose ⟨0⟩ ⟨⟨1, 2, 3⟩, r⟩]
    let marker : Node Float := ⟨shiftedModel, ⟨2⟩, by decide⟩
    let ground : Node Float := ⟨markerModel, ⟨0⟩, by decide⟩
    let ground' : Node Float := ⟨shiftedModel, ⟨0⟩, by decide⟩
    ∃ u, (s.ask (Node.expressVector · ⟨1, 2, 3⟩ markerNode ground)).1 = .ok u ∧
      (s'.ask (Node.expressVector · ⟨1, 2, 3⟩ marker ground')).1 = .ok u := by
  intro r s s' marker ground ground'
  have reached : Snapshot.Reached markerModel s := by
    have about : (Question.ground markerNode).About markerModel := List.forall_mem_singleton.2 rfl
    refine ⟨[.ask (.ground markerNode), .setPose ⟨0⟩ ⟨0, r⟩], ?_, rfl⟩
    exact List.forall_mem_cons.2 ⟨about.consistent, List.forall_mem_singleton.2 trivial⟩
  have reached' : Snapshot.Reached shiftedModel s' :=
    ⟨[.setPose ⟨0⟩ ⟨⟨1, 2, 3⟩, r⟩], List.forall_mem_singleton.2 trivial, rfl⟩
  have wf := markerModel_frozen.wellFormed
  have wf' := shiftedModel_frozen.wellFormed
  have here : wf.groundPose s.state ⟨2⟩ = .ok (⟨0, r⟩ * .ofTranslation ⟨0, 0, 1⟩) := by
    have found : markerModel.frame? ⟨1⟩ = some ⟨"thigh", .grounded ⟨0⟩⟩ := rfl
    have placed : s.state.bodyPose ⟨0⟩ = .ok ⟨0, r⟩ := Snapshot.bodyPose_eq_ok_iff.2 rfl
    exact wf.groundPose_of_fixed s.state rfl found placed (by decide +kernel)
  have there : wf'.groundPose s'.state ⟨2⟩ =
      .ok (⟨⟨1, 2, 3⟩, r⟩ * .ofTranslation ⟨5, 0, 2⟩) := by
    have found : shiftedModel.frame? ⟨1⟩ = some ⟨"thigh", .grounded ⟨0⟩⟩ := rfl
    have placed : s'.state.bodyPose ⟨0⟩ = .ok ⟨⟨1, 2, 3⟩, r⟩ := Snapshot.bodyPose_eq_ok_iff.2 rfl
    exact wf'.groundPose_of_fixed s'.state rfl found placed (by decide +kernel)
  have zero : wf.groundPose s.state ⟨0⟩ = .ok 1 := by
    have found : markerModel.frame? ⟨0⟩ = some ⟨groundName, .ground⟩ := rfl
    exact wf.groundPose_of_ground s.state found
  have zero' : wf'.groundPose s'.state ⟨0⟩ = .ok 1 := by
    have found : shiftedModel.frame? ⟨0⟩ = some ⟨groundName, .ground⟩ := rfl
    exact wf'.groundPose_of_ground s'.state found
  have answer := (reached.coherent wf).expressVector_ask (f := markerNode) (a := ground) rfl rfl
    here zero ⟨1, 2, 3⟩
  have answer' := (reached'.coherent wf').expressVector_ask (f := marker) (a := ground') rfl rfl
    there zero' ⟨1, 2, 3⟩
  have turned : s.poses.map (·.rotation) = s'.poses.map (·.rotation) := by
    rw [show s.poses = #[⟨0, r⟩] from rfl, show s'.poses = #[⟨⟨1, 2, 3⟩, r⟩] from rfl]
    simp only [List.map_toArray, List.map_cons, List.map_nil]
  have same := @expressVector_blind _ _ markerNode ground marker ground' markerModel_frozen
    shiftedModel_frozen markerModel_alike rfl rfl rfl rfl s s' reached reached' turned ⟨1, 2, 3⟩ _ _
    answer answer'
  rw [← same] at answer'
  exact ⟨_, answer, answer'⟩

end RigidFrames
