/-
  RigidFrames.Proofs.Snapshot.Mirrored

  Answers of a model and of another that mirrors it.

  Nothing that a query answers depends on how frames and bodies are numbered,
  on frames that its own frames do not hang on, on whether poses are kept, or
  on what was asked before.  If the bodies that namesakes follow are in the
  same places, namesakes get the same ground pose or the same refusal
  (`MirroredIn.groundPose`), and all other answers are made of ground poses
  (`mirrored_answers`).
-/
import RigidFrames.Proofs.Model.Mirror

namespace RigidFrames

open Links Model

variable {α β γ : Type}

/-- The answers are the same value, or refusals of one kind that blame the same frame. -/
inductive SameOutcome : Except (Fault α) β → Except (Fault α) β → Prop
  | ok (x : β) : SameOutcome (.ok x) (.ok x)
  | error {fault fault' : Fault α} (kind : fault.kind = fault'.kind)
      (frame : fault.frame? = fault'.frame?) : SameOutcome (.error fault) (.error fault')

theorem SameOutcome.map {x x' : Except (Fault α) β} (same : SameOutcome x x') (g : β → γ) :
    SameOutcome (x.map g) (x'.map g) := by
  cases same with
  | ok x => exact .ok (g x)
  | error kind frame => exact .error kind frame

theorem SameOutcome.bind {x x' : Except (Fault α) β} (same : SameOutcome x x')
    {k k' : β → Except (Fault α) γ} (next : ∀ y, SameOutcome (k y) (k' y)) :
    SameOutcome (x >>= k) (x' >>= k') := by
  cases same with
  | ok x => exact next x
  | error kind frame => exact .error kind frame

variable [Scalar α] {m m' : Model α}

/-- The bodies of the one state are where those of the other are that namesakes follow. -/
def SamePlaces (m m' : Model α) (s s' : State α) : Prop :=
  ∀ {i i' : FrameId} {name : String} {body body' : BodyIndex},
    m.frame? i = some ⟨name, .grounded body⟩ → m'.frame? i' = some ⟨name, .grounded body'⟩ →
      s.bodyPose body = s'.bodyPose body'

namespace Model

section

variable {s s' : State α} {i i' j j' : FrameId}

/-- Roots of one name get the same pose or the same refusal, whatever the numbers of the bodies. -/
theorem rootPose_same (name : String) {body body' : BodyIndex} {x : Pose α}
    (here : s.bodyPose body = .ok x) (there : s'.bodyPose body' = .ok x) :
    SameOutcome (rootPose s name body) (rootPose s' name body') := by
  rw [rootPose_of_ok here, rootPose_of_ok there]
  split
  · exact .ok x
  · exact .error rfl rfl

variable (mirrored : m.MirroredIn m') (wf : m.WellFormed) (wf' : m'.WellFormed)
  (supplied : m.Supplied s) (places : SamePlaces m m' s s')

include mirrored supplied places

theorem MirroredIn.groundPose (same : Namesakes m m' i i') :
    SameOutcome (wf.groundPose s i) (wf'.groundPose s' i') := by
  refine mirrored.induction wf wf'
    (P := fun i i' => SameOutcome (wf.groundPose s i) (wf'.groundPose s' i')) ?_ ?_ ?_ same
  · intro i i' name found found'
    rw [wf.groundPose_of_ground s found, wf'.groundPose_of_ground s' found']
    exact .ok 1
  · intro i i' name body body' found found'
    obtain ⟨x, here⟩ := supplied found
    have there : s'.bodyPose body' = .ok x := (places found found').symm.trans here
    rw [wf.groundPose_of_grounded s found, wf'.groundPose_of_grounded s' found']
    exact rootPose_same name here there
  · intro i i' p p' offset link link' parents
    rw [wf.groundPose_of_link s link, wf'.groundPose_of_link s' link']
    exact parents.map (· * offset)

theorem MirroredIn.between (first : Namesakes m m' i i') (second : Namesakes m m' j j') :
    SameOutcome (wf.between s i j) (wf'.between s' i' j') := by
  have left := mirrored.groundPose wf wf' supplied places first
  have right := mirrored.groundPose wf wf' supplied places second
  exact left.bind fun x => right.bind fun y => .ok (y.inverse * x)

end

end Model

-- ============================================================================
-- Questions to both models
-- ============================================================================

/-- The questions are one question, the first about nodes of `m` and the second about their twins
    in `m'`. -/
inductive Question.Twins (m m' : Model α) : {β : Type} → Question α β → Question α β → Prop
  | ground {f f' : Node α} (first : Node.Twins m m' f f') :
      Question.Twins m m' (.ground f) (.ground f')
  | between {f f' a a' : Node α} (first : Node.Twins m m' f f') (second : Node.Twins m m' a a') :
      Question.Twins m m' (.between f a) (.between f' a')
  | expressVector {f f' a a' : Node α} (v : Vec3 α) (first : Node.Twins m m' f f')
      (second : Node.Twins m m' a a') :
      Question.Twins m m' (.expressVector v f a) (.expressVector v f' a')
  | locate {f f' a a' : Node α} (p : Vec3 α) (first : Node.Twins m m' f f')
      (second : Node.Twins m m' a a') : Question.Twins m m' (.locate p f a) (.locate p f' a')

section

variable {q q' : Question α β} (twins : Question.Twins m m' q q')

include twins

omit [Scalar α] in
theorem Question.Twins.about : q.About m ∧ q'.About m' := by
  rw [about_iff, about_iff]
  cases twins with
  | ground first => exact ⟨⟨first.model, first.model⟩, first.model', first.model'⟩
  | between first second | expressVector _ first second | locate _ first second =>
    exact ⟨⟨first.model, second.model⟩, first.model', second.model'⟩

theorem Question.Twins.answer (mirrored : m.MirroredIn m') (wf : m.WellFormed)
    (wf' : m'.WellFormed) {s s' : State α} (supplied : m.Supplied s)
    (places : SamePlaces m m' s s') : SameOutcome (wf.answer s q) (wf'.answer s' q') := by
  cases twins with
  | ground first => exact mirrored.groundPose wf wf' supplied places first.namesakes
  | between first second =>
    exact mirrored.between wf wf' supplied places first.namesakes second.namesakes
  | expressVector v first second =>
    have same := mirrored.between wf wf' supplied places first.namesakes second.namesakes
    exact same.map (·.actVector v)
  | locate p first second =>
    have same := mirrored.between wf wf' supplied places first.namesakes second.namesakes
    exact same.map (·.actPoint p)

end

/-- If every frame of `m` has its mate in `m'`, then twins are equally deep, have twins for bases
    and the same fixed transforms.  After any actions on snapshots of the two models that leave the
    bodies of namesakes in the same places, twins get the same answers to all questions, or
    refusals of one kind that blame the same frame. -/
theorem mirrored_answers (frozen : m.Frozen) (frozen' : m'.Frozen) (mirrored : m.MirroredIn m') :
    (∀ f f', Node.Twins m m' f f' → f.depth = f'.depth ∧ f.inBase = f'.inBase ∧
      (∃ b b', f.base? = some b ∧ f'.base? = some b' ∧ b.name = b'.name) ∧
      ∀ a a', Node.Twins m m' a a' → f.fixedBetween a = f'.fixedBetween a') ∧
    (∀ actions actions' : List (Action α),
      (∀ a ∈ actions, a.Consistent m) → (∀ a ∈ actions', a.Consistent m') →
      let s := (Snapshot.ofModel m).run actions
      let s' := (Snapshot.ofModel m').run actions'
      SamePlaces m m' s.state s'.state →
      ∀ {β : Type} (q q' : Question α β), Question.Twins m m' q q' →
        SameOutcome (s.ask q.query).1 (s'.ask q'.query).1) := by
  have wf : m.WellFormed := frozen.wellFormed
  have wf' : m'.WellFormed := frozen'.wellFormed
  refine ⟨fun f f' twins => ?_, ?_⟩
  · obtain ⟨b, b', base, base', bases⟩ := twins.base? mirrored wf wf'
    have same : Namesakes m m' f.id f'.id := twins.namesakes
    have depth : f.depth = f'.depth := by
      rw [Node.depth, Node.depth, twins.model, twins.model', mirrored.depth_eq wf wf' same]
    have inBase : f.inBase = f'.inBase := by
      rw [Node.inBase, Node.inBase, twins.model, twins.model', mirrored.inBase_eq wf wf' same]
    refine ⟨depth, inBase, ⟨b, b', base, base', bases.name⟩, fun a a' twins' => ?_⟩
    exact Node.Twins.fixedBetween_eq mirrored wf wf' twins twins'
  · intro actions actions' consistent consistent' s s' places β q q' twins
    have coherent : Snapshot.Coherent wf s := Snapshot.run_coherent wf consistent
    have coherent' : Snapshot.Coherent wf' s' := Snapshot.run_coherent wf' consistent'
    have supplied : m.Supplied s.state := wf.supplied_run actions
    obtain ⟨about, about'⟩ := twins.about
    rw [coherent.question_ask about, coherent'.question_ask about']
    exact twins.answer mirrored wf wf' supplied places

-- ============================================================================
-- A small model in another order
-- ============================================================================

namespace Model

/-- Calls that keep no poses, give another body out first, add the marker before the thigh and hang
    it there later. -/
def patchedCalls : List (Call Float) :=
  [.configure ⟨false, 1e-9⟩, .addGrounded "shank",
    .addUnparented "marker" (.ofTranslation ⟨0, 0, 1⟩), .addGrounded "thigh", .setParent ⟨2⟩ ⟨3⟩]

/-- The model that these calls make. -/
def patchedModel : Model Float where
  number := ⟨1⟩
  settings := ⟨false, 1e-9⟩
  frames := #[⟨groundName, .ground⟩, ⟨"shank", .grounded ⟨0⟩⟩,
    ⟨"marker", .attached ⟨3⟩ (.ofTranslation ⟨0, 0, 1⟩)⟩, ⟨"thigh", .grounded ⟨1⟩⟩]
  ids := (Assembly.built patchedCalls).ids
  bodies := 2

/-- A frame of this model. -/
def patchedNode (k : Fin 4) : Node Float :=
  ⟨patchedModel, ⟨k⟩, k.isLt⟩

theorem patchedModel_frozen : patchedModel.Frozen := by
  have fits : (Pose.ofTranslation ⟨0, 0, 1⟩).Fits (1e-9 : Float) := by decide +kernel
  refine ⟨patchedCalls, .empty, Assembly.freeze_of_built rfl ?_ (by decide) ?_ (by decide)⟩
  · simp [patchedModel, patchedCalls, Assembly.built_eq_run, Assembly.replace, groundName]
  · simpa [AllFit, patchedModel] using fits

theorem markerModel_mirroredIn : markerModel.MirroredIn patchedModel := by
  intro i f found
  have cases : i = ⟨0⟩ ∨ i = ⟨1⟩ ∨ i = ⟨2⟩ := by
    have lt : i.index < 3 := frame?_lt found
    obtain ⟨k⟩ := i
    simp only [FrameId.mk.injEq]
    simp only at lt
    omega
  rcases cases with rfl | rfl | rfl
  · exact ⟨⟨0⟩, .ground rfl rfl⟩
  · exact ⟨⟨3⟩, .grounded rfl rfl⟩
  · exact ⟨⟨2⟩, .attached rfl rfl ⟨_, _, rfl, rfl, rfl⟩⟩

end Model

/-- The thigh has moved in both models.  In the one the marker was asked for before; in the other
    the shank, which the first does not have, is nowhere. -/
theorem mirrored_answers_marker :
    let x : Pose Float := .ofTranslation ⟨1, 0, 0⟩
    let nowhere : Pose Float := .ofTranslation ⟨0 / 0, 0, 0⟩
    let s := (Snapshot.ofModel markerModel).run [.ask (.ground markerNode), .setPose ⟨0⟩ x]
    let s' := (Snapshot.ofModel patchedModel).run
      [.setPose ⟨0⟩ nowhere, .ask (.ground (patchedNode 1)), .setPose ⟨1⟩ x]
    markerNode.depth = (patchedNode 2).depth ∧
      SameOutcome (s.ask (Question.ground markerNode).query).1
        (s'.ask (Question.ground (patchedNode 2)).query).1 := by
  intro x nowhere s s'
  have twins : Node.Twins markerModel patchedModel markerNode (patchedNode 2) := ⟨rfl, rfl, rfl⟩
  obtain ⟨fixed, answers⟩ :=
    mirrored_answers markerModel_frozen patchedModel_frozen markerModel_mirroredIn
  refine ⟨(fixed _ _ twins).1, answers _ _ ?_ ?_ ?_ _ _ (.ground twins)⟩
  · have about : (Question.ground markerNode).About markerModel := List.forall_mem_singleton.2 rfl
    exact List.forall_mem_cons.2 ⟨about.consistent, List.forall_mem_singleton.2 trivial⟩
  · have about : (Question.ground (patchedNode 1)).About patchedModel :=
      List.forall_mem_singleton.2 rfl
    exact List.forall_mem_cons.2 ⟨trivial,
      List.forall_mem_cons.2 ⟨about.consistent, List.forall_mem_singleton.2 trivial⟩⟩
  · intro i i' name body body' found found'
    have thigh : name = "thigh" ∧ body = ⟨0⟩ := by
      simpa [markerModel] using Array.mem_of_getElem? found
    have other : name = "shank" ∧ body' = ⟨0⟩ ∨ name = "thigh" ∧ body' = ⟨1⟩ := by
      simpa [patchedModel] using Array.mem_of_getElem? found'
    obtain ⟨rfl, rfl⟩ := thigh
    rcases other with ⟨shank, -⟩ | ⟨-, rfl⟩
    · exact absurd shank (by decide)
    · rfl

end RigidFrames
