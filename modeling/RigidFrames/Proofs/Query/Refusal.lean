/-
  RigidFrames.Proofs.Query.Refusal

  What it takes to refuse a question, and what a refused question leaves.

  Every question has a frame that it comes from and one that it goes to; a
  question about a ground pose has one frame for both.  The models of the two
  are compared first, then the model of the state, then the pose of the source
  is found and last that of the target.  Whether a pose is found depends on the
  base of the frame alone, and on no memo (`WellFormed.groundPose_eq_error_iff`).

  An evaluation that fails has looked into the memo without success and read
  one body; the memo is what it was (`WellFormed.evaluate_refused`).  So a
  refused question leaves what the evaluation of its source leaves, or nothing
  (`WellFormed.question_refused`).
-/
import RigidFrames.Proofs.Model.Ancestry
import RigidFrames.Proofs.Query.Question

namespace RigidFrames

open Links Walk

variable {α β : Type}

-- ============================================================================
-- Frames without a pose
-- ============================================================================

namespace Model

variable {m : Model α} {i p : FrameId}

/-- The base of frame `i` has the given name and follows the given body, and the pose of the body is
    not finite. -/
def Lost [Scalar α] (m : Model α) (s : State α) (i : FrameId) (name : String)
    (body : BodyIndex) : Prop :=
  m.frame? (m.base i) = some ⟨name, .grounded body⟩ ∧
    ∃ x, s.bodyPose body = .ok x ∧ x.isFinite = false

variable [Scalar α] (wf : m.WellFormed) {s : State α} {fault : Fault α}

/-- A frame is refused for what its base is refused for. -/
theorem WellFormed.groundPose_base_error :
    wf.groundPose s i = .error fault ↔ wf.groundPose s (m.base i) = .error fault := by
  induction wf.ends i with
  | root h => rw [base_of_root h]
  | @step i j h _ ih =>
    obtain ⟨offset, link⟩ := exists_link?_of_parent? h
    rw [wf.base_link h, ← ih, wf.groundPose_of_link s link]
    cases wf.groundPose s j <;> simp [Except.map]

/-- With all bodies supplied, a frame has no pose just when its base follows a body whose pose is
    not finite, and it is refused for that. -/
theorem WellFormed.groundPose_eq_error_iff (supplied : m.Supplied s) (lt : i.index < m.size) :
    wf.groundPose s i = .error fault ↔
      ∃ name body, m.Lost s i name body ∧ fault = .degenerate name (.bodyNotFinite body) := by
  rw [wf.groundPose_base_error]
  have inside : (m.base i).index < m.size := wf.above_lt lt (wf.above_base i)
  obtain ⟨f, found⟩ : ∃ f, m.frame? (m.base i) = some f := ⟨_, Array.getElem?_eq_getElem inside⟩
  obtain ⟨name, _ | body | ⟨p, offset⟩⟩ := f
  · rw [wf.groundPose_of_ground s found]
    simp [Lost, found]
  · obtain ⟨x, pose⟩ := supplied found
    rw [wf.groundPose_of_grounded s found, rootPose_of_ok pose]
    refine ⟨fun failed => ?_, ?_⟩
    · split at failed
      · cases failed
      · next notFinite =>
        cases failed
        exact ⟨name, body, ⟨found, x, pose, Bool.eq_false_iff.2 notFinite⟩, rfl⟩
    · rintro ⟨name', body', ⟨found', y, pose', notFinite⟩, rfl⟩
      rw [found] at found'
      cases found'
      rw [pose] at pose'
      cases pose'
      exact if_neg (Bool.eq_false_iff.1 notFinite)
  · have root := wf.parent?_base i
    rw [parent?_of_attached found] at root
    cases root

theorem WellFormed.groundPose_isOk_iff (supplied : m.Supplied s) (lt : i.index < m.size) :
    (wf.groundPose s i).isOk = true ↔ ∀ name body, ¬ m.Lost s i name body := by
  have refused (fault : Fault α) : wf.groundPose s i = .error fault ↔
      ∃ name body, m.Lost s i name body ∧ fault = .degenerate name (.bodyNotFinite body) :=
    wf.groundPose_eq_error_iff supplied lt
  cases pose : wf.groundPose s i with
  | ok x =>
    refine iff_of_true rfl fun name body lost => ?_
    have failed := (refused _).2 ⟨name, body, lost, rfl⟩
    rw [pose] at failed
    cases failed
  | error fault =>
    obtain ⟨name, body, lost, -⟩ := (refused fault).1 pose
    exact iff_of_false Bool.false_ne_true fun none => none name body lost

/-- The source is refused before the target. -/
theorem WellFormed.answer_eq_error_iff (q : Question α β) :
    wf.answer s q = .error fault ↔ wf.groundPose s q.source.id = .error fault ∨
      ((wf.groundPose s q.source.id).isOk = true ∧
        wf.groundPose s q.target.id = .error fault) := by
  cases q with
  | ground f =>
    show wf.groundPose s f.id = _ ↔ wf.groundPose s f.id = _ ∨ _ ∧ wf.groundPose s f.id = _
    cases wf.groundPose s f.id <;> simp
  | between f a | expressVector v f a | locate p f a =>
    simp only [answer, between, Question.source, Question.target]
    cases wf.groundPose s f.id <;> cases wf.groundPose s a.id <;>
      simp [Bind.bind, Except.bind, Except.map, Except.isOk, Except.toBool]

end Model

-- ============================================================================
-- Strangers
-- ============================================================================

theorem Query.bind_error {γ : Type} {q : Query α β} {k : β → Query α γ} {fault : Fault α}
    {μ μ' : Meter α} (refused : q.ask μ = (.error fault, μ')) :
    (q >>= k).ask μ = (.error fault, μ') := by
  rw [Query.ask_bind, refused]

variable [Scalar α] {m : Model α} {s : State α}

theorem Node.groundPose_stranger {n : Node α} (other : s.model ≠ n.model.number) (μ : Meter α) :
    (n.groundPose s).ask μ = (.error (.invalidState (.otherModel s.model n.model.number)), μ) := by
  rw [Node.groundPose, Model.groundPose_ask, if_neg other]

/-- What refuses the transform between its frames refuses a question about two frames. -/
theorem Question.refused_of_between {q : Question α β} {fault : Fault α} {μ μ' : Meter α}
    (two : q.nodes = [q.source, q.target])
    (refused : (q.source.between s q.target).ask μ = (.error fault, μ')) :
    (q.query s).ask μ = (.error fault, μ') := by
  cases q with
  | ground => cases two
  | between => exact refused
  | expressVector | locate => exact Query.bind_error refused

/-- Frames of two models are refused before anything else. -/
theorem Question.ask_foreign {q : Question α β}
    (foreign : q.source.model.number ≠ q.target.model.number) (μ : Meter α) :
    (q.query s).ask μ = (.error .foreignFrame, μ) := by
  have refused : (q.source.between s q.target).ask μ = (.error .foreignFrame, μ) := by
    rw [Node.between, if_neg (by simpa [Node.sameModel] using foreign)]
    rfl
  cases q with
  | ground => exact absurd rfl foreign
  | between | expressVector | locate => exact Question.refused_of_between rfl refused

/-- Then a state of another model is refused. -/
theorem Question.ask_other {q : Question α β}
    (same : q.source.model.number = q.target.model.number)
    (other : s.model ≠ q.source.model.number) (μ : Meter α) :
    (q.query s).ask μ =
      (.error (.invalidState (.otherModel s.model q.source.model.number)), μ) := by
  have first := Node.groundPose_stranger other μ
  have refused : (q.source.between s q.target).ask μ =
      (.error (.invalidState (.otherModel s.model q.source.model.number)), μ) := by
    rw [Node.between, if_pos (by simpa [Node.sameModel] using same)]
    exact Query.bind_error first
  cases q with
  | ground => exact first
  | between | expressVector | locate => exact Question.refused_of_between rfl refused

-- ============================================================================
-- What a refusal leaves
-- ============================================================================

namespace Walk

omit [Scalar α] in
/-- A look without success leaves no trace in the memo. -/
theorem fetch_memo_of_none {i : FrameId} {μ : Meter α} (missing : μ.memo.lookup? i s.stamp = none) :
    (fetch m s i μ).2.memo = μ.memo := by
  rw [fetch]
  split
  · rw [PoseMemo.fetch, missing]
  · rfl

/-- A step towards a refusal leaves the memo as it was: it finds nothing and stores nothing. -/
theorem Correct.step_refused {wf : m.WellFormed} {target : FrameId} {w : Walk α}
    (correct : Correct wf s target w) (refused : (wf.groundPose s target).isOk = false)
    {μ : Meter α} (known : ∀ j x, μ.memo.lookup? j s.stamp = some x → wf.groundPose s j = .ok x) :
    (Walk.step m s w μ).2.memo = μ.memo := by
  cases w with
  | read | done => rfl
  | store i x pending =>
    have succeeded := correct.store_inv.1
    rw [refused] at succeeded
    cases succeeded
  | look i pending =>
    rw [step_look_meter]
    cases found : μ.memo.lookup? i s.stamp with
    | none => exact fetch_memo_of_none found
    | some x =>
      cases correct with
      | look climbed =>
        have same : (wf.groundPose s target).isOk = (wf.groundPose s i).isOk := climbed.isOk
        rw [refused, known i x found] at same
        cases same

end Walk

namespace Model

variable {wf : m.WellFormed} {view : Stamp → State α} (here : view s.stamp = s)
  (own : s.model = m.number) {μ : Meter α} (faithful : Faithful wf view μ.memo)

include here faithful

theorem WellFormed.evaluate_refused {i : FrameId} (lt : i.index < m.size)
    (refused : (wf.groundPose s i).isOk = false) :
    ((m.evaluate s i).ask μ).2.memo = μ.memo := by
  have ended := wf.evaluate_keeps (s := s)
    (P := fun w ν => Correct wf s i w ∧ ν.memo = μ.memo) ?_ lt ⟨.look .start, rfl⟩
  · exact ended.2
  · rintro w ν ⟨correct, same⟩
    have known : ∀ j x, ν.memo.lookup? j s.stamp = some x → wf.groundPose s j = .ok x := by
      rw [same]
      exact faithful.known here
    exact ⟨correct.step known, (correct.step_refused refused known).trans same⟩

include own

theorem WellFormed.node_refused {n : Node α} (of_model : n.model = m)
    (refused : (wf.groundPose s n.id).isOk = false) :
    ((n.groundPose s).ask μ).2.memo = μ.memo := by
  obtain ⟨model, i, lt⟩ := n
  obtain rfl : model = m := of_model
  rw [Node.groundPose, groundPose_ask, if_pos own]
  exact WellFormed.evaluate_refused here faithful lt refused

theorem WellFormed.between_refused {f a : Node α} (hf : f.model = m) (ha : a.model = m)
    (refused : (wf.between s f.id a.id).isOk = false) :
    ((f.between s a).ask μ).2.memo = ((f.groundPose s).ask μ).2.memo := by
  have same : f.sameModel a = true := by rw [Node.sameModel, hf, ha, beq_self_eq_true]
  rw [Node.between, if_pos same, Query.ask_bind]
  obtain ⟨first, faithful'⟩ := WellFormed.node_ask here own hf faithful
  rw [WellFormed.between] at refused
  generalize (f.groundPose s).ask μ = asked at first faithful' ⊢
  obtain ⟨answer, μ'⟩ := asked
  obtain rfl : answer = wf.groundPose s f.id := first
  cases source : wf.groundPose s f.id with
  | error fault => rfl
  | ok x =>
    have last : (wf.groundPose s a.id).isOk = false := by
      rw [source] at refused
      cases target : wf.groundPose s a.id with
      | error fault => rfl
      | ok y =>
        rw [target] at refused
        cases refused
    show ((a.groundPose s >>= fun y => pure (y.inverse * x)).ask μ').2.memo = μ'.memo
    rw [Query.ask_bind_pure]
    exact WellFormed.node_refused here own faithful' ha last

/-- A refused question leaves what the evaluation of its source leaves. -/
theorem WellFormed.question_refused {q : Question α β} (about : q.About m)
    (refused : (wf.answer s q).isOk = false) :
    ((q.query s).ask μ).2.memo = ((q.source.groundPose s).ask μ).2.memo := by
  obtain ⟨hf, ha⟩ := q.forall_nodes_iff.1 about
  cases q with
  | ground f => rfl
  | between f a => exact WellFormed.between_refused here own faithful hf ha refused
  | expressVector v f a | locate v f a =>
    have failed : (wf.between s f.id a.id).isOk = false := by
      rw [answer] at refused
      cases between : wf.between s f.id a.id with
      | error fault => rfl
      | ok x =>
        rw [between] at refused
        cases refused
    rw [← WellFormed.between_refused here own faithful hf ha failed]
    show ((f.between s a >>= fun x => pure _).ask μ).2.memo = _
    rw [Query.ask_bind_pure]
    rfl

end Model
end RigidFrames
