/-
  RigidFrames.Proofs.Session.Refusals

  Which questions are refused, in which order the reasons are looked for, and
  what a refusal leaves behind.

  `Snapshot.Judges` says it for one snapshot and one question, without the
  memo: what is refused depends on the models of the frames, the model of the
  snapshot and the bodies that the bases follow, and not on the poses that
  happen to be known.  It holds in every session, for frames of whatever models
  (`session_judges`).
-/
import RigidFrames.Proofs.Model.Representation
import RigidFrames.Proofs.Session.Run

namespace RigidFrames

variable {α β : Type} [Scalar α]

namespace Snapshot

/-- What a snapshot makes of a question.  The reasons to refuse it stand in the order in which they
    are looked for. -/
structure Judges (s : Snapshot α) (q : Question α β) : Prop where
  /-- Frames of two models are refused, whatever the state. -/
  foreign : (s.ask q.query).1 = .error .foreignFrame ↔ q.source.model ≠ q.target.model
  /-- Otherwise a state of another model is refused.  Nothing else is ever wrong with the state. -/
  invalid : ∀ cause, (s.ask q.query).1 = .error (.invalidState cause) ↔
    q.source.model = q.target.model ∧ s.model ≠ q.source.model.number ∧
      cause = .otherModel s.model q.source.model.number
  /-- Otherwise the source is refused if its base follows a body whose pose is not finite, and
      otherwise the target.  The base is named, and its body. -/
  degenerate : ∀ name cause, (s.ask q.query).1 = .error (.degenerate name cause) ↔
    q.source.model = q.target.model ∧ s.model = q.source.model.number ∧
      ∃ body, cause = .bodyNotFinite body ∧
        (q.source.model.Lost s.state q.source.id name body ∨
          (∀ name' body', ¬ q.source.model.Lost s.state q.source.id name' body') ∧
            q.target.model.Lost s.state q.target.id name body)
  /-- Otherwise there is an answer. -/
  ok : (s.ask q.query).1.isOk = true ↔
    q.source.model = q.target.model ∧ s.model = q.source.model.number ∧
      (∀ name body, ¬ q.source.model.Lost s.state q.source.id name body) ∧
        ∀ name body, ¬ q.target.model.Lost s.state q.target.id name body
  /-- Refused before its source has a pose, a question leaves the memo as it was. -/
  unchanged : (s.ask q.query).1.isOk = false → q.source.model ≠ q.target.model ∨
    (s.ask (Question.ground q.source).query).1.isOk = false → (s.ask q.query).2.memo = s.memo
  /-- Refused for its target, it leaves what the evaluation of its source leaves. -/
  source_only : (s.ask q.query).1.isOk = false → q.source.model = q.target.model →
    (s.ask (Question.ground q.source).query).1.isOk = true →
      (s.ask q.query).2.memo = (s.ask (Question.ground q.source).query).2.memo

variable {s : Snapshot α} {q : Question α β}

theorem judges_of_foreign (foreign : q.source.model.number ≠ q.target.model.number) :
    s.Judges q := by
  have asked : s.ask q.query = (.error .foreignFrame, s) := by
    rw [ask, Question.ask_foreign foreign]
  have models : q.source.model ≠ q.target.model := fun same => foreign (congrArg _ same)
  refine ⟨?_, fun cause => ?_, fun name cause => ?_, ?_, fun _ _ => ?_, fun _ same => ?_⟩
  · exact iff_of_true (by rw [asked]) models
  · rw [asked]
    simp [models]
  · rw [asked]
    simp [models]
  · rw [asked]
    simp [models, Except.isOk, Except.toBool]
  · rw [asked]
  · exact absurd same models

theorem judges_of_other (models : q.source.model = q.target.model)
    (other : s.model ≠ q.source.model.number) : s.Judges q := by
  have asked : s.ask q.query =
      (.error (.invalidState (.otherModel s.model q.source.model.number)), s) := by
    rw [ask, Question.ask_other (congrArg _ models) other]
    rfl
  have first : s.ask (Question.ground q.source).query =
      (.error (.invalidState (.otherModel s.model q.source.model.number)), s) := by
    rw [ask, Question.ask_other (q := .ground q.source) rfl other]
    rfl
  refine ⟨?_, fun cause => ?_, fun name cause => ?_, ?_, fun _ _ => ?_, fun _ _ ok => ?_⟩
  · rw [asked]
    simp [models]
  · rw [asked, Except.error.injEq, Fault.invalidState.injEq]
    exact ⟨fun same => ⟨models, other, same.symm⟩, fun due => due.2.2.symm⟩
  · rw [asked]
    simp [other]
  · rw [asked]
    simp [other, Except.isOk, Except.toBool]
  · rw [asked]
  · rw [first] at ok
    cases ok

section

variable {m : Model α} {wf : m.WellFormed} (coherent : Coherent wf s)
  (supplied : m.Supplied s.state) (about : q.About m)

include coherent supplied about

/-- A question about the snapshot's model is refused for its source or else for its target. -/
theorem Coherent.ask_eq_error_iff (fault : Fault α) : (s.ask q.query).1 = .error fault ↔
    ∃ name body, fault = .degenerate name (.bodyNotFinite body) ∧
      (m.Lost s.state q.source.id name body ∨
        (∀ name' body', ¬ m.Lost s.state q.source.id name' body') ∧
          m.Lost s.state q.target.id name body) := by
  obtain ⟨source, target⟩ := q.forall_nodes_iff.1 about
  have lt : q.source.id.index < m.size := source ▸ q.source.id_lt
  have lt' : q.target.id.index < m.size := target ▸ q.target.id_lt
  rw [coherent.question_ask about, wf.answer_eq_error_iff, wf.groundPose_isOk_iff supplied lt,
    wf.groundPose_eq_error_iff supplied lt, wf.groundPose_eq_error_iff supplied lt']
  refine ⟨?_, ?_⟩
  · rintro (⟨name, body, lost, rfl⟩ | ⟨kept, name, body, lost, rfl⟩)
    · exact ⟨name, body, rfl, .inl lost⟩
    · exact ⟨name, body, rfl, .inr ⟨kept, lost⟩⟩
  · rintro ⟨name, body, rfl, lost | ⟨kept, lost⟩⟩
    · exact .inl ⟨name, body, lost, rfl⟩
    · exact .inr ⟨kept, name, body, lost, rfl⟩

theorem Coherent.ask_isOk_iff : (s.ask q.query).1.isOk = true ↔
    (∀ name body, ¬ m.Lost s.state q.source.id name body) ∧
      ∀ name body, ¬ m.Lost s.state q.target.id name body := by
  have refused := coherent.ask_eq_error_iff supplied about
  cases answer : (s.ask q.query).1 with
  | ok x =>
    rw [answer] at refused
    have kept : ∀ name body, ¬ m.Lost s.state q.source.id name body := by
      intro name body lost
      cases (refused _).2 ⟨name, body, rfl, .inl lost⟩
    refine iff_of_true rfl ⟨kept, fun name body lost => ?_⟩
    cases (refused _).2 ⟨name, body, rfl, .inr ⟨kept, lost⟩⟩
  | error fault =>
    refine iff_of_false Bool.false_ne_true ?_
    rintro ⟨kept, kept'⟩
    obtain ⟨name, body, -, lost | ⟨-, lost⟩⟩ := (refused fault).1 answer
    · exact kept name body lost
    · exact kept' name body lost

theorem Coherent.judges : s.Judges q := by
  have refused := coherent.ask_eq_error_iff supplied about
  have ok := coherent.ask_isOk_iff supplied about
  have answer : (s.ask q.query).1 = wf.answer s.state q := coherent.question_ask about
  obtain ⟨source, target⟩ := q.forall_nodes_iff.1 about
  have models : q.source.model = q.target.model := source.trans target.symm
  have own : s.model = q.source.model.number := source ▸ coherent.model
  obtain ⟨model, -, view, here, faithful⟩ := coherent
  have leaves (failed : (s.ask q.query).1.isOk = false) :
      (s.ask q.query).2.memo = (s.ask (Question.ground q.source).query).2.memo := by
    rw [answer] at failed
    exact Model.WellFormed.question_refused here model faithful about failed
  refine ⟨?_, fun cause => ?_, fun name cause => ?_, ?_, fun failed early => ?_,
    fun failed _ _ => leaves failed⟩
  · refine iff_of_false (fun foreign => ?_) fun different => different models
    obtain ⟨name, body, wrong, -⟩ := (refused _).1 foreign
    cases wrong
  · refine iff_of_false (fun invalid => ?_) fun due => due.2.1 own
    obtain ⟨name, body, wrong, -⟩ := (refused _).1 invalid
    cases wrong
  · rw [refused, source, target]
    refine ⟨?_, ?_⟩
    · rintro ⟨name', body, same, lost⟩
      obtain ⟨rfl, rfl⟩ := Fault.degenerate.inj same
      exact ⟨rfl, model, body, rfl, lost⟩
    · rintro ⟨-, -, body, rfl, lost⟩
      exact ⟨name, body, rfl, lost⟩
  · rw [ok, source, target]
    exact ⟨fun kept => ⟨rfl, model, kept⟩, fun due => due.2.2⟩
  · have first : (s.ask (Question.ground q.source).query).1 = wf.groundPose s.state q.source.id :=
      (Model.WellFormed.node_ask here model source faithful).1
    rcases early with different | failed'
    · exact absurd models different
    · rw [first] at failed'
      rw [leaves failed]
      exact Model.WellFormed.node_refused here model faithful source failed'

end

end Snapshot

namespace Session

variable {ds : List (Deed α)} {w : Session α}

/-- Whatever has been done, every snapshot judges all questions about frames of frozen models as it
    should. -/
theorem session_judges (reached : Reached ds w) {j : Nat} {s : Snapshot α}
    (found : w.snapshots[j]? = some s) (q : Question α β)
    (known : ∀ n ∈ q.nodes, n.model ∈ w.models) : s.Judges q := by
  have sound : Sound ds w := reached.sound
  obtain ⟨source, target⟩ := q.forall_nodes_iff.1 known
  by_cases same : q.source.model.number = q.target.model.number
  · have models : q.source.model = q.target.model := sound.eq_of_number source target same
    by_cases own : s.model = q.source.model.number
    · obtain ⟨t, m, life⟩ := sound.lives j s found
      have mem : m ∈ w.models := List.mem_of_getElem? life.model
      have wf : m.WellFormed := (sound.frozen m mem).wellFormed
      have coherent : Snapshot.Coherent wf s := life.coherent wf
      have here : q.source.model = m :=
        sound.eq_of_number source mem (own.symm.trans coherent.model)
      have supplied : m.Supplied s.state := by
        rw [life.run]
        exact wf.supplied_run _
      exact coherent.judges supplied (q.forall_nodes_iff.2 ⟨here, models ▸ here⟩)
    · exact Snapshot.judges_of_other models own
  · exact Snapshot.judges_of_foreign same

/-- The thigh of the small model is nowhere. -/
def lostDeeds : List (Deed Float) :=
  [] ++ .assemble :: Model.markerCalls.map (.call 0) ++ [.freeze 0] ++ [.observe 0] ++
    [.act 0 (.setPose ⟨0⟩ (.ofTranslation ⟨0 / 0, 0, 0⟩))]

/-- The transform from the ground frame to the marker is refused for the thigh that the marker hangs
    on, and what is left is what the ground frame leaves. -/
theorem session_judges_marker :
    let ground : Node Float := ⟨Model.markerModel, ⟨0⟩, by decide⟩
    let s := (Snapshot.ofModel Model.markerModel).run
      [.setPose ⟨0⟩ (.ofTranslation ⟨0 / 0, 0, 0⟩)]
    let after := s.ask (Question.between ground Model.markerNode).query
    after.1 = .error (.degenerate "thigh" (.bodyNotFinite ⟨0⟩)) ∧
      after.2.memo = (s.ask (Question.ground ground).query).2.memo := by
  intro ground s after
  have made := Reached.start.made Model.freeze_markerCalls
  have observed := made.step (.observe (t := 0) rfl)
  have reached : Reached lostDeeds ⟨⟨1⟩, [.built Model.markerCalls], [Model.markerModel], [s]⟩ :=
    observed.step (.act (j := 0) rfl trivial)
  have known : ∀ n ∈ (Question.between ground Model.markerNode).nodes,
      n.model ∈ [Model.markerModel] :=
    (Question.forall_nodes_iff _).2 ⟨List.mem_singleton.2 rfl, List.mem_singleton.2 rfl⟩
  have judges := session_judges reached (j := 0) rfl (.between ground Model.markerNode) known
  have kept : ∀ name body, ¬ Model.markerModel.Lost s.state ground.id name body := by
    rintro name body ⟨follows, -⟩
    have base : Model.markerModel.frame? (Model.markerModel.base ground.id) =
        some ⟨groundName, .ground⟩ := rfl
    rw [base] at follows
    cases follows
  have lost : Model.markerModel.Lost s.state Model.markerNode.id "thigh" ⟨0⟩ :=
    ⟨rfl, _, rfl, by decide +kernel⟩
  have refused : after.1 = .error (.degenerate "thigh" (.bodyNotFinite ⟨0⟩)) :=
    (judges.degenerate "thigh" _).2 ⟨rfl, rfl, ⟨0⟩, rfl, .inr ⟨kept, lost⟩⟩
  refine ⟨refused, judges.source_only ?_ rfl ?_⟩
  · rw [show (s.ask (Question.between ground Model.markerNode).query).1 = _ from refused]
    rfl
  · have first := session_judges reached (j := 0) rfl (.ground ground)
      (List.forall_mem_singleton.2 (List.mem_singleton.2 rfl))
    exact first.ok.2 ⟨rfl, rfl, kept, kept⟩

end Session
end RigidFrames
