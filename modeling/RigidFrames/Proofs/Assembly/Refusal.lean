/-
  RigidFrames.Proofs.Assembly.Refusal

  Refused calls leave no trace.

  A refused call hands the assembly back as it was and reports nothing
  (`perform_eq_refuse`).  So it can be taken out of a history together with
  its reply: the calls that stay get the replies that they had, and freezing
  comes to the same (`history_pruned`).
-/
import RigidFrames.Assembly.Freeze
import RigidFrames.Proofs.Assembly.History
import RigidFrames.Proofs.Model.WellFormed

namespace RigidFrames.Assembly

variable {α : Type}

/-- `kept` is left of a history when some of the calls that were refused are taken out. -/
inductive Pruned : List (Exchange α) → List (Exchange α) → Prop
  | nil : Pruned [] []
  | keep (e : Exchange α) {past kept : List (Exchange α)} (rest : Pruned past kept) :
      Pruned (e :: past) (e :: kept)
  | drop {e : Exchange α} {fault : Fault α} (refused : e.2.answer = .error fault)
      {past kept : List (Exchange α)} (rest : Pruned past kept) : Pruned (e :: past) kept

/-- A call that answers a fault has done nothing else. -/
theorem perform_eq_refuse {a : Assembly α} {c : Call α} {fault : Fault α}
    (refused : (a.perform c).answer = .error fault) : a.perform c = a.refuse fault := by
  have outcome := a.perform_outcome c
  generalize a.perform c = r at refused outcome ⊢
  cases outcome with
  | refused kept fault' =>
    cases refused
    rfl
  | configured | added | moved => cases refused

/-- The calls that stay get the replies that they had, and leave the same assembly. -/
theorem history_pruned {a : Assembly α} {calls : List (Call α)} {kept : List (Exchange α)}
    (pruned : Pruned (a.history calls) kept) :
    a.history (kept.map (·.1)) = kept ∧ a.run (kept.map (·.1)) = a.run calls := by
  induction calls generalizing a kept with
  | nil =>
    cases pruned
    exact ⟨rfl, rfl⟩
  | cons c calls ih =>
    rw [history] at pruned
    cases pruned with
    | keep _ rest =>
      obtain ⟨replies, after⟩ := ih rest
      refine ⟨?_, after⟩
      rw [List.map_cons, history, replies]
    | @drop _ fault refused _ _ rest =>
      have same : (a.perform c).after = a := by
        rw [perform_eq_refuse refused]
        rfl
      rw [same] at rest
      obtain ⟨replies, after⟩ := ih rest
      refine ⟨replies, after.trans ?_⟩
      show a.run calls = (a.perform c).after.run calls
      rw [same]

/-- A refused call changes no part of the assembly and reports nothing; and whichever refused calls
    are taken out of a sequence, the others get the same replies and freezing the same outcome. -/
theorem refusals_traceless [Scalar α] :
    (∀ (a : Assembly α) (c : Call α) (fault : Fault α), (a.perform c).answer = .error fault →
      (a.perform c).after = a ∧ (a.perform c).log = []) ∧
    (∀ (calls : List (Call α)) (kept : List (Exchange α)), Pruned (empty.history calls) kept →
      empty.history (kept.map (·.1)) = kept ∧
      ∀ r : Registry, (built (kept.map (·.1))).freeze r = (built calls).freeze r) := by
  refine ⟨fun a c fault refused => ?_, fun calls kept pruned => ?_⟩
  · rw [perform_eq_refuse refused]
    exact ⟨rfl, rfl⟩
  · obtain ⟨replies, after⟩ := history_pruned pruned
    refine ⟨replies, fun r => ?_⟩
    rw [built, after, built]

/-- The thigh is asked for twice.  Without the second call, which is refused, the marker is added
    and the model frozen as with it. -/
theorem refusals_traceless_marker :
    let second : Exchange Float := (.addGrounded "thigh",
      (built [.addGrounded "thigh"]).perform (.addGrounded "thigh"))
    let thigh : Exchange Float := (.addGrounded "thigh", empty.perform (.addGrounded "thigh"))
    let marker : Exchange Float := (.addAttached "marker" ⟨1⟩ (.ofTranslation ⟨0, 0, 1⟩),
      (built [.addGrounded "thigh", .addGrounded "thigh"]).perform
        (.addAttached "marker" ⟨1⟩ (.ofTranslation ⟨0, 0, 1⟩)))
    second.2.answer = .error (.structural "thigh" .duplicateName) ∧
    second.2.after = built [.addGrounded "thigh"] ∧ second.2.log = [] ∧
    Pruned (empty.history Model.markerCalls) [thigh, marker] ∧
    empty.history [thigh.1, marker.1] = [thigh, marker] ∧
    ((built [thigh.1, marker.1]).freeze .empty).answer = .ok Model.markerModel := by
  intro second thigh marker
  have refused : second.2.answer = .error (.structural "thigh" .duplicateName) := by
    simp [second, built, run, perform, addGrounded, add, refuse, empty, Reply.map, Except.map,
      groundName]
  have pruned : Pruned (empty.history Model.markerCalls) [thigh, marker] :=
    .keep thigh (.drop (e := second) refused (.keep marker .nil))
  obtain ⟨unchanged, silent⟩ := refusals_traceless.1 _ _ _ refused
  obtain ⟨replies, freezing⟩ := refusals_traceless.2 _ _ pruned
  refine ⟨refused, unchanged, silent, pruned, replies, ?_⟩
  rw [← Model.freeze_markerCalls]
  exact congrArg Frozen.answer (freezing .empty)

end RigidFrames.Assembly
