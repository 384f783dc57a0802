/-
  RigidFrames.Proofs.Snapshot.Origin

  Where the entries of a snapshot's memo come from.

  A question that joins in a frame of another model is refused before anything
  is looked at (`ask_stranger`).  So whatever the memo comes to hold was
  computed by a question that is about the snapshot's model alone: from the
  state as it was then, and for a frame of the model (`Coherent.asked_entry`).
  Along a run each entry has a first moment, and what was done there is the
  question that it came from (`run_entry`).
-/
import RigidFrames.Proofs.Query.Refusal
import RigidFrames.Proofs.Snapshot.Run

namespace RigidFrames

open Walk

variable {α β : Type}

/-- All nodes of the question carry the number. -/
def Question.Of (number : ModelId) (q : Question α β) : Prop :=
  ∀ n ∈ q.nodes, n.model.number = number

instance (number : ModelId) (q : Question α β) : Decidable (q.Of number) :=
  inferInstanceAs (Decidable (∀ n ∈ q.nodes, n.model.number = number))

theorem Question.Consistent.about {m : Model α} {q : Question α β} (consistent : q.Consistent m)
    (own : q.Of m.number) : q.About m :=
  fun n mem => consistent n mem (own n mem)

/-- The action is about nothing but frames with the given number of their model. -/
def Action.own (number : ModelId) : Action α → Bool
  | ask q => decide (q.Of number)
  | _ => true

variable [Scalar α]

/-- A question that is not about frames of the state's model alone is refused and leaves nothing
    behind. -/
theorem question_stranger {s : State α} {q : Question α β} (other : ¬ q.Of s.model)
    (μ : Meter α) : ∃ fault, (q.query s).ask μ = (.error fault, μ) := by
  by_cases same : q.source.model.number = q.target.model.number
  · have stranger : s.model ≠ q.source.model.number := fun own =>
      other (q.forall_nodes_iff.2 ⟨own.symm, same ▸ own.symm⟩)
    exact ⟨_, Question.ask_other same stranger μ⟩
  · exact ⟨_, Question.ask_foreign same μ⟩

namespace Snapshot

theorem ask_stranger {s : Snapshot α} {q : Question α β} (other : ¬ q.Of s.model) :
    ∃ fault, s.ask q.query = (.error fault, s) := by
  obtain ⟨fault, refused⟩ := question_stranger (s := s.state) other s.meter
  refine ⟨fault, ?_⟩
  rw [ask, refused]

theorem act_stranger {s : Snapshot α} {a : Action α} (other : a.own s.model = false) :
    s.act a = s := by
  cases a with
  | setPose | touch | clear => cases other
  | ask q =>
    obtain ⟨fault, refused⟩ := ask_stranger (of_decide_eq_false other)
    rw [act, refused]

-- ============================================================================
-- Entries
-- ============================================================================

variable {m : Model α} {wf : m.WellFormed}

/-- What the memo holds after a question it held before, or the question computed it: for the
    present version, and for a frame of the model. -/
theorem Coherent.asked_entry {s : Snapshot α} (coherent : Coherent wf s) {q : Question α β}
    (consistent : q.Consistent m) {i : FrameId} {t : Stamp} {x : Pose α}
    (found : (s.ask q.query).2.memo.lookup? i t = some x) :
    s.memo.lookup? i t = some x ∨
      (t = s.stamp ∧ i.index < m.size ∧ wf.groundPose s.state i = .ok x) := by
  obtain ⟨model, -, view, here, faithful⟩ := coherent
  have own : s.state.model = m.number := model
  let Explained (μ : Meter α) : Prop := ∀ i t x, μ.memo.lookup? i t = some x →
    s.memo.lookup? i t = some x ∨
      (t = s.stamp ∧ i.index < m.size ∧ wf.groundPose s.state i = .ok x)
  have kept := question_keeps (P := fun μ => Faithful wf view μ.memo ∧ Explained μ) own ?_
    consistent s.meter ⟨faithful, fun _ _ _ old => .inl old⟩
  · exact kept.2 i t x found
  · intro j lt μ start
    have ended := wf.evaluate_keeps (s := s.state)
      (P := fun w μ => Correct wf s.state j w ∧ Faithful wf view μ.memo ∧ Explained μ) ?_ lt
      ⟨.look .start, start⟩
    · exact ended.2
    · rintro w μ ⟨correct, faithful, explained⟩
      refine ⟨correct.step (faithful.known here), faithful.step here correct, ?_⟩
      intro k u y new
      rcases step_memo m s.state w μ with ⟨k', y', pending, rfl, stored⟩ | ⟨-, same, -⟩
      · rw [stored] at new
        rcases keep_lookup? new with old | ⟨rfl, rfl, rfl⟩
        · exact explained k u y old
        · cases correct with
          | store _ pose => exact .inr ⟨rfl, wf.lt_of_groundPose pose, pose⟩
      · rw [lookup?_congr same] at new
        exact explained k u y new

/-- Only a question about the model's frames makes an entry. -/
theorem Coherent.act_entry {s : Snapshot α} (coherent : Coherent wf s) {a : Action α}
    (consistent : a.Consistent m) {i : FrameId} {t : Stamp} {x : Pose α}
    (found : (s.act a).memo.lookup? i t = some x) :
    s.memo.lookup? i t = some x ∨ ∃ (β : Type) (q : Question α β), a = .ask q ∧ q.About m ∧
      t = s.stamp ∧ i.index < m.size ∧ wf.groundPose s.state i = .ok x := by
  cases a with
  | setPose body y =>
    rw [act, setPose] at found
    split at found
    · exact .inl found
    · exact .inl found
  | touch => exact .inl found
  | clear =>
    have cleared : (s.act .clear).memo = s.memo.clear := rfl
    rw [cleared, PoseMemo.lookup?_clear] at found
    cases found
  | @ask β q =>
    by_cases own : q.Of m.number
    · rcases coherent.asked_entry consistent found with old | new
      · exact .inl old
      · exact .inr ⟨β, q, rfl, Question.Consistent.about consistent own, new⟩
    · rw [← coherent.model] at own
      obtain ⟨fault, refused⟩ := ask_stranger own
      rw [act, refused] at found
      exact .inl found

/-- The question `q`, put after the actions `before`, computed the entry `x` of frame `i` for
    version `t`. -/
structure Origin (wf : m.WellFormed) (before : List (Action α)) (q : Question α β) (i : FrameId)
    (t : Stamp) (x : Pose α) : Prop where
  about : q.About m
  stamp : t = ((ofModel m).run before).stamp
  frame : i.index < m.size
  pose : wf.groundPose ((ofModel m).run before).state i = .ok x
  absent : ((ofModel m).run before).memo.lookup? i t ≠ some x
  entered : (((ofModel m).run before).ask q.query).2.memo.lookup? i t = some x

/-- Every entry of the memo was computed by one of the questions. -/
theorem run_entry (wf : m.WellFormed) {actions : List (Action α)}
    (consistent : ∀ a ∈ actions, a.Consistent m) {i : FrameId} {t : Stamp} {x : Pose α}
    (found : ((ofModel m).run actions).memo.lookup? i t = some x) :
    ∃ (before after : List (Action α)) (β : Type) (q : Question α β),
      actions = before ++ .ask q :: after ∧ Origin wf before q i t x := by
  induction actions using List.reverseRecOn with
  | nil =>
    have nothing : ((ofModel m).run []).memo = PoseMemo.empty := rfl
    rw [nothing, PoseMemo.lookup?_empty] at found
    cases found
  | append_singleton actions a ih =>
    have others : ∀ b ∈ actions, b.Consistent m :=
      fun b mem => consistent b (List.mem_append_left [a] mem)
    have last : a.Consistent m := consistent a (List.mem_append_right actions List.mem_cons_self)
    by_cases old : ((ofModel m).run actions).memo.lookup? i t = some x
    · obtain ⟨before, after, β, q, rfl, origin⟩ := ih others old
      refine ⟨before, after ++ [a], β, q, ?_, origin⟩
      rw [List.append_assoc, List.cons_append]
    · -- The entry is new, so the last action made it.
      rw [run_snoc] at found
      rcases (run_coherent wf others).act_entry last found with entered | made
      · exact absurd entered old
      · obtain ⟨β, q, rfl, about, stamp, frame, pose⟩ := made
        exact ⟨actions, [], β, q, rfl, about, stamp, frame, pose, old, found⟩

end Snapshot
end RigidFrames
