/-
  RigidFrames.Proofs.Snapshot.Run

  What holds of a snapshot after any actions.

  An action is refused and changes nothing, or raises the version and perhaps
  moves a body, or forgets the memo, or asks (`act_outcome`).  Along a run the
  memo stays truthful about every version that there was (`Coherent`): the
  states of the past are gone, so the invariant asks for some view that
  remembers them.  A new version gets its own place in the view, because no
  entry is newer than the snapshot.
-/
import RigidFrames.Proofs.Query.Entries
import RigidFrames.Proofs.Query.Question
import RigidFrames.Snapshot

namespace RigidFrames

open Walk

variable {α : Type}

/-- What can be done with a snapshot. -/
inductive Action (α : Type) : Type 1
  | setPose (body : BodyIndex) (x : Pose α)
  | touch
  | clear
  | ask {β : Type} (q : Question α β)

/-- The action asks about no stranger with the model's number. -/
def Action.Consistent (m : Model α) : Action α → Prop
  | ask q => q.Consistent m
  | _ => True

theorem Stamp.next_ne_of_le {t s : Stamp} (le : t.version ≤ s.version) : t ≠ s.next := by
  intro eq
  subst eq
  exact absurd le (Nat.not_succ_le_self s.version)

namespace Snapshot

theorem bodyPose_eq_ok_iff {s : Snapshot α} {body : BodyIndex} {x : Pose α} :
    s.state.bodyPose body = .ok x ↔ s.poses[body.index]? = some x := by
  cases found : s.poses[body.index]? <;> simp [state, State.ofPoses, found]

section

variable [Scalar α]

/-- The snapshot after an action. -/
def act (s : Snapshot α) : Action α → Snapshot α
  | .setPose body x => (s.setPose body x).2
  | .touch => s.touch
  | .clear => s.clear
  | .ask q => (s.ask q.query).2

/-- The snapshot after some actions, from the first to the last. -/
def run (s : Snapshot α) (actions : List (Action α)) : Snapshot α :=
  actions.foldl act s

theorem run_snoc (s : Snapshot α) (actions : List (Action α)) (a : Action α) :
    s.run (actions ++ [a]) = (s.run actions).act a := by
  rw [run, run, List.foldl_append, List.foldl_cons, List.foldl_nil]

/-- Some actions made this of a new snapshot of the model. -/
def Reached (m : Model α) (s : Snapshot α) : Prop :=
  ∃ actions, (∀ a ∈ actions, a.Consistent m) ∧ s = (ofModel m).run actions

/-- What an action can make of a snapshot. -/
inductive Outcome (m : Model α) (s : Snapshot α) : Snapshot α → Prop
  | refused : Outcome m s s
  | changed (poses : Array (Pose α)) : Outcome m s { s with poses, stamp := s.stamp.next }
  | cleared : Outcome m s { s with meter.memo := s.memo.clear }
  | asked {β : Type} {q : Question α β} (consistent : q.Consistent m) :
      Outcome m s { s with meter := ((q.query s.state).ask s.meter).2 }

theorem act_outcome {m : Model α} (s : Snapshot α) {a : Action α} (consistent : a.Consistent m) :
    s.Outcome m (s.act a) := by
  cases a with
  | setPose body x =>
    rw [act, setPose]
    split
    · exact .changed _
    · exact .refused
  | touch => exact .changed s.poses
  | clear => exact .cleared
  | ask q => exact .asked consistent

theorem act_poses_size (s : Snapshot α) (a : Action α) : (s.act a).poses.size = s.poses.size := by
  cases a with
  | touch | clear | ask => rfl
  | setPose body x =>
    rw [act, setPose]
    split
    · exact Array.size_setIfInBounds
    · rfl

/-- No action adds or removes a body. -/
theorem run_poses_size (m : Model α) (actions : List (Action α)) :
    ((ofModel m).run actions).poses.size = m.bodies := by
  suffices kept : ∀ s : Snapshot α, (s.run actions).poses.size = s.poses.size from
    (kept (ofModel m)).trans Array.size_replicate
  induction actions with
  | nil => exact fun s => rfl
  | cons a actions ih =>
    intro s
    exact (ih (s.act a)).trans (s.act_poses_size a)

/-- What a new snapshot has and every outcome keeps is kept by a run. -/
theorem run_induction {m : Model α} {P : Snapshot α → Prop} (initial : P (ofModel m))
    (step : ∀ s s', P s → s.Outcome m s' → P s') (actions : List (Action α))
    (consistent : ∀ a ∈ actions, a.Consistent m) : P ((ofModel m).run actions) := by
  suffices kept : ∀ s, P s → P (s.run actions) from kept _ initial
  induction actions with
  | nil => exact fun s start => start
  | cons a actions ih =>
    intro s start
    have first := step s _ start (s.act_outcome (consistent a List.mem_cons_self))
    have others := fun b mem => consistent b (List.mem_cons_of_mem a mem)
    exact ih others (s.act a) first

end

/-- The snapshot is one of the model, and its memo is right about the present and the past. -/
structure Coherent [Scalar α] {m : Model α} (wf : m.WellFormed) (s : Snapshot α) : Prop where
  model : s.model = m.number
  past : s.meter.Past s.stamp
  faithful : ∃ view, view s.stamp = s.state ∧ Faithful wf view s.memo

section

variable [Scalar α] {m : Model α} {wf : m.WellFormed}

theorem ofModel_coherent : Coherent wf (ofModel m) :=
  ⟨rfl, Meter.Past.empty _, fun _ => (ofModel m).state, rfl, Faithful.empty wf _⟩

/-- The memo is as truthful after a change: the new version gets a place of its own. -/
theorem Coherent.changed {s : Snapshot α} (coherent : Coherent wf s) (poses : Array (Pose α)) :
    Coherent wf { s with poses, stamp := s.stamp.next } := by
  obtain ⟨model, past, view, here, faithful⟩ := coherent
  let after : Snapshot α := { s with poses, stamp := s.stamp.next }
  refine ⟨model, ?_, Function.update view s.stamp.next after.state, ?_, ?_⟩
  · intro i u x found
    exact Nat.le_succ_of_le (past i u x found)
  · exact Function.update_self ..
  · intro i u x found
    have old := Stamp.next_ne_of_le (past i u x found)
    rw [Function.update_of_ne old]
    exact faithful i u x found

theorem Coherent.asked {s : Snapshot α} (coherent : Coherent wf s) {β : Type} {q : Question α β}
    (consistent : q.Consistent m) :
    Coherent wf { s with meter := ((q.query s.state).ask s.meter).2 } := by
  obtain ⟨model, past, view, here, faithful⟩ := coherent
  have own : s.state.model = m.number := model
  have kept := question_keeps (P := fun μ => μ.Past s.stamp ∧ Faithful wf view μ.memo) own ?_
    consistent s.meter ⟨past, faithful⟩
  · exact ⟨model, kept.1, view, here, kept.2⟩
  · intro i lt μ start
    have ended := wf.evaluate_keeps (s := s.state)
      (P := fun w μ => Correct wf s.state i w ∧ μ.Past s.stamp ∧ Faithful wf view μ.memo) ?_ lt
      ⟨.look .start, start⟩
    · exact ended.2
    · rintro w μ ⟨correct, past, faithful⟩
      exact ⟨correct.step (faithful.known here), past_step past, faithful.step here correct⟩

theorem Coherent.outcome {s s' : Snapshot α} (coherent : Coherent wf s) (outcome : s.Outcome m s') :
    Coherent wf s' := by
  cases outcome with
  | refused => exact coherent
  | changed poses => exact coherent.changed poses
  | asked consistent => exact coherent.asked consistent
  | cleared =>
    obtain ⟨model, -, view, here, -⟩ := coherent
    exact ⟨model, Meter.Past.clear s.stamp s.meter, view, here, Faithful.clear s.memo⟩

theorem run_coherent (wf : m.WellFormed) {actions : List (Action α)}
    (consistent : ∀ a ∈ actions, a.Consistent m) : Coherent wf ((ofModel m).run actions) :=
  run_induction ofModel_coherent (fun _ _ coherent outcome => coherent.outcome outcome) actions
    consistent

theorem Reached.coherent {s : Snapshot α} (wf : m.WellFormed) (reached : Reached m s) :
    Coherent wf s := by
  obtain ⟨actions, consistent, rfl⟩ := reached
  exact run_coherent wf consistent

/-- A snapshot answers questions about its model by their formulas. -/
theorem Coherent.question_ask {s : Snapshot α} (coherent : Coherent wf s) {β : Type}
    {q : Question α β} (about : q.About m) : (s.ask q.query).1 = wf.answer s.state q := by
  obtain ⟨model, -, view, here, faithful⟩ := coherent
  exact Model.WellFormed.question_ask here model about faithful

theorem not_entered_next {s : Snapshot α} (coherent : Coherent wf s) (i : FrameId) :
    ¬ s.meter.Entered s.stamp.next i := by
  intro entered
  obtain ⟨x, found⟩ := Option.isSome_iff_exists.1 entered
  exact absurd (coherent.past i _ x found) (Nat.not_succ_le_self s.stamp.version)

theorem closed_asked (memoise : m.settings.memoise = true) {s : Snapshot α}
    (coherent : Coherent wf s) (closed : Meter.Closed m s.meter s.stamp) {β : Type}
    {q : Question α β} (consistent : q.Consistent m) :
    Meter.Closed m ((q.query s.state).ask s.meter).2 s.stamp := by
  obtain ⟨model, past, view, here, faithful⟩ := coherent
  have own : s.state.model = m.number := model
  have kept := question_keeps (P := Shared wf view s.state) own ?_ consistent s.meter
    ⟨faithful, past, closed⟩
  · exact kept.closed
  · intro i lt μ start
    have ended := wf.evaluate_keeps (s := s.state)
      (P := fun w μ => Engaged wf s.state μ i w ∧ Shared wf view s.state μ) ?_ lt
      ⟨⟨.look .start, trivial⟩, start⟩
    · exact ended.2
    · rintro w μ ⟨engaged, shared⟩
      exact ⟨engaged.step memoise shared here, shared.step memoise here engaged⟩

/-- At every moment of a run the frames entered for the present version have their parents
    entered. -/
theorem run_closed (wf : m.WellFormed) (memoise : m.settings.memoise = true)
    {actions : List (Action α)} (consistent : ∀ a ∈ actions, a.Consistent m) :
    Meter.Closed m ((ofModel m).run actions).meter ((ofModel m).run actions).stamp := by
  refine (run_induction (P := fun s => Coherent wf s ∧ Meter.Closed m s.meter s.stamp)
    ⟨ofModel_coherent, ?_⟩ ?_ actions consistent).2
  · exact fun i p _ entered => absurd entered (Meter.not_entered_empty _ i)
  · rintro s s' ⟨coherent, closed⟩ outcome
    refine ⟨coherent.outcome outcome, ?_⟩
    cases outcome with
    | refused => exact closed
    | asked consistent => exact closed_asked memoise coherent closed consistent
    | changed poses => exact fun i p _ entered => absurd entered (not_entered_next coherent i)
    | cleared => exact fun i p _ entered => absurd entered (Meter.not_entered_clear _ _ i)

end

end Snapshot
end RigidFrames
