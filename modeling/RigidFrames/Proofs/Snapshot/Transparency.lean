/-
  RigidFrames.Proofs.Snapshot.Transparency

  The memo is never seen in an answer.

  Along any run of a snapshot every question gets the answer that its formula
  gives from the reference, whatever the memo holds by then.  The same is true
  of a state that somebody else implements, as long as the pose of a body
  depends on the version and the body alone: its versions need not rise, since
  what the memo says is tied to a version and not to the time of the question.
-/
import RigidFrames.Proofs.Snapshot.Run

namespace RigidFrames

open Walk

variable {α : Type}

/-- What happens to the memo of a state whose version is `t` when it is asked. -/
inductive Visit (α : Type) : Type 1
  | ask {β : Type} (t : Stamp) (q : Question α β)
  | clear

/-- The visit asks about no stranger with the model's number. -/
def Visit.Consistent (m : Model α) : Visit α → Prop
  | ask _ q => q.Consistent m
  | clear => True

/-- A state of the model that supplies poses by version and body. -/
def Model.stateAt (m : Model α) (poses : Stamp → BodyIndex → Except (Fault α) (Pose α))
    (t : Stamp) : State α :=
  ⟨m.number, t, poses t⟩

section

variable [Scalar α]

/-- The meter after a visit. -/
def Model.visit (m : Model α) (poses : Stamp → BodyIndex → Except (Fault α) (Pose α))
    (μ : Meter α) : Visit α → Meter α
  | .ask t q => ((q.query (m.stateAt poses t)).ask μ).2
  | .clear => { μ with memo := μ.memo.clear }

/-- The meter after some visits, the first of them to an empty memo. -/
def Model.visits (m : Model α) (poses : Stamp → BodyIndex → Except (Fault α) (Pose α))
    (visits : List (Visit α)) : Meter α :=
  visits.foldl (m.visit poses) .empty

variable {m : Model α}

theorem Walk.Faithful.visit {wf : m.WellFormed}
    {poses : Stamp → BodyIndex → Except (Fault α) (Pose α)} {μ : Meter α}
    (faithful : Faithful wf (m.stateAt poses) μ.memo) {v : Visit α} (consistent : v.Consistent m) :
    Faithful wf (m.stateAt poses) (m.visit poses μ v).memo := by
  cases v with
  | clear => exact Faithful.clear μ.memo
  | ask t q =>
    have own : (m.stateAt poses t).model = m.number := rfl
    refine question_keeps (P := fun μ => Faithful wf (m.stateAt poses) μ.memo) own ?_ consistent μ
      faithful
    intro i lt μ start
    exact (wf.evaluate_ask rfl lt start).2

theorem visits_faithful (wf : m.WellFormed)
    (poses : Stamp → BodyIndex → Except (Fault α) (Pose α)) {visits : List (Visit α)}
    (consistent : ∀ v ∈ visits, v.Consistent m) :
    Faithful wf (m.stateAt poses) (m.visits poses visits).memo := by
  suffices kept : ∀ μ : Meter α, Faithful wf (m.stateAt poses) μ.memo →
      Faithful wf (m.stateAt poses) (visits.foldl (m.visit poses) μ).memo from
    kept .empty (Faithful.empty wf _)
  induction visits with
  | nil => exact fun μ start => start
  | cons v visits ih =>
    intro μ start
    have first := start.visit (consistent v List.mem_cons_self)
    have others := fun u mem => consistent u (List.mem_cons_of_mem v mem)
    exact ih others (m.visit poses μ v) first

/-- Every question about a frozen model is answered by its formula: after any actions on a snapshot
    of the model, and after any visits to another state of the model, at any version. -/
theorem answers_transparent (frozen : m.Frozen) :
    (∀ actions : List (Action α), (∀ a ∈ actions, a.Consistent m) →
      ∀ {β : Type} (q : Question α β), q.About m →
        (((Snapshot.ofModel m).run actions).ask q.query).1 =
          frozen.wellFormed.answer ((Snapshot.ofModel m).run actions).state q) ∧
    (∀ (poses : Stamp → BodyIndex → Except (Fault α) (Pose α)) (visits : List (Visit α)),
      (∀ v ∈ visits, v.Consistent m) →
      ∀ (t : Stamp) {β : Type} (q : Question α β), q.About m →
        ((q.query (m.stateAt poses t)).ask (m.visits poses visits)).1 =
          frozen.wellFormed.answer (m.stateAt poses t) q) := by
  refine ⟨?_, ?_⟩
  · intro actions consistent β q about
    have coherent := Snapshot.run_coherent frozen.wellFormed consistent
    obtain ⟨view, here, faithful⟩ := coherent.faithful
    exact Model.WellFormed.question_ask here coherent.model about faithful
  · intro poses visits consistent t β q about
    have faithful := visits_faithful frozen.wellFormed poses consistent
    exact Model.WellFormed.question_ask (s := m.stateAt poses t) rfl rfl about faithful

end

/-- The marker is asked for, the thigh moves, and the marker is asked for again. -/
theorem answers_transparent_marker :
    Model.markerModel.Frozen ∧
    (((Snapshot.ofModel Model.markerModel).run
        [.ask (.ground Model.markerNode), .setPose ⟨0⟩ (.ofTranslation ⟨1, 0, 0⟩)]).ask
      (Question.ground Model.markerNode).query).1 =
      Model.markerModel_frozen.wellFormed.answer
        ((Snapshot.ofModel Model.markerModel).run
          [.ask (.ground Model.markerNode), .setPose ⟨0⟩ (.ofTranslation ⟨1, 0, 0⟩)]).state
        (.ground Model.markerNode) := by
  have about : (Question.ground Model.markerNode).About Model.markerModel := by
    intro n mem
    cases mem with
    | head => rfl
    | tail _ mem => cases mem
  refine ⟨Model.markerModel_frozen,
    (answers_transparent Model.markerModel_frozen).1 _ (fun a mem => ?_) _ about⟩
  cases mem with
  | head => exact about.consistent
  | tail _ mem =>
    cases mem with
    | head => trivial
    | tail _ mem => cases mem

end RigidFrames
