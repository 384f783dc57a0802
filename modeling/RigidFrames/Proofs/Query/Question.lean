/-
  RigidFrames.Proofs.Query.Question

  The four questions about nodes, and what answers them.

  `Question.query` is the question put to a state, `WellFormed.answer` the
  formula for it in terms of the reference.  With a truthful memo the two
  agree (`WellFormed.question_ask`).  A question touches the memo by its
  evaluations only, so whatever these keep the question keeps
  (`question_keeps`), also where it fails half-way or is about frames of other
  models.
-/
import RigidFrames.Proofs.Query.Walk
import RigidFrames.Query.Pairwise

namespace RigidFrames

open Walk

variable {α β γ : Type}

/-- A question about nodes, with the type of its answer. -/
inductive Question (α : Type) : Type → Type
  | ground (f : Node α) : Question α (Pose α)
  | between (f a : Node α) : Question α (Pose α)
  | expressVector (v : Vec3 α) (f a : Node α) : Question α (Vec3 α)
  | locate (p : Vec3 α) (f a : Node α) : Question α (Vec3 α)

namespace Question

/-- The nodes that a question is about. -/
def nodes : Question α β → List (Node α)
  | ground f => [f]
  | between f a | expressVector _ f a | locate _ f a => [f, a]

/-- The frame that a question comes from. -/
def source : Question α β → Node α
  | ground f | between f _ | expressVector _ f _ | locate _ f _ => f

/-- The frame that a question goes to. -/
def target : Question α β → Node α
  | ground f => f
  | between _ a | expressVector _ _ a | locate _ _ a => a

/-- What holds of both frames of a question holds of all that it is about. -/
theorem forall_nodes_iff {P : Node α → Prop} (q : Question α β) :
    (∀ n ∈ q.nodes, P n) ↔ P q.source ∧ P q.target := by
  cases q with
  | ground f =>
    rw [nodes, List.forall_mem_singleton]
    exact (and_self_iff).symm
  | between f a | expressVector _ f a | locate _ f a =>
    rw [nodes, List.forall_mem_cons, List.forall_mem_singleton]
    exact Iff.rfl

/-- The question as it is put to a state. -/
def query [Scalar α] (s : State α) : Question α β → Query α β
  | ground f => f.groundPose s
  | between f a => f.between s a
  | expressVector v f a => f.expressVector s v a
  | locate p f a => f.locate s p a

/-- All nodes of the question are of the model. -/
def About (m : Model α) (q : Question α β) : Prop :=
  ∀ n ∈ q.nodes, n.model = m

/-- Nodes of the question that carry the model's number are of the model.  As numbers are given
    out once, this holds of all questions in one program. -/
def Consistent (m : Model α) (q : Question α β) : Prop :=
  ∀ n ∈ q.nodes, n.model.number = m.number → n.model = m

theorem about_iff {m : Model α} {q : Question α β} :
    q.About m ↔ q.source.model = m ∧ q.target.model = m :=
  q.forall_nodes_iff

theorem About.consistent {m : Model α} {q : Question α β} (about : q.About m) : q.Consistent m :=
  fun n mem _ => about n mem

end Question

namespace Query

theorem ask_bind (q : Query α β) (f : β → Query α γ) (μ : Meter α) :
    (q >>= f).ask μ = match q.ask μ with
      | (.ok x, μ) => (f x).ask μ
      | (.error fault, μ) => (.error fault, μ) := by
  rw [ask, ask, ExceptT.run_bind, StateT.run_bind]
  rcases (q.run).run μ with ⟨fault | x, μ'⟩ <;> rfl

/-- What is made of an answer afterwards costs nothing. -/
theorem ask_bind_pure (q : Query α β) (g : β → γ) (μ : Meter α) :
    ((q >>= fun x => pure (g x)).ask μ).2 = (q.ask μ).2 := by
  rw [ask_bind]
  rcases q.ask μ with ⟨fault | x, μ'⟩ <;> rfl

/-- What both parts of a query keep the whole keeps. -/
theorem bind_keeps {P : Meter α → Prop} {q : Query α β} {f : β → Query α γ}
    (first : ∀ μ, P μ → P (q.ask μ).2) (second : ∀ x μ, P μ → P ((f x).ask μ).2) (μ : Meter α)
    (start : P μ) : P ((q >>= f).ask μ).2 := by
  have kept := first μ start
  rw [ask_bind]
  generalize q.ask μ = asked at kept ⊢
  obtain ⟨fault | x, μ'⟩ := asked
  · exact kept
  · exact second x μ' kept

end Query

variable [Scalar α] {m : Model α} {s : State α}

theorem Model.groundPose_ask (m : Model α) (s : State α) (i : FrameId) (μ : Meter α) :
    (m.groundPose s i).ask μ = if s.model = m.number then (m.evaluate s i).ask μ
      else (.error (.invalidState (.otherModel s.model m.number)), μ) := by
  rw [Model.groundPose, Query.ask_bind, Model.checkState]
  by_cases own : s.model = m.number
  · rw [if_pos own, if_pos own]
    rfl
  · rw [if_neg own, if_neg own]
    rfl

-- ============================================================================
-- What a question keeps
-- ============================================================================

section

variable {P : Meter α → Prop} (own : s.model = m.number)
  (evaluated : ∀ i : FrameId, i.index < m.size → ∀ μ, P μ → P ((m.evaluate s i).ask μ).2)

include own evaluated

theorem Node.groundPose_keeps {n : Node α} (consistent : n.model.number = m.number → n.model = m)
    (μ : Meter α) (start : P μ) : P ((n.groundPose s).ask μ).2 := by
  rw [Node.groundPose, Model.groundPose_ask]
  split
  · next same =>
    -- The state is of both models, so by their numbers the two are one.
    obtain ⟨model, i, lt⟩ := n
    obtain rfl : model = m := consistent (same.symm.trans own)
    exact evaluated i lt μ start
  · exact start

theorem Node.between_keeps {f a : Node α} (hf : f.model.number = m.number → f.model = m)
    (ha : a.model.number = m.number → a.model = m) (μ : Meter α) (start : P μ) :
    P ((f.between s a).ask μ).2 := by
  rw [Node.between]
  split
  · refine Query.bind_keeps (Node.groundPose_keeps own evaluated hf) (fun x => ?_) μ start
    refine Query.bind_keeps (Node.groundPose_keeps own evaluated ha) (fun y μ kept => ?_)
    exact kept
  · exact start

/-- What the evaluations of the model's frames keep every question keeps. -/
theorem question_keeps {q : Question α β} (consistent : q.Consistent m) (μ : Meter α)
    (start : P μ) : P ((q.query s).ask μ).2 := by
  cases q with
  | ground f =>
    have hf := consistent f List.mem_cons_self
    exact Node.groundPose_keeps own evaluated hf μ start
  | between f a =>
    have hf := consistent f List.mem_cons_self
    have ha := consistent a (List.mem_cons_of_mem _ List.mem_cons_self)
    exact Node.between_keeps own evaluated hf ha μ start
  | expressVector v f a | locate v f a =>
    have hf := consistent f List.mem_cons_self
    have ha := consistent a (List.mem_cons_of_mem _ List.mem_cons_self)
    refine Query.bind_keeps (Node.between_keeps own evaluated hf ha) (fun x μ kept => ?_) μ start
    exact kept

end

-- ============================================================================
-- What a question answers
-- ============================================================================

namespace Model

variable (wf : m.WellFormed)

/-- The transform from one frame to another, from their ground poses. -/
def WellFormed.between (wf : m.WellFormed) (s : State α) (f a : FrameId) :
    Except (Fault α) (Pose α) := do
  let x ← wf.groundPose s f
  let y ← wf.groundPose s a
  .ok (y.inverse * x)

/-- The formula that a question stands for. -/
def WellFormed.answer (wf : m.WellFormed) (s : State α) :
    Question α β → Except (Fault α) β
  | .ground f => wf.groundPose s f.id
  | .between f a => wf.between s f.id a.id
  | .expressVector v f a => (wf.between s f.id a.id).map (·.actVector v)
  | .locate p f a => (wf.between s f.id a.id).map (·.actPoint p)

variable {wf} {view : Stamp → State α} (here : view s.stamp = s) (own : s.model = m.number)

include here own

theorem WellFormed.node_ask {n : Node α} (of_model : n.model = m) {μ : Meter α}
    (faithful : Faithful wf view μ.memo) :
    ((n.groundPose s).ask μ).1 = wf.groundPose s n.id ∧
      Faithful wf view ((n.groundPose s).ask μ).2.memo := by
  obtain ⟨model, i, lt⟩ := n
  obtain rfl : model = m := of_model
  rw [Node.groundPose, groundPose_ask, if_pos own]
  exact wf.evaluate_ask here lt faithful

theorem WellFormed.between_ask {f a : Node α} (hf : f.model = m) (ha : a.model = m)
    {μ : Meter α} (faithful : Faithful wf view μ.memo) :
    ((f.between s a).ask μ).1 = wf.between s f.id a.id := by
  have same : f.sameModel a = true := by rw [Node.sameModel, hf, ha, beq_self_eq_true]
  rw [Node.between, if_pos same, WellFormed.between, Query.ask_bind]
  obtain ⟨first, faithful⟩ := WellFormed.node_ask here own hf faithful
  generalize (f.groundPose s).ask μ = asked at first faithful ⊢
  obtain ⟨answer, μ'⟩ := asked
  obtain rfl : answer = wf.groundPose s f.id := first
  cases wf.groundPose s f.id with
  | error fault => rfl
  | ok x =>
    obtain ⟨second, -⟩ := WellFormed.node_ask here own ha faithful
    show ((a.groundPose s >>= fun y => pure (y.inverse * x)).ask μ').1 = _
    rw [Query.ask_bind]
    generalize (a.groundPose s).ask μ' = asked at second ⊢
    obtain ⟨answer, μ''⟩ := asked
    obtain rfl : answer = wf.groundPose s a.id := second
    cases wf.groundPose s a.id <;> rfl

/-- With a truthful memo a question about frames of the model is answered by its formula. -/
theorem WellFormed.question_ask {q : Question α β} (about : q.About m) {μ : Meter α}
    (faithful : Faithful wf view μ.memo) : ((q.query s).ask μ).1 = wf.answer s q := by
  cases q with
  | ground f =>
    have hf := about f List.mem_cons_self
    exact (WellFormed.node_ask here own hf faithful).1
  | between f a =>
    have hf := about f List.mem_cons_self
    have ha := about a (List.mem_cons_of_mem _ List.mem_cons_self)
    exact WellFormed.between_ask here own hf ha faithful
  | expressVector v f a | locate v f a =>
    have hf := about f List.mem_cons_self
    have ha := about a (List.mem_cons_of_mem _ List.mem_cons_self)
    have answer := WellFormed.between_ask here own hf ha faithful
    show ((f.between s a >>= fun x => pure _).ask μ).1 = (wf.between s f.id a.id).map _
    rw [Query.ask_bind, ← answer]
    rcases (f.between s a).ask μ with ⟨fault | x, μ'⟩ <;> rfl

end Model
end RigidFrames
