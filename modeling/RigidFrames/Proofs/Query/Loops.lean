/-
  RigidFrames.Proofs.Query.Loops

  The loops that follow links, without a bound on their turns.

  A climb and an evaluation both carry a bound.  Here they are once more
  without one, turn by turn: `Model.Climbs` for the loop behind depth, base and
  the transform in the base, `Walk.Finishes` for the two loops of an
  evaluation, the way up with its looks and the way down with its stores.

  In a well-formed model the loop of a climb makes just as many turns as the
  frame is deep (`WellFormed.climbs_iff`), and each loop of an evaluation at
  most one more, whatever the memo holds (`Finishes.looks_le`,
  `Finishes.stores_le`).  So none of them makes more turns than there are
  frames, and the bounds are never felt.
-/
import RigidFrames.Proofs.Model.Rooted

namespace RigidFrames

open Links Model

variable {α : Type} {m : Model α}

-- ============================================================================
-- Climbs
-- ============================================================================

namespace Model

variable {β : Type} {step : β → Pose α → β}

/-- The loop that follows links from a frame with an account stops after so many turns, at the
    frame and with the account of the last argument. -/
inductive Climbs (m : Model α) (step : β → Pose α → β) : FrameId → β → Nat → FrameId × β → Prop
  | stop {i : FrameId} {b : β} (root : m.link? i = none) : Climbs m step i b 0 (i, b)
  | up {i p : FrameId} {offset : Pose α} {b : β} {turns : Nat} {r : FrameId × β}
      (link : m.link? i = some (p, offset)) (rest : Climbs m step p (step b offset) turns r) :
      Climbs m step i b (turns + 1) r

theorem Climbs.unique {i : FrameId} {b : β} {turns turns' : Nat} {r r' : FrameId × β}
    (climbs : Climbs m step i b turns r) (climbs' : Climbs m step i b turns' r') :
    turns = turns' ∧ r = r' := by
  induction climbs generalizing turns' r' with
  | stop root =>
    cases climbs' with
    | stop => exact ⟨rfl, rfl⟩
    | up link => rw [root] at link; cases link
  | up link _ ih =>
    cases climbs' with
    | stop root => rw [link] at root; cases root
    | up link' rest =>
      rw [link, Option.some.injEq, Prod.mk.injEq] at link'
      obtain ⟨rfl, rfl⟩ := link'
      obtain ⟨rfl, rfl⟩ := ih rest
      exact ⟨rfl, rfl⟩

theorem WellFormed.climbs (wf : m.WellFormed) (step : β → Pose α → β) (i : FrameId) (b : β) :
    Climbs m step i b (m.depth i) (m.climb step m.size i b) := by
  induction wf.ends i generalizing b with
  | root h =>
    rw [depth, climb_of_root _ h, climb_of_root _ h]
    exact .stop (parent?_eq_none_iff.1 h)
  | @step i j h _ ih =>
    obtain ⟨offset, link⟩ := exists_link?_of_parent? h
    rw [wf.depth_link h, wf.climb_link step link]
    exact .up link (ih (step b offset))

/-- A climb is the loop without its bound, and the depth is the number of its turns. -/
theorem WellFormed.climbs_iff (wf : m.WellFormed) {i : FrameId} {b : β} {turns : Nat}
    {r : FrameId × β} :
    Climbs m step i b turns r ↔ turns = m.depth i ∧ r = m.climb step m.size i b := by
  refine ⟨fun climbs => climbs.unique (wf.climbs step i b), ?_⟩
  rintro ⟨rfl, rfl⟩
  exact wf.climbs step i b

theorem climb_fst (m : Model α) (step : β → Pose α → β) (fuel : Nat) (i : FrameId) (b : β) :
    (m.climb step fuel i b).1 = (m.climb (fun u _ => u) fuel i ()).1 := by
  induction fuel generalizing i b with
  | zero => rfl
  | succ fuel ih =>
    rw [climb, climb]
    cases m.link? i with
    | none => rfl
    | some e => exact ih e.1 (step b e.2)

end Model

-- ============================================================================
-- Evaluations
-- ============================================================================

namespace Walk

/-- How many frames are left for the way up. -/
def ahead (m : Model α) : Walk α → Nat
  | look i _ => m.depth i + 1
  | _ => 0

variable [Scalar α] {s : State α}

/-- Left to itself the evaluation makes so many looks on the way up and so many stores on the way
    down, and then has the answer and the meter of the last argument. -/
inductive Finishes (m : Model α) (s : State α) :
    Walk α → Meter α → Nat → Nat → Except (Fault α) (Pose α) × Meter α → Prop
  | done {answer : Except (Fault α) (Pose α)} {μ : Meter α} :
      Finishes m s (.done answer) μ 0 0 (answer, μ)
  | look {i : FrameId} {pending : List (FrameId × Pose α)} {μ : Meter α} {looks stores : Nat}
      {r : Except (Fault α) (Pose α) × Meter α}
      (rest : Finishes m s (step m s (.look i pending) μ).1 (step m s (.look i pending) μ).2
        looks stores r) :
      Finishes m s (.look i pending) μ (looks + 1) stores r
  | read {i : FrameId} {name : String} {body : BodyIndex} {pending : List (FrameId × Pose α)}
      {μ : Meter α} {looks stores : Nat} {r : Except (Fault α) (Pose α) × Meter α}
      (rest : Finishes m s (step m s (.read i name body pending) μ).1
        (step m s (.read i name body pending) μ).2 looks stores r) :
      Finishes m s (.read i name body pending) μ looks stores r
  | store {i : FrameId} {x : Pose α} {pending : List (FrameId × Pose α)} {μ : Meter α}
      {looks stores : Nat} {r : Except (Fault α) (Pose α) × Meter α}
      (rest : Finishes m s (step m s (.store i x pending) μ).1
        (step m s (.store i x pending) μ).2 looks stores r) :
      Finishes m s (.store i x pending) μ looks (stores + 1) r

variable {w : Walk α} {μ : Meter α} {looks stores : Nat}
  {r : Except (Fault α) (Pose α) × Meter α}

theorem Finishes.unique {looks' stores' : Nat} {r' : Except (Fault α) (Pose α) × Meter α}
    (finishes : Finishes m s w μ looks stores r)
    (finishes' : Finishes m s w μ looks' stores' r') :
    looks = looks' ∧ stores = stores' ∧ r = r' := by
  induction finishes generalizing looks' stores' r' with
  | done =>
    cases finishes' with
    | done => exact ⟨rfl, rfl, rfl⟩
  | look _ ih =>
    cases finishes' with
    | look rest =>
      obtain ⟨rfl, rfl, rfl⟩ := ih rest
      exact ⟨rfl, rfl, rfl⟩
  | read _ ih =>
    cases finishes' with
    | read rest => exact ih rest
  | store _ ih =>
    cases finishes' with
    | store rest =>
      obtain ⟨rfl, rfl, rfl⟩ := ih rest
      exact ⟨rfl, rfl, rfl⟩

/-- A bounded run that comes to an answer is the whole evaluation. -/
theorem finishes_of_run {fuel : Nat} {answer : Except (Fault α) (Pose α)} {μ' : Meter α}
    (ran : run m s fuel w μ = (.done answer, μ')) :
    ∃ looks stores, Finishes m s w μ looks stores (answer, μ') := by
  induction fuel generalizing w μ with
  | zero =>
    cases ran
    exact ⟨0, 0, .done⟩
  | succ fuel ih =>
    cases w with
    | done =>
      cases ran
      exact ⟨0, 0, .done⟩
    | look =>
      obtain ⟨looks, stores, rest⟩ := ih ran
      exact ⟨looks + 1, stores, .look rest⟩
    | read =>
      obtain ⟨looks, stores, rest⟩ := ih ran
      exact ⟨looks, stores, .read rest⟩
    | store =>
      obtain ⟨looks, stores, rest⟩ := ih ran
      exact ⟨looks, stores + 1, .store rest⟩

theorem ahead_descend (m : Model α) (x : Pose α) (pending : List (FrameId × Pose α)) :
    ahead m (descend x pending) = 0 := by
  cases pending <;> rfl

theorem ahead_climb (wf : m.WellFormed) (i : FrameId) (pending : List (FrameId × Pose α)) :
    ahead m (climb m i pending) ≤ m.depth i := by
  rw [climb]
  split
  · exact Nat.zero_le _
  · next parent offset found => exact (wf.depth_link (parent?_of_attached found)).ge
  · exact Nat.zero_le _
  · exact Nat.zero_le _

theorem ahead_receive (m : Model α) (i : FrameId) (name : String) (body : BodyIndex)
    (pending : List (FrameId × Pose α)) (read : Except (Fault α) (Pose α)) :
    ahead m (receive i name body pending read) = 0 := by
  cases read with
  | error => rfl
  | ok x =>
    rw [receive]
    split <;> rfl

/-- With every look the way up gets shorter, and there is only one way up. -/
theorem Finishes.looks_le (wf : m.WellFormed) (finishes : Finishes m s w μ looks stores r) :
    looks ≤ ahead m w := by
  induction finishes with
  | done => exact Nat.le_refl 0
  | @look i pending μ looks stores r _ ih =>
    apply Nat.succ_le_succ
    rcases step_look m s i pending μ with ⟨x, -, down⟩ | up
    · rw [down, ahead_descend] at ih
      exact ih.trans (Nat.zero_le _)
    · rw [up] at ih
      exact ih.trans (ahead_climb wf i pending)
  | @read i name body pending μ looks stores r _ ih =>
    have none : ahead m (step m s (.read i name body pending) μ).1 = 0 := ahead_receive ..
    rwa [none] at ih
  | @store i x pending μ looks stores r _ ih =>
    have none : ahead m (step m s (.store i x pending) μ).1 = 0 := ahead_descend m x pending
    rwa [none] at ih

theorem Finishes.stores_le (wf : m.WellFormed) (finishes : Finishes m s w μ looks stores r) :
    stores ≤ left 0 0 m w := by
  induction finishes with
  | done => exact Nat.le_refl 0
  | look _ ih | read _ ih => exact ih.trans (Nat.le_of_add_right_le (left_step 0 0 wf s _ _))
  | store _ ih => exact (Nat.add_le_add_right ih 1).trans (left_step 0 0 wf s _ _)

end Walk

open Walk

variable [Scalar α]

/-- An evaluation is the two loops without their bound, and neither loop makes more turns than one
    for each frame of the chain. -/
theorem Model.WellFormed.finishes (wf : m.WellFormed) (s : State α) {i : FrameId}
    (lt : i.index < m.size) (μ : Meter α) :
    ∃ looks stores, looks ≤ m.depth i + 1 ∧ stores ≤ m.depth i + 1 ∧
      Finishes m s (.look i []) μ looks stores ((m.evaluate s i).ask μ) := by
  obtain ⟨looks, stores, finishes⟩ := finishes_of_run (wf.evaluate_run s lt μ)
  refine ⟨looks, stores, finishes.looks_le wf, ?_, finishes⟩
  have most := finishes.stores_le wf
  simp only [left, List.length_nil] at most
  omega

/-- In a frozen model every walk towards the root comes to its end, and all of them to one frame.
    The loops behind the depth of a node, its base and the transform between the two stop after as
    many turns as the node is deep, which is less than the number of frames, and stop at the base.
    The loops of an evaluation stop after at most as many turns as there are frames, whatever the
    memo holds and whatever the state answers. -/
theorem walks_end (frozen : m.Frozen) {f : Node α} (hf : f.model = m) :
    ∃ b : Node α, f.Rooted b ∧ f.depth < m.size ∧ f.depth ≤ m.attached ∧
      (f.depth = 0 ↔ f.parent? = none) ∧ (f.parent? = none ↔ f.mount.isBase = true) ∧
      (∀ turns r, Climbs m (fun n _ => n + 1) f.id 0 turns r ↔
        turns = f.depth ∧ r = (b.id, f.depth)) ∧
      (∀ turns r, Climbs m (fun u _ => u) f.id () turns r ↔
        turns = f.depth ∧ r = (b.id, ())) ∧
      (∀ turns r, Climbs m (fun x offset => offset * x) f.id 1 turns r ↔
        turns = f.depth ∧ r = (b.id, f.inBase)) ∧
      ∀ (s : State α) (μ : Meter α), ∃ looks stores, looks ≤ m.size ∧ stores ≤ m.size ∧
        ∀ l d r, Finishes m s (.look f.id []) μ l d r ↔
          l = looks ∧ d = stores ∧ r = (m.evaluate s f.id).ask μ := by
  have wf := frozen.wellFormed
  obtain ⟨b, rooted⟩ := Node.exists_rooted wf hf
  subst hf
  have base : f.model.base f.id = b.id := by
    obtain ⟨b', found, -, id⟩ := wf.exists_base? (rfl : f.model = f.model)
    rw [← id, Option.some.inj (rooted.base.symm.trans found)]
  have ended {β : Type} (step : β → Pose α → β) (c : β) :
      f.model.climb step f.model.size f.id c =
        (b.id, (f.model.climb step f.model.size f.id c).2) := by
    rw [← base, Model.base, ← climb_fst f.model step]
  have shallow : f.depth < f.model.size := wf.depth_lt f.id_lt
  refine ⟨b, rooted, shallow, Node.depth_le_attached wf rfl, Node.depth_eq_zero_iff wf,
    Node.parent?_eq_none_iff_isBase wf, fun turns r => ?_, fun turns r => ?_, fun turns r => ?_,
    fun s μ => ?_⟩
  · rw [wf.climbs_iff, ended]
    rfl
  · rw [wf.climbs_iff, ended]
    rfl
  · rw [wf.climbs_iff, ended]
    rfl
  · obtain ⟨looks, stores, few, few', finishes⟩ := wf.finishes s f.id_lt μ
    have most : f.model.depth f.id + 1 ≤ f.model.size := shallow
    refine ⟨looks, stores, few.trans most, few'.trans most, fun l d r => ⟨?_, ?_⟩⟩
    · exact fun finishes' => finishes'.unique finishes
    · rintro ⟨rfl, rfl, rfl⟩
      exact finishes

/-- The marker hangs on the thigh.  An evaluation of it ends also with a memo that holds an entry
    which nothing in the state bears out. -/
theorem walks_end_marker :
    let μ : Meter Float := ⟨PoseMemo.empty.store ⟨1⟩ ⟨0⟩ (.ofTranslation ⟨7, 7, 7⟩), 0⟩
    ∃ b, markerNode.Rooted b ∧ b.name = "thigh" ∧ markerNode.depth ≤ markerModel.attached ∧
      ∀ s, ∃ looks stores, looks ≤ 3 ∧ stores ≤ 3 ∧
        Finishes markerModel s (.look ⟨2⟩ []) μ looks stores
          ((markerModel.evaluate s ⟨2⟩).ask μ) := by
  intro μ
  obtain ⟨b, rooted, -, few, -, -, -, -, -, ended⟩ :=
    walks_end markerModel_frozen (rfl : markerNode.model = _)
  have thigh : markerNode.base? = some ⟨markerModel, ⟨1⟩, by decide⟩ := rfl
  have same := rooted.base.symm.trans thigh
  rw [Option.some.injEq] at same
  refine ⟨b, rooted, by rw [same]; rfl, few, fun s => ?_⟩
  obtain ⟨looks, stores, most, most', finishes⟩ := ended s μ
  exact ⟨looks, stores, most, most', (finishes _ _ _).2 ⟨rfl, rfl, rfl⟩⟩

end RigidFrames
