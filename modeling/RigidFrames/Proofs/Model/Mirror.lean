/-
  RigidFrames.Proofs.Model.Mirror

  Two models of which one holds the frames of the other.

  `m.MirroredIn m'` compares frames by their names: each frame of `m` has a
  mate in `m'`, of the same kind, and an attached frame has the offset of its
  mate and a parent with the name of the parent of its mate.  Numbers do not
  matter, and `m'` may hold more.

  As no two frames of a model have one name, climbing from two frames of one
  name passes frames of one name and takes the same offsets into account
  (`MirroredIn.climb`).  Depth, base and everything fixed come from there.
  The one induction over two chains at once is `MirroredIn.induction`.
-/
import RigidFrames.Proofs.Model.Ancestry
import RigidFrames.Proofs.Model.Representation

namespace RigidFrames

open Links

variable {α : Type}

namespace Model

/-- Frame `i` of `m` and frame `i'` of `m'` have one name. -/
def Namesakes (m m' : Model α) (i i' : FrameId) : Prop :=
  ∃ f f', m.frame? i = some f ∧ m'.frame? i' = some f' ∧ f.name = f'.name

/-- The frames have one name and are of one kind.  Attached ones have one offset, and their parents
    have one name. -/
inductive Mates (m m' : Model α) (i i' : FrameId) : Prop
  | ground {name : String} (found : m.frame? i = some ⟨name, .ground⟩)
      (found' : m'.frame? i' = some ⟨name, .ground⟩)
  | grounded {name : String} {body body' : BodyIndex}
      (found : m.frame? i = some ⟨name, .grounded body⟩)
      (found' : m'.frame? i' = some ⟨name, .grounded body'⟩)
  | attached {name : String} {p p' : FrameId} {offset : Pose α}
      (found : m.frame? i = some ⟨name, .attached p offset⟩)
      (found' : m'.frame? i' = some ⟨name, .attached p' offset⟩)
      (parents : Namesakes m m' p p')

/-- Every frame of `m` has its mate in `m'`. -/
def MirroredIn (m m' : Model α) : Prop :=
  ∀ i f, m.frame? i = some f → ∃ i', Mates m m' i i'

variable {m m' : Model α} {i i' j j' : FrameId}

theorem Mates.namesakes (mates : Mates m m' i i') : Namesakes m m' i i' := by
  cases mates with
  | ground found found' | grounded found found' | attached found found' =>
    exact ⟨_, _, found, found', rfl⟩

/-- Namesakes of one frame are one frame, and so the other way round. -/
theorem Namesakes.eq_iff (wf : m.WellFormed) (wf' : m'.WellFormed)
    (first : Namesakes m m' i i') (second : Namesakes m m' j j') : i = j ↔ i' = j' := by
  obtain ⟨f, f', hi, hi', same⟩ := first
  obtain ⟨g, g', hj, hj', same'⟩ := second
  refine ⟨?_, ?_⟩
  · rintro rfl
    obtain rfl : f = g := Option.some.inj (hi.symm.trans hj)
    exact wf'.eq_of_name hi' hj' (same.symm.trans same')
  · rintro rfl
    obtain rfl : f' = g' := Option.some.inj (hi'.symm.trans hj')
    exact wf.eq_of_name hi hj (same.trans same'.symm)

/-- In a model that mirrors another namesakes are mates. -/
theorem MirroredIn.mates (mirrored : m.MirroredIn m') (wf : m.WellFormed) (wf' : m'.WellFormed)
    (same : Namesakes m m' i i') : Mates m m' i i' := by
  obtain ⟨f, f', found, found', name⟩ := same
  obtain ⟨j', mates⟩ := mirrored i f found
  have one : i' = j' :=
    (Namesakes.eq_iff wf wf' ⟨f, f', found, found', name⟩ mates.namesakes).1 rfl
  exact one ▸ mates

-- ============================================================================
-- Climbing in both models
-- ============================================================================

section

variable (mirrored : m.MirroredIn m') (wf : m.WellFormed) (wf' : m'.WellFormed)

include mirrored wf wf'

/-- What holds of the roots of one name, and of a frame when it holds of its parent, holds of all
    namesakes.  The chains of the two run side by side. -/
theorem MirroredIn.induction {P : FrameId → FrameId → Prop}
    (ground : ∀ {i i' name}, m.frame? i = some ⟨name, .ground⟩ →
      m'.frame? i' = some ⟨name, .ground⟩ → P i i')
    (grounded : ∀ {i i' name body body'}, m.frame? i = some ⟨name, .grounded body⟩ →
      m'.frame? i' = some ⟨name, .grounded body'⟩ → P i i')
    (attached : ∀ {i i' p p' offset}, m.link? i = some (p, offset) →
      m'.link? i' = some (p', offset) → P p p' → P i i')
    (same : Namesakes m m' i i') : P i i' := by
  -- The induction is on the chain in `m`; each link of it has its counterpart in `m'`.
  induction wf.ends i generalizing i' with
  | @root i h =>
    cases mirrored.mates wf wf' same with
    | ground found found' => exact ground found found'
    | grounded found found' => exact grounded found found'
    | attached found =>
      rw [parent?_of_frame? found] at h
      cases h
  | @step i j h _ ih =>
    cases mirrored.mates wf wf' same with
    | ground found | grounded found =>
      rw [parent?_of_frame? found] at h
      cases h
    | @attached name p p' offset found found' parents =>
      have link : m.link? i = some (p, offset) := link?_eq_some_iff.2 ⟨name, found⟩
      have link' : m'.link? i' = some (p', offset) := link?_eq_some_iff.2 ⟨name, found'⟩
      obtain rfl : p = j := Option.some.inj ((parent?_of_link? link).symm.trans h)
      exact attached link link' (ih parents)

/-- From namesakes a climb reaches namesakes, with the same account. -/
theorem MirroredIn.climb {β : Type} (step : β → Pose α → β) (same : Namesakes m m' i i') (b : β) :
    Namesakes m m' (m.climb step m.size i b).1 (m'.climb step m'.size i' b).1 ∧
      (m.climb step m.size i b).2 = (m'.climb step m'.size i' b).2 := by
  have stays {i i' : FrameId} {f f' : Frame FrameId α} (found : m.frame? i = some f)
      (found' : m'.frame? i' = some f') (name : f.name = f'.name) (root : f.mount.parent? = none)
      (root' : f'.mount.parent? = none) (b : β) :
      Namesakes m m' (m.climb step m.size i b).1 (m'.climb step m'.size i' b).1 ∧
        (m.climb step m.size i b).2 = (m'.climb step m'.size i' b).2 := by
    rw [climb_of_root step ((parent?_of_frame? found).trans root),
      climb_of_root step ((parent?_of_frame? found').trans root')]
    exact ⟨⟨f, f', found, found', name⟩, rfl⟩
  refine mirrored.induction wf wf' (P := fun i i' => ∀ b,
    Namesakes m m' (m.climb step m.size i b).1 (m'.climb step m'.size i' b).1 ∧
      (m.climb step m.size i b).2 = (m'.climb step m'.size i' b).2) ?_ ?_ ?_ same b
  · exact fun found found' => stays found found' rfl rfl rfl
  · exact fun found found' => stays found found' rfl rfl rfl
  · intro i i' p p' offset link link' above b
    rw [wf.climb_link step link, wf'.climb_link step link']
    exact above (step b offset)

theorem MirroredIn.depth_eq (same : Namesakes m m' i i') : m.depth i = m'.depth i' :=
  (mirrored.climb wf wf' _ same 0).2

theorem MirroredIn.base_namesakes (same : Namesakes m m' i i') :
    Namesakes m m' (m.base i) (m'.base i') :=
  (mirrored.climb wf wf' _ same ()).1

theorem MirroredIn.inBase_eq [Scalar α] (same : Namesakes m m' i i') : m.inBase i = m'.inBase i' :=
  (mirrored.climb wf wf' _ same 1).2

theorem MirroredIn.base_eq_iff (first : Namesakes m m' i i') (second : Namesakes m m' j j') :
    m.base i = m.base j ↔ m'.base i' = m'.base j' :=
  Namesakes.eq_iff wf wf' (mirrored.base_namesakes wf wf' first)
    (mirrored.base_namesakes wf wf' second)

end

end Model

-- ============================================================================
-- Nodes of both models
-- ============================================================================

namespace Node

open Model

/-- `n` is a node of `m`, and `n'` is the one of `m'` with its name. -/
structure Twins (m m' : Model α) (n n' : Node α) : Prop where
  model : n.model = m
  model' : n'.model = m'
  name : n.name = n'.name

variable {m m' : Model α} {f f' a a' : Node α}

theorem Twins.namesakes (twins : Twins m m' f f') : Namesakes m m' f.id f'.id := by
  obtain ⟨rfl, rfl, name⟩ := twins
  exact ⟨f.frame, f'.frame, frame?_node f, frame?_node f', name⟩

section

variable (mirrored : m.MirroredIn m') (wf : m.WellFormed) (wf' : m'.WellFormed)

include mirrored wf wf'

theorem Twins.base? (twins : Twins m m' f f') :
    ∃ b b', f.base? = some b ∧ f'.base? = some b' ∧ Twins m m' b b' := by
  obtain ⟨b, base, model, id⟩ := wf.exists_base? twins.model
  obtain ⟨b', base', model', id'⟩ := wf'.exists_base? twins.model'
  refine ⟨b, b', base, base', model, model', ?_⟩
  obtain ⟨g, g', found, found', name⟩ := mirrored.base_namesakes wf wf' twins.namesakes
  subst model model'
  rw [← id, frame?_node b, Option.some.injEq] at found
  rw [← id', frame?_node b', Option.some.injEq] at found'
  subst found found'
  exact name

theorem Twins.fixedBetween_eq [Scalar α] (first : Twins m m' f f') (second : Twins m m' a a') :
    f.fixedBetween a = f'.fixedBetween a' := by
  have bases : m.base f.id = m.base a.id ↔ m'.base f'.id = m'.base a'.id :=
    mirrored.base_eq_iff wf wf' first.namesakes second.namesakes
  have pose : m.inBase f.id = m'.inBase f'.id := mirrored.inBase_eq wf wf' first.namesakes
  have pose' : m.inBase a.id = m'.inBase a'.id := mirrored.inBase_eq wf wf' second.namesakes
  rw [fixedBetween, fixedBetween, sameModel, sameModel, inBase, inBase, inBase, inBase,
    first.model, first.model', second.model, second.model', pose, pose']
  simp only [beq_self_eq_true, Bool.true_and, beq_iff_eq, bases]

end

end Node
end RigidFrames
