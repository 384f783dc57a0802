/-
  RigidFrames.Proofs.Model.Rooted

  The chain that a node hangs on.

  `Node.Rooted f b` says in what way `b` is the base of `f`: the chain of
  parents comes to it after as many links as `f` is deep, it hangs on nothing,
  and nothing else on the chain is like that.  A root is its own base, and a
  node has the base of its parent (`Rooted.of_root`, `Rooted.of_parent`); as
  the chains of a well-formed model end, every node has one (`exists_rooted`).

  All nodes of a chain but the last are attached, and none is met twice, so a
  node is no deeper than there are attached frames (`depth_le_attached`).
-/
import RigidFrames.Proofs.Model.Ancestry
import RigidFrames.Proofs.Model.Representation

namespace RigidFrames

open Links

variable {α : Type}

namespace Model

theorem mem_nodes_iff {m : Model α} {n : Node α} : n ∈ m.nodes ↔ n.model = m := by
  rw [nodes, List.mem_filterMap]
  refine ⟨?_, ?_⟩
  · rintro ⟨k, mem, found⟩
    rw [node?_of_lt m (i := ⟨k⟩) (List.mem_range.1 mem), Option.some.injEq] at found
    rw [← found]
  · rintro rfl
    exact ⟨n.id.index, List.mem_range.2 n.id_lt, node?_of_lt n.model n.id_lt⟩

/-- How many frames of the model are attached to another. -/
def attached (m : Model α) : Nat :=
  m.nodes.countP fun n => !n.mount.isBase

end Model

namespace Node

open Model

variable {f p b : Node α}

-- ============================================================================
-- One link
-- ============================================================================

theorem model_parent? (f : Node α) : f.model.parent? f.id = f.mount.parent? :=
  parent?_of_frame? (frame?_node f)

theorem isBase_iff (f : Node α) : f.mount.isBase = true ↔ f.model.parent? f.id = none := by
  rw [model_parent?]
  cases f.mount <;> simp [Mount.isBase, Mount.parent?]

section

variable (wf : f.model.WellFormed)

include wf

/-- The parent of a node is the node of the same model with the number that the link gives. -/
theorem parent?_eq_some_iff :
    f.parent? = some p ↔ p.model = f.model ∧ f.model.parent? f.id = some p.id := by
  rw [Node.parent?, ← model_parent?]
  cases link : f.model.parent? f.id with
  | none => simp
  | some i =>
    have lt := wf.parent_lt f.id i link
    rw [Option.bind_some, node?_of_lt f.model lt, Option.some.injEq, Option.some.injEq]
    refine ⟨?_, ?_⟩
    · rintro rfl
      exact ⟨rfl, rfl⟩
    · obtain ⟨model, id, id_lt⟩ := p
      rintro ⟨rfl, rfl⟩
      rfl

theorem parent?_eq_none_iff : f.parent? = none ↔ f.model.parent? f.id = none := by
  rw [Node.parent?, ← model_parent?]
  cases link : f.model.parent? f.id with
  | none => simp
  | some i => simp [node?_of_lt f.model (wf.parent_lt f.id i link)]

theorem parent?_eq_none_iff_isBase : f.parent? = none ↔ f.mount.isBase = true := by
  rw [parent?_eq_none_iff wf, isBase_iff]

theorem depth_of_root (root : f.parent? = none) : f.depth = 0 := by
  rw [Node.depth, Model.depth, climb_of_root _ ((parent?_eq_none_iff wf).1 root)]

theorem base?_of_root (root : f.parent? = none) : f.base? = some f := by
  rw [Node.base?, base_of_root ((parent?_eq_none_iff wf).1 root), node?_of_lt f.model f.id_lt]

theorem depth_of_parent (parent : f.parent? = some p) : f.depth = p.depth + 1 := by
  obtain ⟨model, link⟩ := (parent?_eq_some_iff wf).1 parent
  rw [Node.depth, Node.depth, model, wf.depth_link link]

theorem base?_of_parent (parent : f.parent? = some p) : f.base? = p.base? := by
  obtain ⟨model, link⟩ := (parent?_eq_some_iff wf).1 parent
  rw [Node.base?, Node.base?, model, wf.base_link link]

theorem depth_eq_zero_iff : f.depth = 0 ↔ f.parent? = none := by
  refine ⟨fun none => ?_, depth_of_root wf⟩
  cases parent : f.parent? with
  | none => rfl
  | some p =>
    rw [depth_of_parent wf parent] at none
    cases none

end

-- ============================================================================
-- Bases
-- ============================================================================

/-- `b` is the base of `f`, where the chain from `f` ends. -/
structure Rooted (f b : Node α) : Prop where
  base : f.base? = some b
  /-- The depth of `f` is the number of links to `b`. -/
  reached : ancestor? Node.parent? f.depth f = some b
  /-- `b` hangs on nothing, or follows a body. -/
  kind : b.mount = .ground ∨ ∃ body, b.mount = .grounded body
  /-- Nothing else on the chain does. -/
  only : ∀ a, Above Node.parent? f a → a.mount.isBase = true → a = b
  idempotent : b.base? = some b
  /-- A node shares its base with its parent. -/
  child : ∀ p, f.parent? = some p → f.depth = p.depth + 1 ∧ p.base? = some b

theorem Rooted.of_root (wf : f.model.WellFormed) (root : f.parent? = none) : Rooted f f where
  base := base?_of_root wf root
  reached := by rw [depth_of_root wf root, ancestor?_zero]
  kind := by
    have isBase := (parent?_eq_none_iff_isBase wf).1 root
    cases mount : f.mount with
    | ground => exact .inl rfl
    | grounded body => exact .inr ⟨body, rfl⟩
    | attached parent offset =>
      rw [mount] at isBase
      cases isBase
  only a above _ := by
    rcases above_iff.1 above with rfl | ⟨p, parent, -⟩
    · rfl
    · rw [root] at parent
      cases parent
  idempotent := base?_of_root wf root
  child p parent := by
    rw [root] at parent
    cases parent

theorem Rooted.of_parent (wf : f.model.WellFormed) (parent : f.parent? = some p)
    (rooted : Rooted p b) : Rooted f b where
  base := (base?_of_parent wf parent).trans rooted.base
  reached := by rw [depth_of_parent wf parent, ancestor?_succ_of_some parent, rooted.reached]
  kind := rooted.kind
  only a above isBase := by
    rcases above_iff.1 above with rfl | ⟨q, parent', above⟩
    · rw [(parent?_eq_none_iff_isBase wf).2 isBase] at parent
      cases parent
    · rw [parent, Option.some.injEq] at parent'
      exact rooted.only a (parent' ▸ above) isBase
  idempotent := rooted.idempotent
  child q parent' := by
    obtain rfl : p = q := Option.some.inj (parent.symm.trans parent')
    exact ⟨depth_of_parent wf parent, rooted.base⟩

/-- Parents of nodes come to an end as the links of the model do. -/
theorem ends_parent? {m : Model α} (wf : m.WellFormed) (hf : f.model = m) :
    Ends Node.parent? f := by
  suffices along : ∀ i, Ends m.parent? i → ∀ f : Node α, f.model = m → f.id = i →
      Ends Node.parent? f from along f.id (wf.ends f.id) f hf rfl
  intro i ends
  induction ends with
  | root h =>
    rintro f rfl rfl
    exact .root ((parent?_eq_none_iff wf).2 h)
  | @step i j h _ ih =>
    rintro f rfl rfl
    have inside := wf.parent_lt f.id j h
    have parent : f.parent? = some ⟨f.model, j, inside⟩ := (parent?_eq_some_iff wf).2 ⟨rfl, h⟩
    exact .step parent (ih _ rfl rfl)

theorem exists_rooted {m : Model α} (wf : m.WellFormed) (hf : f.model = m) :
    ∃ b, Rooted f b := by
  induction ends_parent? wf hf with
  | root h =>
    subst hf
    exact ⟨_, .of_root wf h⟩
  | step h _ ih =>
    subst hf
    obtain ⟨b, rooted⟩ := ih ((parent?_eq_some_iff wf).1 h).1
    exact ⟨b, .of_parent wf h rooted⟩

-- ============================================================================
-- How deep a chain can be
-- ============================================================================

theorem length_of_route {m : Model α} (wf : m.WellFormed) (hf : f.model = m) {l : List (Node α)}
    (route : Route Node.parent? f l) : l.length = f.depth + 1 := by
  induction route with
  | root h =>
    subst hf
    rw [depth_of_root wf h]
    rfl
  | step h _ ih =>
    subst hf
    rw [List.length_cons, ih ((parent?_eq_some_iff wf).1 h).1, depth_of_parent wf h]

theorem model_of_above {m : Model α} (wf : m.WellFormed) (hf : f.model = m) {a : Node α}
    (above : Above Node.parent? f a) : a.model = m := by
  obtain ⟨k, hk⟩ := above
  induction k generalizing f with
  | zero =>
    cases hk
    exact hf
  | succ k ih =>
    subst hf
    cases parent : f.parent? with
    | none =>
      rw [ancestor?_succ_of_none parent] at hk
      cases hk
    | some p =>
      rw [ancestor?_succ_of_some parent] at hk
      exact ih ((parent?_eq_some_iff wf).1 parent).1 hk

/-- The nodes passed on the way to the base are different attached frames of the model. -/
theorem depth_le_attached {m : Model α} (wf : m.WellFormed) (hf : f.model = m) :
    f.depth ≤ m.attached := by
  obtain ⟨l, route⟩ := (ends_parent? wf hf).exists_route
  have passed : l.dropLast.length = f.depth := by
    rw [List.length_dropLast, length_of_route wf hf route, Nat.add_sub_cancel]
  have distinct : l.dropLast.Nodup := route.nodup.sublist (List.dropLast_sublist l)
  have attached : l.dropLast ⊆ m.nodes.filter fun n => !n.mount.isBase := by
    intro n mem
    have model := model_of_above wf hf (route.mem_iff.1 (List.dropLast_subset l mem))
    obtain ⟨p, parent⟩ := route.exists_up mem
    have notBase : n.mount.isBase ≠ true := by
      subst model
      rw [ne_eq, ← parent?_eq_none_iff_isBase wf, parent]
      exact Option.some_ne_none p
    rw [List.mem_filter, mem_nodes_iff, Bool.not_eq_true']
    exact ⟨model, Bool.eq_false_iff.2 notBase⟩
  have most := (List.subperm_of_subset distinct attached).length_le
  rwa [passed, ← List.countP_eq_length_filter] at most

end Node
end RigidFrames
