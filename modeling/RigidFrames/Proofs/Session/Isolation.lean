/-
  RigidFrames.Proofs.Session.Isolation

  Models do not get in each other's way.

  However many assemblies, models and snapshots a program works on, and in
  whatever order, the models have the numbers 1, 2, 3, ...; a snapshot takes
  questions about the model it was made of and about no other; and what it
  holds comes from the actions on it that are about its model
  (`session_isolated`).  Since only numbers of models are compared, this is a
  fact about whole runs: it rests on freezing never giving a number twice.
-/
import RigidFrames.Proofs.Query.Rigid
import RigidFrames.Proofs.Session.Run

namespace RigidFrames

namespace Session

variable {α : Type} [Scalar α] {ds : List (Deed α)} {w w' : Session α} {d : Deed α}

/-- How the models and snapshots of a session keep apart, whatever has been done. -/
structure Isolated (ds : List (Deed α)) (w : Session α) : Prop where
  /-- The models have the numbers 1, 2, ..., in the order in which they were frozen. -/
  numbers : w.models.map (·.number) = (List.range w.models.length).map fun t => ⟨t + 1⟩
  /-- The next successful freeze gives the next number, and a failing one takes none. -/
  freeze : ∀ a : Assembly α,
    (∀ m, (a.freeze w.registry).answer = .ok m → m.number = ⟨w.models.length + 1⟩ ∧
      (a.freeze w.registry).registry = ⟨w.models.length + 1⟩) ∧
    ∀ fault, (a.freeze w.registry).answer = .error fault →
      (a.freeze w.registry).registry = w.registry
  distinct : ∀ (t t' : Nat) (m m' : Model α), w.models[t]? = some m → w.models[t']? = some m' →
    m.number = m'.number → t = t'
  /-- A snapshot passes the check of the model it was made of. -/
  checked : ∀ (j t : Nat) (m : Model α) (s : Snapshot α), w.snapshots[j]? = some s →
    w.models[t]? = some m → (m.checkState s.state = .ok () ↔ (homes ds)[j]? = some t)
  /-- Every question about another model is refused by it, and leaves it as it was. -/
  refused : ∀ (j t : Nat) (m : Model α) (s : Snapshot α), w.snapshots[j]? = some s →
    w.models[t]? = some m → (homes ds)[j]? ≠ some t →
    ∀ {β : Type} (q : Question α β), q.About m →
      s.ask q.query = (.error (.invalidState (.otherModel s.model m.number)), s)
  /-- No deed changes a snapshot but an action on it that is about its model. -/
  untouched : ∀ d w', Step w d w' → ∀ (j : Nat) (s : Snapshot α), w.snapshots[j]? = some s →
    (∀ a, d = .act j a → a.own s.model = false) → w'.snapshots[j]? = some s
  /-- A snapshot is what those actions made of a new one.  What its memo holds they computed: each
      entry is for a frame of its model, and one of the questions among them entered it. -/
  origin : ∀ (j : Nat) (s : Snapshot α), w.snapshots[j]? = some s →
    ∃ (t : Nat) (m : Model α) (wf : m.WellFormed),
      (homes ds)[j]? = some t ∧ w.models[t]? = some m ∧
      s = (Snapshot.ofModel m).run (ownActions m.number j ds) ∧
      ∀ (i : FrameId) (stamp : Stamp) (x : Pose α), s.memo.entries[i]? = some (stamp, x) →
        i.index < m.size ∧
        ∃ (before after : List (Action α)) (β : Type) (q : Question α β),
          ownActions m.number j ds = before ++ .ask q :: after ∧
          Snapshot.Origin wf before q i stamp x

theorem Step.untouched (step : Step w d w') {j : Nat} {s : Snapshot α}
    (found : w.snapshots[j]? = some s) (other : ∀ a, d = .act j a → a.own s.model = false) :
    w'.snapshots[j]? = some s := by
  cases step with
  | assemble | call | frozen | refused => exact found
  | observe => exact getElem?_append_of_some found _
  | @act k s' a here =>
    by_cases same : k = j
    · subst same
      obtain rfl : s' = s := Option.some.inj (here.symm.trans found)
      have lt : k < w.snapshots.length := (List.getElem?_eq_some_iff.1 here).1
      rw [List.getElem?_set_self lt, Snapshot.act_stranger (other a rfl)]
    · rw [List.getElem?_set_ne same]
      exact found

namespace Sound

theorem numbers (sound : Sound ds w) :
    w.models.map (·.number) = (List.range w.models.length).map fun t => ⟨t + 1⟩ := by
  apply List.ext_getElem
  · rw [List.length_map, List.length_map, List.length_range]
  · intro t lt _
    rw [List.length_map] at lt
    have number := sound.numbered t w.models[t] (List.getElem?_eq_getElem lt)
    rw [List.getElem_map, List.getElem_map, List.getElem_range, number]

theorem freeze (sound : Sound ds w) {a : Assembly α} {m : Model α}
    (answer : (a.freeze w.registry).answer = .ok m) : m.number = ⟨w.models.length + 1⟩ ∧
      (a.freeze w.registry).registry = ⟨w.models.length + 1⟩ := by
  obtain ⟨number, issued⟩ := Assembly.number_of_freeze answer
  rw [number, Registry.next, ← sound.issued, ← issued]
  exact ⟨rfl, rfl⟩

/-- The number in a snapshot says which model it was made of. -/
theorem model_iff (sound : Sound ds w) {j t : Nat} {m : Model α} {s : Snapshot α}
    (found : w.snapshots[j]? = some s) (here : w.models[t]? = some m) :
    s.model = m.number ↔ (Session.homes ds)[j]? = some t := by
  obtain ⟨t₀, m₀, life⟩ := sound.lives j s found
  have frozen : m₀.Frozen := sound.frozen m₀ (List.mem_of_getElem? life.model)
  have model : s.model = m₀.number := (life.coherent frozen.wellFormed).model
  rw [model, life.home, Option.some.injEq]
  refine ⟨sound.distinct life.model here, ?_⟩
  rintro rfl
  rw [Option.some.inj (life.model.symm.trans here)]

end Sound

/-- Whatever a program does, its models and snapshots keep apart. -/
theorem session_isolated (reached : Reached ds w) : Isolated ds w := by
  have sound : Sound ds w := reached.sound
  refine ⟨sound.numbers,
    fun a => ⟨fun m => sound.freeze, fun fault => Assembly.registry_of_refused⟩,
    fun t t' m m' here here' => sound.distinct here here', fun j t m s found here => ?_,
    fun j t m s found here away β q about => ?_,
    fun d w' step j s found other => step.untouched found other,
    fun j s found => ?_⟩
  · rw [← sound.model_iff found here, Model.checkState]
    show (if s.model = m.number then _ else _) = _ ↔ _
    by_cases own : s.model = m.number
    · rw [if_pos own]
      exact iff_of_true rfl own
    · rw [if_neg own]
      simp [own]
  · have other : s.model ≠ m.number := fun own => away ((sound.model_iff found here).1 own)
    obtain ⟨source, target⟩ := q.forall_nodes_iff.1 about
    have refused := Question.ask_other (s := s.state) (q := q) (by rw [source, target])
      (by rw [source]; exact other) s.meter
    rw [Snapshot.ask, refused, source]
    rfl
  · obtain ⟨t, m, life⟩ := sound.lives j s found
    have wf : m.WellFormed := (sound.frozen m (List.mem_of_getElem? life.model)).wellFormed
    refine ⟨t, m, wf, life.home, life.model, life.run, fun i stamp x entry => ?_⟩
    rw [← PoseMemo.lookup?_eq_some_iff, life.run] at entry
    obtain ⟨before, after, β, q, split, origin⟩ :=
      Snapshot.run_entry wf (fun a mem => (life.about a mem).consistent) entry
    exact ⟨origin.frame, before, after, β, q, split, origin⟩

-- ============================================================================
-- Two models of one kind
-- ============================================================================

/-- A program that makes two models in the same way, and a snapshot of the first. -/
noncomputable def kneesDeeds : List (Deed ℝ) :=
  [] ++ .assemble :: Model.kneeCalls.map (.call 0) ++ [.freeze 0] ++
    .assemble :: Model.kneeCalls.map (.call 1) ++ [.freeze 1] ++ [.observe 0]

/-- The second of the two models. -/
noncomputable def otherKnee : Model ℝ :=
  { Model.kneeModel with number := ⟨2⟩ }

theorem kneesDeeds_reached : Reached kneesDeeds
    ⟨⟨2⟩, [.built Model.kneeCalls, .built Model.kneeCalls], [Model.kneeModel, otherKnee],
      [.ofModel Model.kneeModel]⟩ := by
  have one := Reached.start.made (Model.freeze_kneeCalls .empty)
  have two := one.made (Model.freeze_kneeCalls ⟨1⟩)
  exact two.step (.observe (t := 0) rfl)

/-- The shank of the second model. -/
noncomputable def otherShank : Node ℝ :=
  ⟨otherKnee, ⟨2⟩, (2 : Fin 3).isLt⟩

/-- The snapshot passes the check of its own model.  What is asked about the other is refused,
    though the two have the same frames, and leaves the snapshot as it was. -/
theorem session_isolated_knees :
    let s := Snapshot.ofModel Model.kneeModel
    Model.kneeModel.checkState s.state = .ok () ∧
      s.ask (Question.ground otherShank).query =
        (.error (.invalidState (.otherModel ⟨1⟩ ⟨2⟩)), s) := by
  intro s
  have isolated := session_isolated kneesDeeds_reached
  have about : (Question.ground otherShank).About otherKnee := List.forall_mem_singleton.2 rfl
  have home : (homes kneesDeeds)[0]? = some 0 := rfl
  have away : (homes kneesDeeds)[0]? ≠ some 1 := by
    rw [home]
    decide
  refine ⟨(isolated.checked 0 0 _ s rfl rfl).2 home, ?_⟩
  exact isolated.refused 0 1 _ s rfl rfl away (.ground otherShank) about

end Session
end RigidFrames
