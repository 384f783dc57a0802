/-
  RigidFrames.Proofs.Session.Run

  Many assemblies, models and snapshots in one program.

  A `Session` is what a program holds, and a `Deed` is one thing that it does
  with one of them.  Frames, bodies and versions are numbered from 0 in each
  model and each snapshot anew, so they tell nothing apart; what keeps models
  apart are the numbers that freezing gives them.

  `Sound` says what a session comes to after some deeds, and each deed keeps it
  (`Sound.step`): model `t` has number `t + 1`, and a snapshot is what the
  actions on it made of a new one, those left out that ask about frames of
  other models (`Life`).
-/
import RigidFrames.Proofs.Snapshot.Origin

namespace RigidFrames

variable {α : Type}

/-- What a program holds. -/
structure Session (α : Type) where
  registry : Registry
  assemblies : List (Assembly α)
  /-- The frozen models, in the order in which they were frozen. -/
  models : List (Model α)
  snapshots : List (Snapshot α)

/-- What a program can do; things are given by their places in the session. -/
inductive Deed (α : Type) : Type 1
  /-- Begins an assembly. -/
  | assemble
  | call (k : Nat) (c : Call α)
  | freeze (k : Nat)
  /-- Makes a snapshot of the `t`-th model. -/
  | observe (t : Nat)
  | act (j : Nat) (a : Action α)

/-- The model that a deed makes a snapshot of. -/
def Deed.home? : Deed α → Option Nat
  | observe t => some t
  | _ => none

/-- What the deed does to the `j`-th snapshot. -/
def Deed.actionOn? (j : Nat) : Deed α → Option (Action α)
  | act k a => if k = j then some a else none
  | _ => none

/-- All frames that the action asks about are frames of the listed models. -/
def Action.Known (models : List (Model α)) : Action α → Prop
  | ask q => ∀ n ∈ q.nodes, n.model ∈ models
  | _ => True

/-- The action is about nothing but frames of the model. -/
def Action.About (m : Model α) : Action α → Prop
  | ask q => q.About m
  | _ => True

theorem Action.About.consistent {m : Model α} {a : Action α} (about : a.About m) :
    a.Consistent m := by
  cases a with
  | ask q => exact Question.About.consistent about
  | setPose | touch | clear => trivial

namespace Session

/-- Nothing has been done. -/
def empty : Session α :=
  ⟨.empty, [], [], []⟩

/-- What a deed makes of a session.  Freezing uses an assembly up; that it stays here only allows
    for more. -/
inductive Step [Scalar α] (w : Session α) : Deed α → Session α → Prop
  | assemble : Step w .assemble { w with assemblies := w.assemblies ++ [.empty] }
  | call {k : Nat} {a : Assembly α} (c : Call α) (here : w.assemblies[k]? = some a) :
      Step w (.call k c) { w with assemblies := w.assemblies.set k (a.perform c).after }
  | frozen {k : Nat} {a : Assembly α} {m : Model α} (here : w.assemblies[k]? = some a)
      (answer : (a.freeze w.registry).answer = .ok m) :
      Step w (.freeze k)
        { w with registry := (a.freeze w.registry).registry, models := w.models ++ [m] }
  | refused {k : Nat} {a : Assembly α} {fault : Fault α} (here : w.assemblies[k]? = some a)
      (answer : (a.freeze w.registry).answer = .error fault) :
      Step w (.freeze k) { w with registry := (a.freeze w.registry).registry }
  | observe {t : Nat} {m : Model α} (here : w.models[t]? = some m) :
      Step w (.observe t) { w with snapshots := w.snapshots ++ [.ofModel m] }
  | act {j : Nat} {s : Snapshot α} {a : Action α} (here : w.snapshots[j]? = some s)
      (known : a.Known w.models) :
      Step w (.act j a) { w with snapshots := w.snapshots.set j (s.act a) }

/-- The deeds, from the first to the last, lead to the session. -/
inductive Reached [Scalar α] : List (Deed α) → Session α → Prop
  | start : Reached [] empty
  | step {ds : List (Deed α)} {w w' : Session α} {d : Deed α} (reached : Reached ds w)
      (step : Step w d w') : Reached (ds ++ [d]) w'

/-- Which model each snapshot was made of. -/
def homes (ds : List (Deed α)) : List Nat :=
  ds.filterMap (·.home?)

/-- What was done to the `j`-th snapshot. -/
def actionsOn (j : Nat) (ds : List (Deed α)) : List (Action α) :=
  ds.filterMap (·.actionOn? j)

/-- What was done to the `j`-th snapshot, without the questions about frames of models with other
    numbers. -/
def ownActions (number : ModelId) (j : Nat) (ds : List (Deed α)) : List (Action α) :=
  (actionsOn j ds).filter (·.own number)

-- ============================================================================
-- One more deed
-- ============================================================================

theorem homes_snoc (ds : List (Deed α)) (d : Deed α) :
    homes (ds ++ [d]) = homes ds ++ d.home?.toList := by
  rw [homes, homes, List.filterMap_append]
  congr 1

theorem actionsOn_snoc (j : Nat) (ds : List (Deed α)) (d : Deed α) :
    actionsOn j (ds ++ [d]) = actionsOn j ds ++ (d.actionOn? j).toList := by
  rw [actionsOn, actionsOn, List.filterMap_append]
  congr 1

/-- A deed that is no action on the snapshot does not come into its account. -/
theorem ownActions_other {j : Nat} {d : Deed α} (other : d.actionOn? j = none) (number : ModelId)
    (ds : List (Deed α)) : ownActions number j (ds ++ [d]) = ownActions number j ds := by
  rw [ownActions, actionsOn_snoc, other, Option.toList_none, List.append_nil, ownActions]

/-- An action on the snapshot comes into its account if it is about its model. -/
theorem ownActions_act (number : ModelId) (j : Nat) (ds : List (Deed α)) (a : Action α) :
    ownActions number j (ds ++ [.act j a]) =
      ownActions number j ds ++ if a.own number then [a] else [] := by
  have mine : (Deed.act j a).actionOn? j = some a := if_pos rfl
  rw [ownActions, actionsOn_snoc, mine, Option.toList_some, List.filter_append,
    List.filter_singleton, ownActions, Bool.cond_eq_ite]

theorem getElem?_append_of_some {β : Type} {l : List β} {i : Nat} {x : β} (found : l[i]? = some x)
    (l' : List β) : (l ++ l')[i]? = some x := by
  have lt : i < l.length := (List.getElem?_eq_some_iff.1 found).1
  rw [List.getElem?_append_left lt, found]

theorem getElem?_snoc_cases {β : Type} {l : List β} {i : Nat} {x y : β}
    (found : (l ++ [y])[i]? = some x) : l[i]? = some x ∨ (i = l.length ∧ x = y) := by
  rw [List.getElem?_append] at found
  split at found
  · exact .inl found
  · next beyond =>
    rw [List.getElem?_singleton] at found
    split at found
    · next zero => exact .inr ⟨by omega, (Option.some.inj found).symm⟩
    · cases found

variable [Scalar α] {ds : List (Deed α)} {w w' : Session α} {d : Deed α}

/-- Models come to the end of the list and stay. -/
theorem Step.models (step : Step w d w') : ∃ more, w'.models = w.models ++ more := by
  cases step with
  | frozen => exact ⟨_, rfl⟩
  | assemble | call | refused | observe | act => exact ⟨[], (List.append_nil _).symm⟩

-- ============================================================================
-- What deeds keep
-- ============================================================================

/-- The `j`-th snapshot was made of the `t`-th model, `m`, and has become `s` by what was done to
    it that was about frames of `m`. -/
structure Life (ds : List (Deed α)) (w : Session α) (j t : Nat) (m : Model α) (s : Snapshot α) :
    Prop where
  home : (homes ds)[j]? = some t
  model : w.models[t]? = some m
  about : ∀ a ∈ ownActions m.number j ds, a.About m
  run : s = (Snapshot.ofModel m).run (ownActions m.number j ds)

/-- What a session has come to by the deeds. -/
structure Sound (ds : List (Deed α)) (w : Session α) : Prop where
  issued : w.registry.issued = w.models.length
  numbered : ∀ (t : Nat) (m : Model α), w.models[t]? = some m → m.number = ⟨t + 1⟩
  built : ∀ a ∈ w.assemblies, ∃ calls, a = Assembly.built calls
  frozen : ∀ m ∈ w.models, m.Frozen
  homes : (homes ds).length = w.snapshots.length
  untouched : ∀ j, w.snapshots.length ≤ j → actionsOn j ds = []
  lives : ∀ (j : Nat) (s : Snapshot α), w.snapshots[j]? = some s → ∃ t m, Life ds w j t m s

/-- The snapshot of a life is one of its model, and its memo is right. -/
theorem Life.coherent {j t : Nat} {m : Model α} {s : Snapshot α} (life : Life ds w j t m s)
    (wf : m.WellFormed) : Snapshot.Coherent wf s := by
  rw [life.run]
  exact Snapshot.run_coherent wf fun a mem => (life.about a mem).consistent

/-- Where a snapshot comes from does not change. -/
theorem Life.kept {j t : Nat} {m : Model α} {s : Snapshot α} (life : Life ds w j t m s)
    (step : Step w d w') : (homes (ds ++ [d]))[j]? = some t ∧ w'.models[t]? = some m := by
  obtain ⟨more, models⟩ := step.models
  rw [homes_snoc, models]
  exact ⟨getElem?_append_of_some life.home _, getElem?_append_of_some life.model more⟩

/-- A deed that is not an action on the snapshot leaves it as it was. -/
theorem Life.later {j t : Nat} {m : Model α} {s : Snapshot α} (life : Life ds w j t m s)
    (step : Step w d w') (other : d.actionOn? j = none) : Life (ds ++ [d]) w' j t m s := by
  obtain ⟨home, model⟩ := life.kept step
  have same := ownActions_other other m.number ds
  exact ⟨home, model, same ▸ life.about, same ▸ life.run⟩

namespace Sound

theorem distinct (sound : Sound ds w) {t t' : Nat} {m m' : Model α} (here : w.models[t]? = some m)
    (here' : w.models[t']? = some m') (same : m.number = m'.number) : t = t' := by
  rw [sound.numbered t m here, sound.numbered t' m' here', ModelId.mk.injEq] at same
  omega

/-- Models of one number are one model. -/
theorem eq_of_number (sound : Sound ds w) {m m' : Model α} (mem : m ∈ w.models)
    (mem' : m' ∈ w.models) (same : m.number = m'.number) : m = m' := by
  obtain ⟨t, here⟩ := List.mem_iff_getElem?.1 mem
  obtain ⟨t', here'⟩ := List.mem_iff_getElem?.1 mem'
  obtain rfl : t = t' := sound.distinct here here' same
  exact Option.some.inj (here.symm.trans here')

/-- In a session an action about frames with the model's number is about the model. -/
theorem about_of_own (sound : Sound ds w) {m : Model α} (mem : m ∈ w.models) {a : Action α}
    (known : a.Known w.models) (own : a.own m.number = true) : a.About m := by
  cases a with
  | setPose | touch | clear => trivial
  | ask q =>
    have numbers : q.Of m.number := of_decide_eq_true own
    exact fun n node => sound.eq_of_number (known n node) mem (numbers n node)

/-- An action on a snapshot that is about its model goes to its account; any other leaves it as it
    was. -/
theorem life_act (sound : Sound ds w) {j t : Nat} {m : Model α} {s : Snapshot α} {a : Action α}
    (life : Life ds w j t m s) (step : Step w (.act j a) w') (known : a.Known w.models) :
    Life (ds ++ [.act j a]) w' j t m (s.act a) := by
  obtain ⟨home, model⟩ := life.kept step
  have mem : m ∈ w.models := List.mem_of_getElem? life.model
  have account := ownActions_act m.number j ds a
  cases own : a.own m.number with
  | true =>
    rw [own, if_pos rfl] at account
    refine ⟨home, model, ?_, ?_⟩
    · rw [account]
      intro b new
      rcases List.mem_append.1 new with old | last
      · exact life.about b old
      · rw [List.mem_singleton.1 last]
        exact sound.about_of_own mem known own
    · rw [account, Snapshot.run_snoc, ← life.run]
  | false =>
    rw [own, if_neg Bool.false_ne_true, List.append_nil] at account
    have number : s.model = m.number := (life.coherent (sound.frozen m mem).wellFormed).model
    have unchanged : s.act a = s := Snapshot.act_stranger (number ▸ own)
    rw [unchanged]
    exact ⟨home, model, account ▸ life.about, account ▸ life.run⟩

/-- Freezing gives the next number, or leaves everything as it was. -/
theorem step_issued (sound : Sound ds w) (step : Step w d w') :
    w'.registry.issued = w'.models.length := by
  cases step with
  | frozen _ answer =>
    rw [(Assembly.number_of_freeze answer).2, sound.issued, List.length_append,
      List.length_singleton]
  | refused _ answer =>
    rw [Assembly.registry_of_refused answer]
    exact sound.issued
  | assemble | call | observe | act => exact sound.issued

theorem step_numbered (sound : Sound ds w) (step : Step w d w') (t : Nat) (m : Model α)
    (here : w'.models[t]? = some m) : m.number = ⟨t + 1⟩ := by
  cases step with
  | frozen _ answer =>
    rcases getElem?_snoc_cases here with old | ⟨rfl, rfl⟩
    · exact sound.numbered t m old
    · rw [(Assembly.number_of_freeze answer).1, Registry.next, sound.issued]
  | assemble | call | refused | observe | act => exact sound.numbered t m here

theorem step_built (sound : Sound ds w) (step : Step w d w') (a : Assembly α)
    (mem : a ∈ w'.assemblies) : ∃ calls, a = Assembly.built calls := by
  cases step with
  | assemble =>
    rcases List.mem_append.1 mem with old | new
    · exact sound.built a old
    · exact ⟨[], List.mem_singleton.1 new⟩
  | call c here =>
    rcases List.mem_or_eq_of_mem_set mem with old | rfl
    · exact sound.built a old
    · obtain ⟨calls, rfl⟩ := sound.built _ (List.mem_of_getElem? here)
      exact ⟨calls ++ [c], (Assembly.run_append_singleton _ calls c).symm⟩
  | frozen | refused | observe | act => exact sound.built a mem

theorem step_frozen (sound : Sound ds w) (step : Step w d w') (m : Model α)
    (mem : m ∈ w'.models) : m.Frozen := by
  cases step with
  | frozen here answer =>
    rcases List.mem_append.1 mem with old | new
    · exact sound.frozen m old
    · obtain rfl := List.mem_singleton.1 new
      obtain ⟨calls, rfl⟩ := sound.built _ (List.mem_of_getElem? here)
      exact ⟨calls, w.registry, answer⟩
  | assemble | call | refused | observe | act => exact sound.frozen m mem

theorem step_homes (sound : Sound ds w) (step : Step w d w') :
    (Session.homes (ds ++ [d])).length = w'.snapshots.length := by
  rw [homes_snoc, List.length_append, sound.homes]
  cases step with
  | observe => rw [List.length_append]; rfl
  | act => rw [List.length_set]; rfl
  | assemble | call | frozen | refused => rfl

theorem step_untouched (sound : Sound ds w) (step : Step w d w') (j : Nat)
    (beyond : w'.snapshots.length ≤ j) : actionsOn j (ds ++ [d]) = [] := by
  have longer : w.snapshots.length ≤ j ∧ d.actionOn? j = none := by
    cases step with
    | observe =>
      rw [List.length_append] at beyond
      exact ⟨Nat.le_of_add_right_le beyond, rfl⟩
    | @act k s a here =>
      rw [List.length_set] at beyond
      have lt : k < w.snapshots.length := (List.getElem?_eq_some_iff.1 here).1
      have other : k ≠ j := by omega
      exact ⟨beyond, if_neg other⟩
    | assemble | call | frozen | refused => exact ⟨beyond, rfl⟩
  rw [actionsOn_snoc, longer.2, sound.untouched j longer.1]
  rfl

theorem step_lives (sound : Sound ds w) (step : Step w d w') (j : Nat) (s : Snapshot α)
    (found : w'.snapshots[j]? = some s) : ∃ t m, Life (ds ++ [d]) w' j t m s := by
  have kept (old : w.snapshots[j]? = some s) (other : d.actionOn? j = none) :
      ∃ t m, Life (ds ++ [d]) w' j t m s := by
    obtain ⟨t, m, life⟩ := sound.lives j s old
    exact ⟨t, m, life.later step other⟩
  cases step with
  | assemble | call | frozen | refused => exact kept found rfl
  | @observe t m here =>
    rcases getElem?_snoc_cases found with old | ⟨rfl, rfl⟩
    · exact kept old rfl
    · -- A new snapshot: nothing has been done to it.
      have nothing : ownActions m.number w.snapshots.length (ds ++ [.observe t]) = [] := by
        rw [ownActions, actionsOn_snoc, sound.untouched _ (Nat.le_refl _)]
        rfl
      have home : (Session.homes (ds ++ [.observe t]))[w.snapshots.length]? = some t := by
        rw [homes_snoc, ← sound.homes]
        exact List.getElem?_concat_length
      refine ⟨t, m, home, here, ?_, ?_⟩
      · rw [nothing]
        exact fun a mem => absurd mem List.not_mem_nil
      · rw [nothing]
        rfl
  | @act k s' a here known =>
    by_cases same : k = j
    · subst same
      have lt : k < w.snapshots.length := (List.getElem?_eq_some_iff.1 here).1
      rw [List.getElem?_set_self lt, Option.some.injEq] at found
      subst found
      obtain ⟨t, m, life⟩ := sound.lives k s' here
      exact ⟨t, m, sound.life_act life (.act here known) known⟩
    · rw [List.getElem?_set_ne same] at found
      exact kept found (if_neg same)

theorem step (sound : Sound ds w) (step : Step w d w') : Sound (ds ++ [d]) w' where
  issued := sound.step_issued step
  numbered := sound.step_numbered step
  built := sound.step_built step
  frozen := sound.step_frozen step
  homes := sound.step_homes step
  untouched := sound.step_untouched step
  lives := sound.step_lives step

end Sound

/-- Whatever is done, the session is sound. -/
theorem Reached.sound (reached : Reached ds w) : Sound ds w := by
  induction reached with
  | start => exact ⟨rfl, nofun, nofun, nofun, rfl, fun _ _ => rfl, nofun⟩
  | step _ step ih => exact ih.step step

-- ============================================================================
-- Making a model
-- ============================================================================

/-- An assembly can be made of any calls at any time. -/
theorem Reached.assembled (reached : Reached ds w) (calls : List (Call α)) :
    Reached (ds ++ .assemble :: calls.map (.call w.assemblies.length))
      { w with assemblies := w.assemblies ++ [Assembly.built calls] } := by
  induction calls using List.reverseRecOn with
  | nil => exact reached.step .assemble
  | append_singleton calls c ih =>
    have here : (w.assemblies ++ [Assembly.built calls])[w.assemblies.length]? =
        some (Assembly.built calls) := List.getElem?_concat_length
    have next := ih.step (.call c here)
    have after : ((Assembly.built calls).perform c).after = Assembly.built (calls ++ [c]) :=
      (Assembly.run_append_singleton .empty calls c).symm
    rw [after, List.set_append_right _ _ (Nat.le_refl _), Nat.sub_self, List.set_cons_zero] at next
    rw [List.map_append, List.map_singleton]
    rw [List.append_assoc, List.cons_append] at next
    exact next

/-- If the calls make a model, the program can have it. -/
theorem Reached.made (reached : Reached ds w) {calls : List (Call α)} {m : Model α}
    (answer : ((Assembly.built calls).freeze w.registry).answer = .ok m) :
    Reached (ds ++ .assemble :: calls.map (.call w.assemblies.length) ++
        [.freeze w.assemblies.length])
      ⟨⟨w.registry.issued + 1⟩, w.assemblies ++ [Assembly.built calls], w.models ++ [m],
        w.snapshots⟩ := by
  have here : (w.assemblies ++ [Assembly.built calls])[w.assemblies.length]? =
      some (Assembly.built calls) := List.getElem?_concat_length
  have next := (reached.assembled calls).step (.frozen here answer)
  have registry : ((Assembly.built calls).freeze w.registry).registry =
      ⟨w.registry.issued + 1⟩ := by
    rw [← (Assembly.number_of_freeze answer).2]
  rw [registry] at next
  exact next

end Session
end RigidFrames
