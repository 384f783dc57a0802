/-
  RigidFrames.Proofs.Assembly.Invariant

  What holds of an assembly after any calls.

  The frames, the map of names and the body count are kept apart but belong
  together; `Assembly.Sound` says how, and every call keeps it, refused ones
  included (`built_sound`).  The history agrees with the assembly: the
  settings are those put in place last (`built_settings`), each attached frame
  hangs where it was last hung (`built_parent?`), and frames were numbered and
  reported one by one (`built_reported`, `additions_eq`).
-/
import RigidFrames.Proofs.Assembly.History

namespace RigidFrames

variable {α : Type}

/-- A frame that a call asks to add is never the reference of its model. -/
theorem Call.frame?_ne_ground (c : Call α) {bodies : Nat} {f : Frame (Option FrameId) α}
    (asked : c.frame? bodies = some f) : f.mount ≠ .ground := by
  cases c <;> cases asked <;> exact nofun

/-- A frame that a call asks to add follows no body, or the next one. -/
theorem Call.frame?_body (c : Call α) {bodies : Nat} {f : Frame (Option FrameId) α}
    (asked : c.frame? bodies = some f) :
    f.mount.body? = none ∨ f.mount.body? = some ⟨bodies⟩ := by
  cases c with
  | configure | setParent => cases asked
  | addGrounded => cases asked; exact .inr rfl
  | addAttached | addUnparented => cases asked; exact .inl rfl

namespace Assembly

/-- How the parts of an assembly belong together. -/
structure Sound (a : Assembly α) : Prop where
  ground : a.frames[0]? = some ⟨groundName, .ground⟩
  only_ground : ∀ (k : Nat) (f : Frame (Option FrameId) α),
    a.frames[k]? = some f → f.mount = .ground → k = 0
  ids_iff : ∀ (name : String) (i : FrameId),
    a.ids[name]? = some i ↔ ∃ f, a.frames[i.index]? = some f ∧ f.name = name
  bodies : a.frames.toList.filterMap (·.mount.body?) = (List.range a.bodies).map BodyIndex.mk
  parents : ∀ (k : Nat) (f : Frame (Option FrameId) α) (p : FrameId),
    a.frames[k]? = some f → f.mount.parent? = some (some p) → p.index < a.frames.size

-- ============================================================================
-- Frames after a change
-- ============================================================================

theorem extend_getElem? (a : Assembly α) (f : Frame (Option FrameId) α) (k : Nat) :
    (a.extend f).frames[k]? = if k = a.frames.size then some f else a.frames[k]? := by
  rw [extend, Array.getElem?_push]

theorem extend_size (a : Assembly α) (f : Frame (Option FrameId) α) :
    (a.extend f).frames.size = a.frames.size + 1 := by
  simp [extend]

theorem replace_getElem? (a : Assembly α) {i : FrameId} {f g : Frame (Option FrameId) α}
    (found : a.frames[i.index]? = some f) (k : Nat) :
    (a.replace i g).frames[k]? = if k = i.index then some g else a.frames[k]? := by
  have lt : i.index < a.frames.size := (Array.getElem?_eq_some_iff.1 found).1
  rw [replace, Array.getElem?_setIfInBounds]
  by_cases eq : i.index = k
  · simp [eq, eq ▸ lt]
  · simp [eq, Ne.symm eq]

theorem replace_size (a : Assembly α) (i : FrameId) (g : Frame (Option FrameId) α) :
    (a.replace i g).frames.size = a.frames.size := by
  simp [replace]

-- ============================================================================
-- Every call keeps the parts together
-- ============================================================================

theorem Sound.lt_size {a : Assembly α} (sound : a.Sound) : 0 < a.frames.size :=
  (Array.getElem?_eq_some_iff.1 sound.ground).1

theorem Sound.empty [Scalar α] : (empty : Assembly α).Sound where
  ground := rfl
  only_ground k f h _ := by
    have : k < 1 := (Array.getElem?_eq_some_iff.1 h).1
    omega
  ids_iff name i := by
    obtain ⟨k⟩ := i
    rw [Assembly.empty, Std.HashMap.getElem?_insert]
    cases k with
    | zero =>
      by_cases eq : groundName = name
      · simp [eq, FrameId.ground]
      · simp [eq]
    | succ k =>
      by_cases eq : groundName = name
      · simp [eq, FrameId.ground]
      · simp [eq]
  bodies := rfl
  parents k f p h hp := by
    rw [Assembly.empty, Array.getElem?_singleton] at h
    split at h
    · cases h; cases hp
    · cases h

theorem Sound.extend {a : Assembly α} (sound : a.Sound) {c : Call α}
    {f : Frame (Option FrameId) α} (asked : c.frame? a.bodies = some f)
    (free : a.ids.contains f.name = false)
    (known : ∀ p, f.mount.parent? = some (some p) → p.index < a.frames.size) :
    (a.extend f).Sound where
  ground := by
    rw [extend_getElem?, if_neg (Nat.ne_of_lt sound.lt_size)]
    exact sound.ground
  only_ground k g h hg := by
    rw [extend_getElem?] at h
    split at h
    · cases h; exact absurd hg (c.frame?_ne_ground asked)
    · exact sound.only_ground k g h hg
  ids_iff name i := by
    have unused : a.ids[f.name]? = none :=
      Std.HashMap.getElem?_eq_none_of_contains_eq_false free
    obtain ⟨k⟩ := i
    rw [extend_getElem?, Assembly.extend, Std.HashMap.getElem?_insert]
    by_cases last : k = a.frames.size
    · subst last
      have none_yet : a.ids[name]? ≠ some ⟨a.frames.size⟩ := by
        intro h
        obtain ⟨g, hg, -⟩ := (sound.ids_iff name _).1 h
        simp at hg
      by_cases eq : f.name = name
      · simp [eq]
      · simp [eq, none_yet]
    · by_cases eq : f.name = name
      · subst eq
        have not_found : ¬ ∃ g, a.frames[k]? = some g ∧ g.name = f.name := by
          intro h
          rw [(sound.ids_iff f.name ⟨k⟩).2 h] at unused
          cases unused
        simpa [last, Ne.symm last] using not_found
      · simpa [last, eq] using sound.ids_iff name ⟨k⟩
  bodies := by
    rw [Assembly.extend, Array.toList_push, List.filterMap_append, sound.bodies]
    rcases c.frame?_body asked with none | some
    · simp [none]
    · simp [some, List.range_succ]
  parents k g p h hp := by
    rw [extend_size]
    rw [extend_getElem?] at h
    split at h
    · cases h; exact Nat.lt_succ_of_lt (known p hp)
    · exact Nat.lt_succ_of_lt (sound.parents k g p h hp)

theorem Sound.replace {a : Assembly α} (sound : a.Sound) {i parent : FrameId} {name : String}
    {old : Option FrameId} {offset : Pose α}
    (found : a.frames[i.index]? = some ⟨name, .attached old offset⟩)
    (known : parent.index < a.frames.size) :
    (a.replace i ⟨name, .attached (some parent) offset⟩).Sound where
  ground := by
    rw [replace_getElem? a found]
    split
    · next eq => rw [← eq, sound.ground] at found; cases found
    · exact sound.ground
  only_ground k g h hg := by
    rw [replace_getElem? a found] at h
    split at h
    · cases h; cases hg
    · exact sound.only_ground k g h hg
  ids_iff name' j := by
    rw [replace_getElem? a found]
    by_cases eq : j.index = i.index
    · have := sound.ids_iff name' j
      rw [eq, found] at this
      simpa [eq, Assembly.replace] using this
    · simpa [eq, Assembly.replace] using sound.ids_iff name' j
  bodies := by
    -- The frame follows no body before, and none afterwards.
    have lt : i.index < a.frames.toList.length := (Array.getElem?_eq_some_iff.1 found).1
    have here : a.frames.toList[i.index] = ⟨name, .attached old offset⟩ := by
      simpa using (Array.getElem?_eq_some_iff.1 found).2
    have split := List.set_eq_take_append_cons_drop (l := a.frames.toList) (i := i.index)
      (a := (⟨name, .attached (some parent) offset⟩ : Frame (Option FrameId) α))
    have whole := List.take_append_drop i.index a.frames.toList
    rw [List.drop_eq_getElem_cons lt, here] at whole
    rw [Assembly.replace, Array.toList_setIfInBounds, split, if_pos lt, List.filterMap_append,
      List.filterMap_cons_none rfl, ← sound.bodies]
    conv_rhs => rw [← whole]
    rw [List.filterMap_append, List.filterMap_cons_none rfl]
  parents k g p h hp := by
    rw [replace_size]
    rw [replace_getElem? a found] at h
    split at h
    · cases h; cases hp; exact known
    · exact sound.parents k g p h hp

theorem Outcome.sound {a : Assembly α} {c : Call α} {r : Reply α (Option FrameId)}
    (outcome : a.Outcome c r) (sound : a.Sound) : r.after.Sound := by
  cases outcome with
  | refused => exact sound
  | configured settings => exact ⟨sound.1, sound.2, sound.3, sound.4, sound.5⟩
  | added asked free known => exact sound.extend asked free known
  | moved found known => exact sound.replace found known

/-- Whatever calls make is sound. -/
theorem built_sound [Scalar α] (calls : List (Call α)) : (built calls).Sound :=
  built_induction (P := fun _ a => a.Sound) .empty
    (fun _ _ _ sound outcome _ _ => outcome.sound sound) calls

-- ============================================================================
-- The history agrees with the assembly
-- ============================================================================

/-- The parent that the assembly holds for a frame. -/
def parent? (a : Assembly α) (i : FrameId) : Option FrameId :=
  (a.frames[i.index]?.bind (·.mount.parent?)).join

theorem parent?_eq {a : Assembly α} {k : Nat} {f : Frame (Option FrameId) α}
    (found : a.frames[k]? = some f) : a.parent? ⟨k⟩ = f.mount.parent?.join := by
  simp [parent?, found]

theorem Exchange.wired?_refuse (a : Assembly α) (c : Call α) (fault : Fault α) :
    Exchange.wired? (c, a.refuse fault) = none := by
  cases c <;> rfl

theorem Exchange.wired?_added {c : Call α} {bodies : Nat} {f : Frame (Option FrameId) α}
    (asked : c.frame? bodies = some f) (id : FrameId) (a : Assembly α) (log : List (Event α)) :
    Exchange.wired? (c, ⟨.ok (some id), a, log⟩) = f.mount.parent?.join.map (id, ·) := by
  cases c <;> cases asked <;> rfl

theorem Exchange.added?_added {c : Call α} {bodies : Nat} {f : Frame (Option FrameId) α}
    (asked : c.frame? bodies = some f) (id : FrameId) (a : Assembly α) (log : List (Event α)) :
    Exchange.added? (c, ⟨.ok (some id), a, log⟩) = some (f.name, id) := by
  cases c <;> cases asked <;> rfl

theorem Call.settings?_of_frame? {c : Call α} {bodies : Nat} {f : Frame (Option FrameId) α}
    (asked : c.frame? bodies = some f) : c.settings? = none := by
  cases c <;> first | rfl | cases asked

section

variable [Scalar α]

theorem lastSettings_append (calls : List (Call α)) (c : Call α) :
    lastSettings (calls ++ [c]) = c.settings?.getD (lastSettings calls) := by
  rw [lastSettings, List.filterMap_append]
  cases h : c.settings? with
  | none => simp [h, lastSettings]
  | some settings => simp [h]

theorem lastParent?_append {calls : List (Call α)} {c : Call α} {r : Reply α (Option FrameId)}
    (history : empty.history (calls ++ [c]) = empty.history calls ++ [(c, r)]) (i : FrameId) :
    lastParent? (calls ++ [c]) i =
      match Exchange.wired? (c, r) with
      | some (j, parent) => if i = j then some parent else lastParent? calls i
      | none => lastParent? calls i := by
  rw [lastParent?, history, List.filterMap_append, List.reverse_append]
  rcases h : Exchange.wired? (c, r) with _ | ⟨j, parent⟩
  · simp [h, lastParent?]
  · by_cases eq : i = j
    · simp [h, eq]
    · simp [h, eq, lastParent?, List.lookup_cons, beq_eq_false_iff_ne.2 eq]

theorem reported_append {calls : List (Call α)} {c : Call α} {r : Reply α (Option FrameId)}
    (history : empty.history (calls ++ [c]) = empty.history calls ++ [(c, r)]) :
    reported (calls ++ [c]) = reported calls ++ r.log.filterMap Event.added? := by
  rw [reported, events, history, List.flatMap_append, List.filterMap_append]
  simp [reported, events]

/-- The settings are those put in place last. -/
theorem built_settings (calls : List (Call α)) : (built calls).settings = lastSettings calls := by
  refine built_induction (P := fun calls a => a.settings = lastSettings calls) rfl ?_ calls
  intro calls c r ih outcome _ _
  rw [lastSettings_append]
  cases outcome with
  | refused kept => rw [kept]; exact ih
  | configured settings => rfl
  | added asked => rw [Call.settings?_of_frame? asked]; exact ih
  | moved => exact ih

/-- Each frame hangs where it was last hung. -/
theorem built_parent? (calls : List (Call α)) (i : FrameId) :
    (built calls).parent? i = lastParent? calls i := by
  refine built_induction (P := fun calls a => a.parent? i = lastParent? calls i) ?_ ?_ calls
  · obtain ⟨k⟩ := i
    cases k <;> rfl
  intro calls c r ih outcome _ history
  rw [lastParent?_append history]
  cases outcome with
  | refused kept fault => rw [Exchange.wired?_refuse]; exact ih
  | configured settings => exact ih
  | @added c f asked free known =>
    rw [Exchange.wired?_added asked, ← ih, parent?, extend_getElem?]
    obtain ⟨k⟩ := i
    by_cases eq : k = (built calls).frames.size
    · subst eq
      cases link : f.mount.parent?.join with
      | none => simp [parent?, link]
      | some p => simp [link]
    · cases f.mount.parent?.join with
      | none => simp [parent?, eq]
      | some p => simp [parent?, eq]
  | @moved j parent name old offset found known =>
    rw [Exchange.wired?, parent?, replace_getElem? _ found, ← ih]
    obtain ⟨k⟩ := i
    obtain ⟨l⟩ := j
    by_cases eq : k = l
    · simp [eq, Mount.parent?]
    · simp [eq, parent?]

/-- One report for each frame but the first: its name and its number. -/
theorem built_reported (calls : List (Call α)) :
    (reported calls).length + 1 = (built calls).frames.size ∧ ∀ k : Nat, (reported calls)[k]? =
      (built calls).frames[k + 1]?.map fun f => (f.name, ⟨k + 1⟩) := by
  refine built_induction (P := fun calls a => (reported calls).length + 1 = a.frames.size ∧
    ∀ k : Nat, (reported calls)[k]? = a.frames[k + 1]?.map fun f => (f.name, ⟨k + 1⟩))
    ⟨rfl, fun k => rfl⟩ ?_ calls
  rintro calls c r ⟨length, ih⟩ outcome _ history
  rw [reported_append history]
  cases outcome with
  | refused kept fault => simpa [refuse] using ⟨length, ih⟩
  | configured => simpa using ⟨length, ih⟩
  | @added _ f asked free known =>
    refine ⟨by simp [extend_size, Event.added?, length], fun k => ?_⟩
    rw [extend_getElem?, List.getElem?_append, ih]
    by_cases last : k + 1 = (built calls).frames.size
    · have at_end : k = (reported calls).length := by omega
      simp [at_end, length, Event.added?]
    · by_cases lt : k < (reported calls).length
      · simp [lt, last]
      · have beyond : (built calls).frames.size ≤ k + 1 := by omega
        have late : k - (reported calls).length ≠ 0 := by omega
        simp [lt, last, beyond, Event.added?, late]
  | @moved i parent name old offset found known =>
    have silent : [Event.parentSet name parent].filterMap (Event.added? (α := α)) = [] := rfl
    rw [silent, List.append_nil]
    refine ⟨by simpa [replace_size] using length, fun k => ?_⟩
    rw [replace_getElem? _ found, ih]
    by_cases eq : k + 1 = i.index
    · simp [eq, found]
    · simp [eq]

/-- What the calls asked for and were answered is what was reported. -/
theorem additions_eq (calls : List (Call α)) : additions calls = reported calls := by
  refine built_induction (P := fun calls _ => additions calls = reported calls) rfl ?_ calls
  intro calls c r ih outcome _ history
  rw [reported_append history, additions, history, List.filterMap_append, ← ih]
  cases outcome with
  | refused | configured | moved => rfl
  | added asked =>
    simp only [List.filterMap_cons, Exchange.added?_added asked, List.filterMap_nil]
    rfl

end

end Assembly
end RigidFrames
