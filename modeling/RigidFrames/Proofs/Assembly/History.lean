/-
  RigidFrames.Proofs.Assembly.History

  Assemblies as what a sequence of calls makes of the empty one.

  `Call` names the five ways to work on an assembly, and `Assembly.perform`
  carries one out.  A call is refused and changes nothing, or replaces the
  settings, or adds one frame, or hangs one frame elsewhere
  (`Assembly.perform_outcome`); every fact about all runs comes from these
  four cases.

  Two of the things that freezing looks at can be read off the calls and
  their answers, without the assembly: the settings (`lastSettings`) and the
  parent of each frame (`lastParent?`).
-/
import RigidFrames.Assembly
import Mathlib.Data.List.Induction

namespace RigidFrames

variable {α : Type}

/-- A call on an assembly. -/
inductive Call (α : Type) where
  | configure (settings : Settings α)
  | addGrounded (name : String)
  | addAttached (name : String) (parent : FrameId) (offset : Pose α)
  | addUnparented (name : String) (offset : Pose α)
  | setParent (frame parent : FrameId)

/-- The frame that a call asks to add, when `bodies` bodies have been given out. -/
def Call.frame? (bodies : Nat) : Call α → Option (Frame (Option FrameId) α)
  | configure _ => none
  | addGrounded name => some ⟨name, .grounded ⟨bodies⟩⟩
  | addAttached name parent offset => some ⟨name, .attached (some parent) offset⟩
  | addUnparented name offset => some ⟨name, .attached none offset⟩
  | setParent _ _ => none

/-- The name that a call asks for. -/
def Call.name? : Call α → Option String
  | addGrounded name | addAttached name _ _ | addUnparented name _ => some name
  | configure _ | setParent _ _ => none

/-- The settings that a call puts in place. -/
def Call.settings? : Call α → Option (Settings α)
  | configure settings => some settings
  | _ => none

/-- The name and the number in the report of an added frame. -/
def Event.added? : Event α → Option (String × FrameId)
  | frameAdded name id => some (name, id)
  | _ => none

namespace Assembly

/-- The same reply with another answer. -/
def Reply.map {β γ : Type} (f : β → γ) (r : Reply α β) : Reply α γ :=
  ⟨r.answer.map f, r.after, r.log⟩

/-- Carries out a call.  An addition answers the number of its frame. -/
def perform (a : Assembly α) : Call α → Reply α (Option FrameId)
  | .configure settings => ⟨.ok none, a.configure settings, []⟩
  | .addGrounded name => (a.addGrounded name).map some
  | .addAttached name parent offset => (a.addAttached name parent offset).map some
  | .addUnparented name offset => (a.addUnparented name offset).map some
  | .setParent frame parent => (a.setParent frame parent).map fun _ => none

/-- A call with its reply. -/
abbrev Exchange (α : Type) := Call α × Reply α (Option FrameId)

/-- The calls with their replies, each made on what the one before left. -/
def history (a : Assembly α) : List (Call α) → List (Exchange α)
  | [] => []
  | c :: calls => (c, a.perform c) :: (a.perform c).after.history calls

/-- What the calls leave. -/
def run (a : Assembly α) (calls : List (Call α)) : Assembly α :=
  calls.foldl (fun a c => (a.perform c).after) a

/-- What the calls make of the empty assembly. -/
def built [Scalar α] (calls : List (Call α)) : Assembly α :=
  empty.run calls

theorem built_eq_run [Scalar α] (calls : List (Call α)) : built calls =
    (⟨.standard, #[⟨groundName, .ground⟩], (∅ : Std.HashMap String FrameId).insert groundName ⟨0⟩,
      0⟩ : Assembly α).run calls := rfl

-- ============================================================================
-- What the calls say by themselves
-- ============================================================================

/-- The frame that an exchange hung somewhere, and the parent that it got. -/
def Exchange.wired? : Exchange α → Option (FrameId × FrameId)
  | (.addAttached _ parent _, ⟨.ok (some id), _, _⟩) => some (id, parent)
  | (.setParent frame parent, ⟨.ok _, _, _⟩) => some (frame, parent)
  | _ => none

/-- The name asked for and the number answered, where a frame was added. -/
def Exchange.added? : Exchange α → Option (String × FrameId)
  | (c, ⟨.ok (some id), _, _⟩) => c.name?.map (·, id)
  | _ => none

/-- The settings put in place last, the standard ones if none were. -/
def lastSettings [Scalar α] (calls : List (Call α)) : Settings α :=
  (calls.filterMap Call.settings?).getLast?.getD .standard

/-- The parent that a frame got when it was last hung somewhere. -/
def lastParent? [Scalar α] (calls : List (Call α)) (i : FrameId) : Option FrameId :=
  (((empty.history calls).filterMap Exchange.wired?).reverse).lookup i

/-- The names and numbers of the frames added, in the order of the calls. -/
def additions [Scalar α] (calls : List (Call α)) : List (String × FrameId) :=
  (empty.history calls).filterMap Exchange.added?

/-- Everything that was reported. -/
def events [Scalar α] (calls : List (Call α)) : List (Event α) :=
  (empty.history calls).flatMap (·.2.log)

/-- The names and numbers of the frames that were reported as added. -/
def reported [Scalar α] (calls : List (Call α)) : List (String × FrameId) :=
  (events calls).filterMap Event.added?

-- ============================================================================
-- One call
-- ============================================================================

/-- The assembly with one more frame. -/
def extend (a : Assembly α) (f : Frame (Option FrameId) α) : Assembly α where
  settings := a.settings
  frames := a.frames.push f
  ids := a.ids.insert f.name ⟨a.frames.size⟩
  bodies := if f.mount.body?.isSome then a.bodies + 1 else a.bodies

/-- The assembly with another frame in the place `i`. -/
def replace (a : Assembly α) (i : FrameId) (f : Frame (Option FrameId) α) : Assembly α :=
  { a with frames := a.frames.setIfInBounds i.index f }

/-- What a call can come to. -/
inductive Outcome (a : Assembly α) : Call α → Reply α (Option FrameId) → Prop
  | refused {c : Call α} (kept : c.settings? = none) (fault : Fault α) :
      Outcome a c (a.refuse fault)
  | configured (settings : Settings α) :
      Outcome a (.configure settings) ⟨.ok none, a.configure settings, []⟩
  | added {c : Call α} {f : Frame (Option FrameId) α} (asked : c.frame? a.bodies = some f)
      (free : a.ids.contains f.name = false)
      (known : ∀ p, f.mount.parent? = some (some p) → p.index < a.frames.size) :
      Outcome a c ⟨.ok (some ⟨a.frames.size⟩), a.extend f, [.frameAdded f.name ⟨a.frames.size⟩]⟩
  | moved {i parent : FrameId} {name : String} {old : Option FrameId} {offset : Pose α}
      (found : a.frames[i.index]? = some ⟨name, .attached old offset⟩)
      (known : parent.index < a.frames.size) :
      Outcome a (.setParent i parent)
        ⟨.ok none, a.replace i ⟨name, .attached (some parent) offset⟩, [.parentSet name parent]⟩

/-- Adding a frame by name, as far as the body count is not concerned. -/
theorem add_cases (a : Assembly α) (name : String) (mount : Mount (Option FrameId) α) :
    (∃ fault, a.add name mount = a.refuse fault) ∨
    (a.ids.contains name = false ∧ a.add name mount =
      ⟨.ok ⟨a.frames.size⟩,
        { a with frames := a.frames.push ⟨name, mount⟩, ids := a.ids.insert name ⟨a.frames.size⟩ },
        [.frameAdded name ⟨a.frames.size⟩]⟩) := by
  rw [add]
  split
  · exact .inl ⟨_, rfl⟩
  · next free => exact .inr ⟨by simpa using free, rfl⟩

theorem perform_outcome (a : Assembly α) (c : Call α) : a.Outcome c (a.perform c) := by
  cases c with
  | configure settings => exact .configured settings
  | addGrounded name =>
    rcases a.add_cases name (.grounded ⟨a.bodies⟩) with ⟨fault, eq⟩ | ⟨free, eq⟩
    · rw [perform, addGrounded, eq]
      exact .refused rfl fault
    · rw [perform, addGrounded, eq]
      exact .added (f := ⟨name, .grounded ⟨a.bodies⟩⟩) rfl free nofun
  | addAttached name parent offset =>
    rw [perform, addAttached]
    split
    · next lt =>
      rcases a.add_cases name (.attached (some parent) offset) with ⟨fault, eq⟩ | ⟨free, eq⟩
      · rw [eq]
        exact .refused rfl fault
      · rw [eq]
        refine .added (f := ⟨name, .attached (some parent) offset⟩) rfl free fun p hp => ?_
        cases hp
        exact lt
    · exact .refused rfl _
  | addUnparented name offset =>
    rw [perform, addUnparented]
    rcases a.add_cases name (.attached none offset) with ⟨fault, eq⟩ | ⟨free, eq⟩
    · rw [eq]
      exact .refused rfl fault
    · rw [eq]
      exact .added (f := ⟨name, .attached none offset⟩) rfl free nofun
  | setParent i parent =>
    rw [perform, setParent]
    split
    · exact .refused rfl _
    · next f found =>
      split
      · next lt =>
        obtain ⟨name, mount⟩ := f
        cases mount with
        | ground => exact .refused rfl _
        | grounded body => exact .refused rfl _
        | attached old offset => exact .moved found lt
      · exact .refused rfl _

-- ============================================================================
-- What a call leaves
-- ============================================================================

section

variable (a : Assembly α)

@[simp] theorem after_configure (settings : Settings α) :
    (a.perform (.configure settings)).after = ⟨settings, a.frames, a.ids, a.bodies⟩ := rfl

@[simp] theorem after_addGrounded (name : String) : (a.perform (.addGrounded name)).after =
    if a.ids.contains name then a
    else ⟨a.settings, a.frames.push ⟨name, .grounded ⟨a.bodies⟩⟩,
      a.ids.insert name ⟨a.frames.size⟩, a.bodies + 1⟩ := by
  rw [perform, addGrounded, add]
  cases a.ids.contains name <;> rfl

@[simp] theorem after_addAttached (name : String) (parent : FrameId) (offset : Pose α) :
    (a.perform (.addAttached name parent offset)).after =
      if parent.index < a.frames.size then
        if a.ids.contains name then a
        else ⟨a.settings, a.frames.push ⟨name, .attached (some parent) offset⟩,
          a.ids.insert name ⟨a.frames.size⟩, a.bodies⟩
      else a := by
  rw [perform, addAttached, add]
  by_cases known : parent.index < a.frames.size
  · rw [if_pos known, if_pos known]
    cases a.ids.contains name <;> rfl
  · rw [if_neg known, if_neg known]
    rfl

@[simp] theorem after_addUnparented (name : String) (offset : Pose α) :
    (a.perform (.addUnparented name offset)).after =
      if a.ids.contains name then a
      else ⟨a.settings, a.frames.push ⟨name, .attached none offset⟩,
        a.ids.insert name ⟨a.frames.size⟩, a.bodies⟩ := by
  rw [perform, addUnparented, add]
  cases a.ids.contains name <;> rfl

@[simp] theorem after_setParent (frame parent : FrameId) :
    (a.perform (.setParent frame parent)).after =
      match a.frames[frame.index]? with
      | some ⟨name, .attached _ offset⟩ =>
        if parent.index < a.frames.size then a.replace frame ⟨name, .attached (some parent) offset⟩
        else a
      | _ => a := by
  rw [perform, setParent]
  rcases a.frames[frame.index]? with _ | ⟨name, mount⟩
  · rfl
  · by_cases known : parent.index < a.frames.size
    · cases mount <;> simp only [if_pos known] <;> rfl
    · cases mount <;> simp only [if_neg known] <;> rfl

end

-- ============================================================================
-- Runs
-- ============================================================================

@[simp] theorem run_nil (a : Assembly α) : a.run [] = a := rfl

@[simp] theorem run_cons (a : Assembly α) (c : Call α) (calls : List (Call α)) :
    a.run (c :: calls) = (a.perform c).after.run calls := rfl

theorem run_append_singleton (a : Assembly α) (calls : List (Call α)) (c : Call α) :
    a.run (calls ++ [c]) = ((a.run calls).perform c).after := by
  simp [run]

theorem history_append_singleton (a : Assembly α) (calls : List (Call α)) (c : Call α) :
    a.history (calls ++ [c]) = a.history calls ++ [(c, (a.run calls).perform c)] := by
  induction calls generalizing a with
  | nil => rfl
  | cons d calls ih =>
    rw [List.cons_append, history, history, ih, List.cons_append]
    rfl

/-- What holds of the empty assembly and is kept by every call holds of whatever calls make. -/
theorem built_induction [Scalar α] {P : List (Call α) → Assembly α → Prop} (initial : P [] empty)
    (step : ∀ calls c r, P calls (built calls) → (built calls).Outcome c r →
      built (calls ++ [c]) = r.after →
      empty.history (calls ++ [c]) = empty.history calls ++ [(c, r)] → P (calls ++ [c]) r.after)
    (calls : List (Call α)) : P calls (built calls) := by
  induction calls using List.reverseRecOn with
  | nil => exact initial
  | append_singleton calls c ih =>
    have after : built (calls ++ [c]) = ((built calls).perform c).after :=
      run_append_singleton empty calls c
    rw [after]
    exact step calls c _ ih (perform_outcome _ c) after (history_append_singleton empty calls c)

end Assembly
end RigidFrames
