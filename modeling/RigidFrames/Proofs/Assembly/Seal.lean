/-
  RigidFrames.Proofs.Assembly.Seal

  The checks that freezing makes on each frame by itself.

  A frame can be sealed when its offset fits and its parent is known
  (`Frame.seal_eq_ok_iff`); if not, what is wrong with it is its flaw
  (`Frame.seal_eq_error_iff`).  The frames of an assembly are checked in order,
  so the fault is the flaw of the first frame that has one
  (`mapM_seal_eq_ok_iff`, `mapM_seal_eq_error_iff`).
-/
import RigidFrames.Assembly.Freeze
import Mathlib.Data.List.Forall2
import Mathlib.Logic.Function.Basic

namespace RigidFrames

variable {α : Type}

-- ============================================================================
-- Checks in a row
-- ============================================================================

theorem mapM_eq_ok_iff {ε β γ : Type} (f : β → Except ε γ) (xs : List β) (ys : List γ) :
    xs.mapM f = .ok ys ↔ List.Forall₂ (fun x y => f x = .ok y) xs ys := by
  induction xs generalizing ys with
  | nil => cases ys <;> simp [pure, Except.pure]
  | cons x xs ih =>
    rw [List.mapM_cons]
    cases head : f x with
    | error e => cases ys <;> simp [head, bind, Except.bind]
    | ok y =>
      cases tail : xs.mapM f with
      | error e =>
        cases ys with
        | nil => simp [bind, Except.bind]
        | cons z zs => simp [bind, Except.bind, ← ih, tail]
      | ok rest =>
        cases ys with
        | nil => simp [bind, Except.bind, pure, Except.pure]
        | cons z zs => simp [bind, Except.bind, pure, Except.pure, ← ih, tail, head]

/-- The fault of a row of checks is that of the first check that fails. -/
theorem mapM_eq_error_iff {ε β γ : Type} (f : β → Except ε γ) (xs : List β) (e : ε) :
    xs.mapM f = .error e ↔ ∃ (k : Nat) (x : β), xs[k]? = some x ∧ f x = .error e ∧
      ∀ j < k, ∀ z, xs[j]? = some z → ∃ y, f z = .ok y := by
  induction xs with
  | nil => simp [pure, Except.pure]
  | cons x xs ih =>
    rw [List.mapM_cons]
    cases head : f x with
    | error d =>
      simp only [bind, Except.bind, Except.error.injEq]
      refine ⟨?_, ?_⟩
      · rintro rfl
        exact ⟨0, x, rfl, head, by simp⟩
      · rintro ⟨k, z, hz, fails, before⟩
        cases k with
        | zero => cases hz; rw [head] at fails; exact Except.error.inj fails
        | succ k =>
          obtain ⟨y, hy⟩ := before 0 (Nat.succ_pos k) x rfl
          rw [head] at hy
          cases hy
    | ok y =>
      have rest : xs.mapM f = .error e ↔
          (Except.ok y >>= fun y => do pure (y :: (← xs.mapM f))) = Except.error e := by
        cases xs.mapM f <;> simp [bind, Except.bind, pure, Except.pure]
      rw [← rest, ih]
      refine ⟨?_, ?_⟩
      · rintro ⟨k, z, hz, fails, before⟩
        refine ⟨k + 1, z, hz, fails, fun j lt w hw => ?_⟩
        cases j with
        | zero => cases hw; exact ⟨y, head⟩
        | succ j => exact before j (Nat.lt_of_succ_lt_succ lt) w hw
      · rintro ⟨k, z, hz, fails, before⟩
        cases k with
        | zero => cases hz; rw [head] at fails; cases fails
        | succ k =>
          exact ⟨k, z, hz, fails, fun j lt w hw => before (j + 1) (Nat.succ_lt_succ lt) w hw⟩

-- ============================================================================
-- One frame
-- ============================================================================

/-- The offset is finite, and the distance of its norm from one is not greater than the
    tolerance. -/
def Pose.Fits [Scalar α] (tolerance : α) (offset : Pose α) : Prop :=
  offset.isFinite = true ∧
    Scalar.lt tolerance (Scalar.abs (offset.rotation.norm - 1)) = false

instance [Scalar α] (tolerance : α) (offset : Pose α) : Decidable (offset.Fits tolerance) :=
  inferInstanceAs (Decidable (_ ∧ _))

/-- The same mount with other links. -/
def Mount.mapLink {L K : Type} (f : L → K) : Mount L α → Mount K α
  | ground => ground
  | grounded body => grounded body
  | attached parent offset => attached (f parent) offset

/-- The same frame with other links. -/
def Frame.mapLink {L K : Type} (f : L → K) (g : Frame L α) : Frame K α :=
  ⟨g.name, g.mount.mapLink f⟩

section

variable {L K : Type} (f : L → K) (name : String)

@[simp] theorem Frame.mapLink_ground :
    (⟨name, .ground⟩ : Frame L α).mapLink f = ⟨name, .ground⟩ := rfl

@[simp] theorem Frame.mapLink_grounded (body : BodyIndex) :
    (⟨name, .grounded body⟩ : Frame L α).mapLink f = ⟨name, .grounded body⟩ := rfl

@[simp] theorem Frame.mapLink_attached (parent : L) (offset : Pose α) :
    (⟨name, .attached parent offset⟩ : Frame L α).mapLink f = ⟨name, .attached (f parent) offset⟩ :=
  rfl

end

/-- What can be wrong with an attached frame by itself, given its parent. -/
inductive Frame.Flaw [Scalar α] (tolerance : α) (parent? : Option FrameId)
    (f : Frame (Option FrameId) α) : Fault α → Prop
  | parentMissing {link : Option FrameId} {offset : Pose α}
      (mount : f.mount = .attached link offset) (missing : parent? = none) :
      Flaw tolerance parent? f (.structural f.name .parentMissing)
  | offsetNotFinite {link : Option FrameId} {offset : Pose α}
      (mount : f.mount = .attached link offset) (parent : parent?.isSome = true)
      (bad : offset.isFinite = false) :
      Flaw tolerance parent? f (.degenerate f.name .offsetNotFinite)
  | offsetNorm {link : Option FrameId} {offset : Pose α} (mount : f.mount = .attached link offset)
      (parent : parent?.isSome = true) (finite : offset.isFinite = true)
      (far : Scalar.lt tolerance (Scalar.abs (offset.rotation.norm - 1)) = true) :
      Flaw tolerance parent? f (.degenerate f.name (.offsetNorm offset.rotation.norm))

theorem Frame.mapLink_injective :
    Function.Injective (Frame.mapLink some : Frame FrameId α → Frame (Option FrameId) α) := by
  rintro ⟨name, mount⟩ ⟨name', mount'⟩ eq
  cases mount <;> cases mount' <;> cases eq <;> rfl

section

variable [Scalar α]

theorem Frame.seal_of_flaw {tolerance : α} {f : Frame (Option FrameId) α} {fault : Fault α}
    (flaw : f.Flaw tolerance f.mount.parent?.join fault) : f.seal tolerance = .error fault := by
  obtain ⟨name, mount⟩ := f
  cases flaw with
  | @parentMissing link _ eq missing =>
    cases eq
    cases link with
    | none => rfl
    | some p => cases missing
  | @offsetNotFinite link offset eq parent bad =>
    cases eq
    cases link with
    | none => cases parent
    | some p => simp [Frame.seal, Pose.checkOffset, bad, bind, Except.bind]
  | @offsetNorm link offset eq parent finite far =>
    cases eq
    cases link with
    | none => cases parent
    | some p => simp [Frame.seal, Pose.checkOffset, finite, far, bind, Except.bind]

theorem Frame.seal_mapLink {tolerance : α} {g : Frame FrameId α}
    (fits : ∀ p offset, g.mount = .attached p offset → offset.Fits tolerance) :
    (g.mapLink some).seal tolerance = .ok g := by
  obtain ⟨name, mount⟩ := g
  cases mount with
  | ground => rfl
  | grounded body => rfl
  | attached p offset =>
    obtain ⟨finite, near⟩ := fits p offset rfl
    simp [mapLink, Mount.mapLink, Frame.seal, Pose.checkOffset, finite, near, bind, Except.bind]

/-- A frame has a flaw, or is the open form of a frame that can be sealed. -/
theorem Frame.flaw_or_fits (tolerance : α) (f : Frame (Option FrameId) α) :
    (∃ fault, f.Flaw tolerance f.mount.parent?.join fault) ∨
    ∃ g : Frame FrameId α, g.mapLink some = f ∧
      ∀ p offset, g.mount = .attached p offset → offset.Fits tolerance := by
  obtain ⟨name, mount⟩ := f
  cases mount with
  | ground => exact .inr ⟨⟨name, .ground⟩, rfl, nofun⟩
  | grounded body => exact .inr ⟨⟨name, .grounded body⟩, rfl, nofun⟩
  | attached link offset =>
    cases link with
    | none => exact .inl ⟨_, .parentMissing rfl rfl⟩
    | some p =>
      cases finite : offset.isFinite with
      | false => exact .inl ⟨_, .offsetNotFinite rfl rfl finite⟩
      | true =>
        cases far : Scalar.lt tolerance (Scalar.abs (offset.rotation.norm - 1)) with
        | true => exact .inl ⟨_, .offsetNorm rfl rfl finite far⟩
        | false =>
          refine .inr ⟨⟨name, .attached p offset⟩, rfl, fun _ _ eq => ?_⟩
          cases eq
          exact ⟨finite, far⟩

theorem Frame.seal_eq_ok_iff (tolerance : α) (f : Frame (Option FrameId) α) (g : Frame FrameId α) :
    f.seal tolerance = .ok g ↔
      g.mapLink some = f ∧ ∀ p offset, g.mount = .attached p offset → offset.Fits tolerance := by
  refine ⟨?_, ?_⟩
  · intro sealed
    rcases f.flaw_or_fits tolerance with ⟨fault, flaw⟩ | ⟨g', rfl, fits⟩
    · rw [seal_of_flaw flaw] at sealed
      cases sealed
    · rw [seal_mapLink fits] at sealed
      cases sealed
      exact ⟨rfl, fits⟩
  · rintro ⟨rfl, fits⟩
    exact seal_mapLink fits

theorem Frame.seal_eq_error_iff (tolerance : α) (f : Frame (Option FrameId) α) (fault : Fault α) :
    f.seal tolerance = .error fault ↔ f.Flaw tolerance f.mount.parent?.join fault := by
  refine ⟨fun fails => ?_, seal_of_flaw⟩
  rcases f.flaw_or_fits tolerance with ⟨fault', flaw⟩ | ⟨g, rfl, fits⟩
  · rw [seal_of_flaw flaw] at fails
    cases fails
    exact flaw
  · rw [seal_mapLink fits] at fails
    cases fails

-- ============================================================================
-- All frames
-- ============================================================================

/-- The offsets of all attached frames fit. -/
def AllFit (tolerance : α) (gs : Array (Frame FrameId α)) : Prop :=
  ∀ g ∈ gs, ∀ p offset, g.mount = .attached p offset → offset.Fits tolerance

/-- The frame in the place `k` is the first that has a flaw, and `fault` is its flaw. -/
def FirstFlaw (tolerance : α) (fs : Array (Frame (Option FrameId) α)) (k : Nat)
    (fault : Fault α) : Prop :=
  ∃ f, fs[k]? = some f ∧ f.Flaw tolerance f.mount.parent?.join fault ∧
    ∀ j < k, ∀ g, fs[j]? = some g → ∀ fault', ¬ g.Flaw tolerance g.mount.parent?.join fault'

theorem forall₂_seal_iff (tolerance : α) (fs : List (Frame (Option FrameId) α))
    (gs : List (Frame FrameId α)) :
    List.Forall₂ (fun f g => f.seal tolerance = .ok g) fs gs ↔ gs.map (·.mapLink some) = fs ∧
      ∀ g ∈ gs, ∀ p offset, g.mount = .attached p offset → offset.Fits tolerance := by
  induction gs generalizing fs with
  | nil => cases fs <;> simp
  | cons g gs ih =>
    cases fs with
    | nil => simp
    | cons f fs =>
      rw [List.forall₂_cons, Frame.seal_eq_ok_iff, ih, List.map_cons, List.cons.injEq,
        List.forall_mem_cons]
      exact and_and_and_comm

theorem mapM_seal_eq_ok_iff (tolerance : α) (fs : Array (Frame (Option FrameId) α))
    (gs : Array (Frame FrameId α)) :
    fs.mapM (·.seal tolerance) = .ok gs ↔ gs.map (·.mapLink some) = fs ∧ AllFit tolerance gs := by
  have lists : fs.mapM (·.seal tolerance) = .ok gs ↔
      fs.toList.mapM (·.seal tolerance) = .ok gs.toList := by
    rw [Array.mapM_eq_mapM_toList]
    cases fs.toList.mapM (·.seal tolerance) with
    | error fault => simp [Functor.map, Except.map]
    | ok ys => simp [Functor.map, Except.map, ← Array.toList_inj]
  rw [lists, mapM_eq_ok_iff, forall₂_seal_iff, ← Array.toList_inj, Array.toList_map, AllFit]
  simp only [Array.mem_toList_iff]

theorem mapM_seal_eq_error_iff (tolerance : α) (fs : Array (Frame (Option FrameId) α))
    (fault : Fault α) :
    fs.mapM (·.seal tolerance) = .error fault ↔ ∃ k, FirstFlaw tolerance fs k fault := by
  have lists : fs.mapM (·.seal tolerance) = .error fault ↔
      fs.toList.mapM (·.seal tolerance) = .error fault := by
    rw [Array.mapM_eq_mapM_toList]
    cases fs.toList.mapM (·.seal tolerance) <;> simp [Functor.map, Except.map]
  have sealed_iff (g : Frame (Option FrameId) α) : (∃ y, g.seal tolerance = .ok y) ↔
      ∀ fault', ¬ g.Flaw tolerance g.mount.parent?.join fault' := by
    simp only [← Frame.seal_eq_error_iff]
    cases g.seal tolerance <;> simp
  rw [lists, mapM_eq_error_iff]
  simp only [Array.getElem?_toList, sealed_iff, Frame.seal_eq_error_iff, FirstFlaw]

end

end RigidFrames
